import VolumeImport.Progress.Gauge
import VolumeImport.Progress.Token

/-!
Publishing the progress that a tool prints. Only increases are published, so a counter never goes back
when the tool starts over or prints a lower value.
-/

namespace VolumeImport.Progress

variable {α : Type} [Percentage α]

def publicOwner (owner : Option String) : Option String :=
  -- the empty name is no owner
  owner.filter (· ≠ "")

def increase (published : α) (line : String) : Option α := do
  let hundredths ← parse line
  let value := Percentage.ofHundredths hundredths
  -- only what is above the counter is published, and never nothing
  if Percentage.exceeds value Percentage.zero && Percentage.exceeds value published then
    some (Percentage.sub value published)
  else none

def publication (gauge : Gauge α) (owner : Option String) (line : String) : Option (String × α) := do
  let owner ← publicOwner owner
  let delta ← increase (gauge.get owner) line
  pure (owner, delta)

def report (owner : Option String) (gauge : Gauge α) (line : String) : Gauge α :=
  match publication gauge owner line with
  | some (owner, delta) => gauge.add owner delta
  | none => gauge

def reportAll (owner : Option String) (gauge : Gauge α) (lines : List String) : Gauge α :=
  lines.foldl (report owner) gauge

end VolumeImport.Progress
