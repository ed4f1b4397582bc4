import VolumeImport.Double.Script
import VolumeImport.Proofs.Engine.Cleanup
import VolumeImport.Proofs.Engine.Conversion
import VolumeImport.Proofs.Engine.DeviceFilling
import VolumeImport.Proofs.FileSystem.Following
import VolumeImport.Proofs.FileSystem.PathText

/-!
Which file the tools work on. An operation probes, permits and clears its destination by the bytes of the path,
while its tools are told the path as text. Where the bytes are those of a text, the tools are told just this path,
and a failure clears away the file that a tool left there, unless the path is a link: then the link goes, and the
file that it leads to stays. A path whose bytes are no text is told as another one.
-/

namespace VolumeImport

/-- The event is a probe of the destination, or a run that is told of it in its arguments. -/
def Event.Concerns (destination : Path) (told : List String → Prop) : Event → Prop
  | .probed _ path _ => path = destination
  | .ran invocation _ => told invocation.arguments

namespace Engine

variable {α ω : Type}

def Concerned (destination : Path) (told : List String → Prop) (before after : Session α ω) :
    Prop :=
  ∃ events, after.events = before.events ++ events ∧
    ∀ event ∈ events, event.Concerns destination told

section

variable {destination : Path} {told : List String → Prop} {before middle after : Session α ω}

theorem Concerned.trans (first : Concerned destination told before middle)
    (second : Concerned destination told middle after) :
    Concerned destination told before after := by
  obtain ⟨earlier, recorded, concerns⟩ := first
  obtain ⟨later, also, further⟩ := second
  refine ⟨earlier ++ later, by rw [also, recorded, List.append_assoc], ?_⟩
  intro event member
  rcases List.mem_append.mp member with old | new
  · exact concerns event old
  · exact further event new

theorem Concerned.imp {other : List String → Prop} (concerned : Concerned destination told before after)
    (tells : ∀ arguments, told arguments → other arguments) :
    Concerned destination other before after := by
  obtain ⟨events, recorded, concerns⟩ := concerned
  refine ⟨events, recorded, fun event member => ?_⟩
  have concern := concerns event member
  cases event with
  | ran invocation run => exact tells invocation.arguments concern
  | probed kind path answer => exact concern

theorem Concerned.run {engine : Engine ω} {runs : List (Invocation × Run)}
    (concerned : Concerned destination told before after) (makes : engine.Makes before after runs)
    (run : Invocation × Run) (listed : run ∈ runs) : told run.1.arguments := by
  obtain ⟨events, recorded, concerns⟩ := concerned
  have both := (Session.runs_append before after events recorded).symm.trans makes.recorded
  obtain rfl := List.append_cancel_left both
  obtain ⟨event, member, made⟩ := List.mem_filterMap.mp listed
  cases event with
  | ran invocation result =>
      obtain rfl : (invocation, result) = run := Option.some.inj made
      exact concerns _ member
  | probed kind path answer => cases made

theorem askProber_concerned (engine : Engine ω) (kind : ProbeKind) (destination : Path)
    (told : List String → Prop) (session : Session α ω) :
    Concerned destination told session (engine.askProber kind destination session).2 :=
  ⟨[_], rfl, by simp [Event.Concerns]⟩

theorem chooseCacheMode_concerned (engine : Engine ω) (hint : CacheHint) (destination : Path)
    (told : List String → Prop) (session : Session α ω) :
    Concerned destination told session (engine.chooseCacheMode hint destination session).2 := by
  unfold chooseCacheMode
  split
  · exact ⟨[], by simp, by simp⟩
  · exact ⟨[], by simp, by simp⟩
  · rename_i kind _
    have asked := engine.askProber_concerned kind destination told session
    split
    · rename_i answered
      rwa [answered] at asked
    · rename_i answered
      rwa [answered] at asked

theorem Phase.concerned {engine : Engine ω} {row : List Invocation}
    {outcome : Except ToolError Bytes} {runs : List (Invocation × Run)}
    (phase : engine.Phase row before after outcome runs)
    (tells : ∀ invocation ∈ row, told invocation.arguments) :
    Concerned destination told before after := by
  refine ⟨runs.map Event.ofRun, phase.recorded, ?_⟩
  intro event member
  obtain ⟨run, listed, rfl⟩ := List.mem_map.mp member
  exact tells run.1 (phase.member run listed)

end

theorem row_prefix (engine : Engine ω) (preallocate : Bool) (methods : List Preallocation.Method)
    (hasSink : Bool) (arguments : List String) (invocation : Invocation)
    (member : invocation ∈ engine.row preallocate methods .atEnd hasSink arguments) :
    arguments <+: invocation.arguments := by
  obtain ⟨flags, -, rfl⟩ := engine.row_member preallocate methods .atEnd hasSink _ _ member
  cases arguments with
  | nil => exact List.nil_prefix
  | cons first rest => exact List.prefix_append (first :: rest) flags

theorem convert_concerned (engine : Engine ω) (source : Source) (destination : Path)
    (preallocate : Bool) (hint : CacheHint) (session : Session α ω)
    (ended : Except ImportError Unit × Session α ω)
    (course : ConvertCourse engine source destination preallocate hint session ended) :
    Concerned destination (fun arguments => arguments.getLast? = some destination.text) session
      ended.2 := by
  have chooses := engine.chooseCacheMode_concerned hint destination
    (fun arguments => arguments.getLast? = some destination.text) session
  have tells : ∀ mode, ∀ invocation ∈ engine.row preallocate Preallocation.convertMethods
      .behindSubcommand true (Arguments.convert mode source destination),
      invocation.arguments.getLast? = some destination.text := by
    intro mode invocation member
    obtain ⟨flags, -, same⟩ := row_flags engine preallocate _ true _ _ invocation member
    simp [same, List.getLast?_cons, List.getLast?_append]
  cases course with
  | refused error barred => exact ⟨[], by simp, by simp⟩
  | undecided error after admitted unclear =>
      rw [unclear] at chooses
      exact chooses
  | failed mode middle after cause runs admitted chosen phase =>
      rw [chosen] at chooses
      exact chooses.trans (phase.concerned (tells mode))
  | done mode middle after output runs admitted chosen phase =>
      rw [chosen] at chooses
      exact chooses.trans (phase.concerned (tells mode))

theorem create_concerned (engine : Engine ω) (destination : Path) (size : Quantity)
    (preallocate : Bool) (session : Session α ω) (ended : Except ImportError Unit × Session α ω)
    (course : CreateCourse engine destination size preallocate session ended) :
    Concerned destination (fun arguments => arguments[3]? = some destination.text) session
      ended.2 := by
  have tells : ∀ invocation ∈ engine.row preallocate Preallocation.createMethods .atEnd false
      (Arguments.create destination size), invocation.arguments[3]? = some destination.text := by
    intro invocation member
    obtain ⟨flags, same⟩ := row_prefix engine preallocate _ false _ invocation member
    rw [← same]
    rfl
  cases course with
  | failed after cause runs phase => exact phase.concerned tells
  | unprotected after output error runs phase refused => exact phase.concerned tells
  | done after output files runs phase changed => exact phase.concerned tells

variable [Progress.Percentage α]

theorem zeroDevice_concerned (engine : Engine ω) (destination : Path) (size : Quantity)
    (session : Session α ω) :
    Concerned destination (fun arguments => arguments[1]? = some ("of=" ++ destination.text))
      session (engine.zeroDevice destination size session).2 := by
  unfold zeroDevice
  cases size.byteCount with
  | error error => exact ⟨[], by simp, by simp⟩
  | ok bytes =>
      obtain ⟨passes, behind, recorded, -, -, ending⟩ :=
        sweepAll_passes engine destination (Zeroing.sweeps bytes) session
      refine ⟨passes.flatMap (Pass.events engine destination) ++ behind, recorded, ?_⟩
      intro event member
      rcases List.mem_append.mp member with made | last
      · obtain ⟨pass, -, listed⟩ := List.mem_flatMap.mp made
        rcases List.mem_pair.mp listed with rfl | rfl
        · rfl
        · rfl
      · generalize (engine.sweepAll destination (Zeroing.sweeps bytes) session).1 = result at ending
        cases ending with
        | complete => cases last
        | unprobed cause short succeeded =>
            obtain rfl := List.mem_singleton.mp last
            rfl
        | failed => cases last

/-- What a failure makes of a file at the path that a tool was told to write. -/
structure ClearsTold (told : Path) (before after : FileSystem) : Prop where
  direct : ∀ place mode content, before.locate told false = .ok (place, .file mode content) →
    after.node? place = none
  linked : ∀ spot target place mode content, before.locate told false = .ok (spot, .link target) →
    before.locate told true = .ok (place, .file mode content) →
    after.node? spot = none ∧ after.node? place = some (.file mode content)
  either : ∀ place mode content, before.locate told true = .ok (place, .file mode content) →
    before.locate told false = .ok (place, .file mode content) ∨
      ∃ spot target, before.locate told false = .ok (spot, .link target)

theorem Cleared.clearsTold {destination : Path} {before after : FileSystem}
    (cleared : Cleared destination before after) : ClearsTold destination before after where
  direct place mode content found :=
    cleared.gone place _ found (by simp [IsKept, Node.isBlockDevice, Node.isDirectory])
  linked := by
    intro spot target place mode content link file
    have here := before.locate_taken destination false spot _ link
    have behind := before.locate_taken destination true place _ file
    refine ⟨cleared.gone spot _ link (by simp [IsKept, Node.isBlockDevice, Node.isDirectory]), ?_⟩
    rw [← behind]
    apply cleared.kept place
    intro node found
    obtain ⟨rfl, rfl⟩ := Prod.mk.inj (Except.ok.inj (link.symm.trans found))
    rw [here] at behind
    cases behind
  either := by
    intro place mode content found
    obtain ⟨spot, entry, unfollowed, ⟨rfl, rfl⟩ | link⟩ :=
      before.locate_unfollowed destination place _ found
    · exact .inl unfollowed
    · cases entry with
      | link target => exact .inr ⟨spot, target, unfollowed⟩
      | _ => cases link

/-- The tools work on the destination that the operation itself works on: a destination whose bytes are those of
a text is handed to them byte for byte, and no other such destination is told alike. A file that the last run left
at the path it was told to write is cleared away after a failure, unless a link leads there; then the link is. -/
theorem tools_share_destination (engine : Engine ω) (source : Source) (destination : Path)
    (size : Quantity) (preallocate : Bool) (hint : CacheHint) (session : Session α ω)
    (sound : destination.IsText) :
    (Concerned destination
        (fun arguments => arguments.getLast?.map Utf8.encode = some destination.bytes) session
        (engine.convert source destination preallocate hint session).2 ∧
      Concerned destination
        (fun arguments => arguments[3]?.map Utf8.encode = some destination.bytes) session
        (engine.create destination size preallocate session).2 ∧
      Concerned destination
        (fun arguments => ∃ text, arguments[1]? = some ("of=" ++ text) ∧
          Utf8.encode text = destination.bytes) session
        (engine.zeroDevice destination size session).2) ∧
    (∀ other : Path, other.IsText → other.text = destination.text → other = destination) ∧
    (∃ runs,
      engine.Makes session (engine.convert source destination preallocate hint session).2 runs ∧
      ∀ error last, (engine.convert source destination preallocate hint session).1 = .error error →
        runs.getLast? = some last →
        ∃ argument, last.1.arguments.getLast? = some argument ∧
          ClearsTold (.ofText argument) last.2.files
            (engine.convert source destination preallocate hint session).2.files) ∧
    ∃ runs last, engine.Makes session (engine.create destination size preallocate session).2 runs ∧
      runs.getLast? = some last ∧ ∃ argument, last.1.arguments[3]? = some argument ∧
      match (engine.create destination size preallocate session).1 with
      | .error _ => ClearsTold (.ofText argument) last.2.files
          (engine.create destination size preallocate session).2.files
      | .ok () => Permitted (.ofText argument) 0o660 last.2.files
          (engine.create destination size preallocate session).2.files := by
  have told : Path.ofText destination.text = destination := destination.told_iff.mpr sound
  have bytes : Utf8.encode destination.text = destination.bytes := congrArg Path.bytes told
  have converts := convert_course engine source destination preallocate hint session
  have creates := create_course engine destination size preallocate session
  have converted := convert_concerned engine source destination preallocate hint session _ converts
  have created := create_concerned engine destination size preallocate session _ creates
  refine ⟨⟨?_, ?_, ?_⟩, ?_, ?_, ?_⟩
  · exact converted.imp fun arguments last => by simp [last, bytes]
  · exact created.imp fun arguments fourth => by simp [fourth, bytes]
  · exact (zeroDevice_concerned engine destination size session).imp
      fun arguments second => ⟨destination.text, second, bytes⟩
  · exact fun other also same => other.text_injective destination also sound same
  · obtain ⟨runs, makes, -, left⟩ :=
      convert_clears engine source destination preallocate hint session _ converts
    refine ⟨runs, makes, fun error last failed final => ?_⟩
    refine ⟨_, converted.run makes last (List.mem_of_getLast? final), ?_⟩
    rw [failed, final] at left
    rw [told]
    exact Cleared.clearsTold left
  · obtain ⟨runs, last, makes, final, -, left⟩ :=
      create_clears engine destination size preallocate session _ creates
    refine ⟨runs, last, makes, final, _, created.run makes last (List.mem_of_getLast? final), ?_⟩
    rw [told]
    cases ended : (engine.create destination size preallocate session).1 with
    | error error =>
        rw [ended] at left
        exact Cleared.clearsTold left
    | ok done =>
        rw [ended] at left
        exact left

/-- The tool leaves a file where it was told to write, and fails. -/
theorem told_file_cleared :
    let engine : Engine Double.Script :=
      ⟨Options.default, Double.Script.runner, Double.Script.prober, rfl⟩
    let source := Source.localFile (Path.ofText "image")
    let volume := Path.ofText "volume"
    let failing : Double.Step :=
      ⟨[], [.write volume (Utf8.encode "partial")], .error (.exited "qemu-img" 1 "" "boom")⟩
    let session : Session Int Double.Script :=
      ⟨FileSystem.empty [], .empty, ⟨[failing], [], []⟩, []⟩
    let ended := engine.convert source volume false .writeback session
    volume.IsText ∧ ∃ run, ended.2.runs = [run] ∧
      run.1.arguments.getLast?.map Utf8.encode = some volume.bytes ∧
      run.2.files.node? [volume.bytes] = some (.file 0o644 (Utf8.encode "partial")) ∧
      ended.2.files.node? [volume.bytes] = none := by
  intro engine source volume failing session ended
  have sound := Path.ofText_isText "volume"
  obtain ⟨⟨-, -, -⟩, -, ⟨runs, makes, clears⟩, -⟩ := tools_share_destination engine source volume
    (Quantity.ofBytes 512) false .writeback session sound
  have ran : ended.2.runs = runs := makes.recorded
  obtain ⟨argument, told, cleared⟩ := clears _ _ rfl (by rw [← ran]; rfl)
  obtain rfl : "volume" = argument := Option.some.inj (told.symm.trans rfl).symm
  exact ⟨sound, _, rfl, rfl, rfl, cleared.direct [volume.bytes] 0o644 (Utf8.encode "partial") rfl⟩

/-- A path of one byte that begins no text is told as another path, and so is another such path: the file that the
tool leaves there outlives its failure. A link to nothing is told as it is, and the file that the tool makes behind
it outlives the link. -/
theorem partial_file_remains :
    let engine : Engine Double.Script :=
      ⟨Options.default, Double.Script.runner, Double.Script.prober, rfl⟩
    let source := Source.localFile (Path.ofText "image")
    let failing : Double.Step :=
      ⟨[], [.overwriteLast], .error (.exited "qemu-img" 1 "" "boom")⟩
    let convert : FileSystem → Path → Except ImportError Unit × Session Int Double.Script :=
      fun files destination => engine.convert source destination false .writeback
        ⟨files, .empty, ⟨[failing], [], []⟩, []⟩
    let volume := Path.ofText "volume"
    let target := Path.ofText "target"
    let nameless := convert (FileSystem.empty []) ⟨[0xFF]⟩
    let linked := convert ((FileSystem.empty []).put [volume.bytes] (.link target)) volume
    ((∃ error, nameless.1 = .error error) ∧
      nameless.2.runs.map (·.1.arguments) =
        (convert (FileSystem.empty []) ⟨[0xFE]⟩).2.runs.map (·.1.arguments) ∧
      nameless.2.runs.map (·.1.arguments.getLast?.map Utf8.encode) = [some [0xEF, 0xBF, 0xBD]] ∧
      nameless.2.files.node? [[0xEF, 0xBF, 0xBD]] =
        some (.file 0o644 (Utf8.encode "partial"))) ∧
    (∃ error, linked.1 = .error error) ∧
      linked.2.runs.map (·.1.arguments.getLast?.map Utf8.encode) = [some volume.bytes] ∧
      linked.2.files.node? [volume.bytes] = none ∧
      linked.2.files.node? [target.bytes] = some (.file 0o644 (Utf8.encode "partial")) := by
  intro engine source failing convert volume target nameless linked
  refine ⟨⟨⟨_, rfl⟩, ?_, ?_, ?_⟩, ⟨_, rfl⟩, ?_, ?_, ?_⟩
  all_goals decide +kernel

end Engine

end VolumeImport
