import VolumeImport.Proofs.Engine.Cleanup
import VolumeImport.Proofs.Engine.Conversion
import VolumeImport.Proofs.Engine.Supervision
import VolumeImport.Proofs.FileSystem.Following

/-!
Failures at a destination that leads to a block device. How to write to a destination is decided by what it
leads to, but what to clear away by what lies at it. The device itself is always kept; a link to it is taken
away, as if it were a half-written file.
-/

namespace VolumeImport.Engine

variable {α ω : Type}

/-- A destination that leads to a device, with the entry that lies at it: the device, or a link. -/
structure LeadsToDevice (files : FileSystem) (destination : Path) (spot : Location) (entry : Node)
    (place : Location) (device : Node) : Prop where
  unfollowed : files.locate destination false = .ok (spot, entry)
  followed : files.locate destination true = .ok (place, device)
  isDevice : device.isBlockDevice = true
  direct : (spot = place ∧ entry = device) ∨ entry.isLink = true

theorem leadsToDevice_of_stat (files : FileSystem) (destination : Path) (device : Node)
    (found : files.stat destination = .ok device) (isDevice : device.isBlockDevice = true) :
    ∃ spot entry place, LeadsToDevice files destination spot entry place device := by
  obtain ⟨place, followed⟩ := locate_of_found files destination true device found
  obtain ⟨spot, entry, unfollowed, direct⟩ := files.locate_unfollowed destination place device followed
  exact ⟨spot, entry, place, unfollowed, followed, isDevice, direct⟩

structure Remains (after : FileSystem) (spot : Location) (entry : Node) (place : Location)
    (device : Node) : Prop where
  atDestination : after.node? spot = some entry
  behind : after.node? place = some device

section Clearing

variable {files : FileSystem} {destination : Path} {spot place : Location} {entry device : Node}

theorem LeadsToDevice.remains (leads : LeadsToDevice files destination spot entry place device) :
    Remains files spot entry place device where
  atDestination := files.locate_taken destination false spot entry leads.unfollowed
  behind := files.locate_taken destination true place device leads.followed

theorem clearDestination_device
    (leads : LeadsToDevice files destination spot entry place device) :
    clearDestination files destination = if entry.isLink then files.erase spot else files := by
  rcases leads.direct with ⟨-, rfl⟩ | link
  · have kept := clearDestination_kept files destination spot entry leads.unfollowed (.inl leads.isDevice)
    have isDevice := leads.isDevice
    cases entry <;> simp_all [Node.isLink, Node.isBlockDevice]
  · have plain : ¬IsKept entry := by
      cases entry <;> simp [Node.isLink, IsKept, Node.isBlockDevice, Node.isDirectory] at link ⊢
    rw [clearDestination_erased files destination spot entry leads.unfollowed plain, if_pos link]

theorem remains_clearDestination
    (leads : LeadsToDevice files destination spot entry place device) :
    (clearDestination files destination).node? place = some device ∧
      (Remains (clearDestination files destination) spot entry place device ↔
        entry.isLink = false) := by
  have remains := leads.remains
  rw [clearDestination_device leads]
  cases link : entry.isLink with
  | false => exact ⟨remains.behind, iff_of_true remains rfl⟩
  | true =>
      have apart : place ≠ spot := by
        rintro rfl
        have same : device = entry := Option.some.inj (remains.behind.symm.trans remains.atDestination)
        have isDevice := leads.isDevice
        rw [same] at isDevice
        cases entry <;> simp [Node.isLink, Node.isBlockDevice] at link isDevice
      refine ⟨by simp [apart, remains.behind], iff_of_false ?_ (by simp)⟩
      rintro ⟨still, -⟩
      simp at still

end Clearing

structure LeavesFiles (engine : Engine ω) : Prop where
  run : ∀ invocation files world, (engine.run invocation files world).1.files = files
  probe : ∀ path files world, (engine.probe .blockDevice path files world).1.2 = files

theorem chooseCacheMode_leaves (engine : Engine ω) (leaves : LeavesFiles engine) (hint : CacheHint)
    (destination : Path) (session : Session α ω) (device : Node)
    (found : session.files.stat destination = .ok device) (isDevice : device.isBlockDevice = true) :
    (engine.chooseCacheMode hint destination session).2.files = session.files := by
  cases hint with
  | writeback => rfl
  | tryDirect =>
      rw [chooseCacheMode_asks engine .tryDirect destination session .blockDevice
        (neededProbe_of_probedAs destination session.files _ (.device device found isDevice))]
      exact leaves.probe destination session.files session.world

variable [Progress.Percentage α]

theorem attempt_leaves (engine : Engine ω) (leaves : LeavesFiles engine) (preallocate : Bool)
    (methods : List Preallocation.Method) (placement : Preallocation.Placement) (hasSink : Bool)
    (arguments : List String) (session : Session α ω) :
    (engine.attempt preallocate methods placement hasSink arguments session).2.files =
      session.files := by
  have once : ∀ call (before : Session α ω),
      (engine.runImageTool none hasSink call before).2.files = before.files :=
    fun call before => leaves.run _ before.files before.world
  cases preallocate with
  | false => exact once arguments session
  | true =>
      apply Preallocation.tryInOrder_keeps (engine.runImageTool none hasSink) arguments placement
        methods session (fun reached => reached.files = session.files)
      · intro call member reached kept
        exact (once call reached).trans kept
      · rfl

theorem convert_leaves (engine : Engine ω) (leaves : LeavesFiles engine) (source : Source)
    (destination : Path) (preallocate : Bool) (hint : CacheHint) (session : Session α ω)
    (device : Node) (found : session.files.stat destination = .ok device)
    (isDevice : device.isBlockDevice = true) (error : ImportError)
    (failed : (engine.convert source destination preallocate hint session).1 = .error error) :
    let after := (engine.convert source destination preallocate hint session).2
    (after.runs = session.runs ∧ after.files = session.files) ∨
      (after.runs ≠ session.runs ∧ after.files = clearDestination session.files destination) := by
  have unrun := (chooseCacheMode_outcome engine hint destination session).1
  have untouched := chooseCacheMode_leaves engine leaves hint destination session device found isDevice
  unfold convert at failed ⊢
  cases admitted : source.requireScheme [exportScheme] with
  | error _ => exact .inl ⟨rfl, rfl⟩
  | ok _ =>
      simp only [admitted] at failed
      rcases chosen : engine.chooseCacheMode hint destination session with ⟨_ | mode, middle⟩
      · rw [chosen] at unrun untouched
        exact .inl ⟨unrun, untouched⟩
      · rw [chosen] at unrun untouched
        simp only [chosen] at failed
        have kept := attempt_leaves engine leaves preallocate Preallocation.convertMethods
          .behindSubcommand true (Arguments.convert mode source destination) middle
        obtain ⟨runs, phase⟩ := attempt_phase engine preallocate Preallocation.convertMethods
          .behindSubcommand true (Arguments.convert mode source destination) middle
        dsimp only
        rcases made : engine.attempt preallocate Preallocation.convertMethods .behindSubcommand true
          (Arguments.convert mode source destination) middle with ⟨cause | output, after⟩
        · rw [made] at kept phase
          refine .inr ⟨?_, ?_⟩
          · show after.runs ≠ session.runs
            rw [(phase.makes after.files).recorded, unrun]
            simpa using phase.ran
          · show clearDestination after.files destination = _
            rw [kept, untouched]
        · simp [made] at failed

theorem create_leaves (engine : Engine ω) (leaves : LeavesFiles engine) (destination : Path)
    (size : Quantity) (preallocate : Bool) (session : Session α ω) (error : ImportError)
    (failed : (engine.create destination size preallocate session).1 = .error error) :
    (engine.create destination size preallocate session).2.files =
      clearDestination session.files destination := by
  have kept := attempt_leaves engine leaves preallocate Preallocation.createMethods .atEnd false
    (Arguments.create destination size) session
  unfold create at failed ⊢
  rcases made : engine.attempt preallocate Preallocation.createMethods .atEnd false
    (Arguments.create destination size) session with ⟨cause | output, after⟩
  · rw [made] at kept
    exact congrArg (clearDestination · destination) kept
  · rw [made] at kept
    simp only [made] at failed ⊢
    cases changed : after.files.chmod destination newImageMode with
    | ok files => simp [changed] at failed
    | error _ => exact congrArg (clearDestination · destination) kept

/-- A failure at a destination that leads to a device never costs the device. It costs the entry at the
destination exactly if that is a link and there has been a run. -/
theorem device_destination_remains_iff (engine : Engine ω) (leaves : LeavesFiles engine)
    (source : Source) (destination : Path) (size : Quantity) (preallocate : Bool)
    (hint : CacheHint) (session : Session α ω) (device : Node)
    (found : session.files.stat destination = .ok device)
    (isDevice : device.isBlockDevice = true) :
    ∃ spot entry place, LeadsToDevice session.files destination spot entry place device ∧
      (∀ error, (engine.convert source destination preallocate hint session).1 = .error error →
        let after := (engine.convert source destination preallocate hint session).2
        after.files.node? place = some device ∧
          (Remains after.files spot entry place device ↔
            entry.isLink = false ∨ after.runs = session.runs)) ∧
      (∀ error, (engine.create destination size preallocate session).1 = .error error →
        let after := (engine.create destination size preallocate session).2
        after.files.node? place = some device ∧
          (Remains after.files spot entry place device ↔ entry.isLink = false)) := by
  obtain ⟨spot, entry, place, leads⟩ :=
    leadsToDevice_of_stat session.files destination device found isDevice
  have ⟨kept, remains⟩ := remains_clearDestination leads
  refine ⟨spot, entry, place, leads, ?_, ?_⟩
  · intro error failed
    dsimp only
    rcases convert_leaves engine leaves source destination preallocate hint session device found
      isDevice error failed with ⟨unrun, files⟩ | ⟨ran, files⟩
    · rw [files]
      exact ⟨leads.remains.behind, iff_of_true leads.remains (.inr unrun)⟩
    · rw [files]
      exact ⟨kept, by simp [remains, ran]⟩
  · intro error failed
    dsimp only
    rw [create_leaves engine leaves destination size preallocate session error failed]
    exact ⟨kept, remains⟩

/-- A tool that fails without a trace, at a device and at a link to it. -/
theorem failures_remain_at_device :
    let engine : Engine (List Invocation) :=
      ⟨Options.default, noting (.error (.exited "qemu-img" 1 "" "boom")), assenting, rfl⟩
    let source := Source.localFile (Path.ofText "image")
    let disk := Path.ofText "disk"
    let session : Session Int (List Invocation) :=
      ⟨(FileSystem.empty []).put [disk.bytes] (.blockDevice 0o660), .empty, [], []⟩
    LeavesFiles engine ∧ session.files.stat disk = .ok (.blockDevice 0o660) ∧
      ∃ spot entry place,
        LeadsToDevice session.files disk spot entry place (.blockDevice 0o660) ∧
        (∀ error, (engine.convert source disk true .tryDirect session).1 = .error error →
          let after := (engine.convert source disk true .tryDirect session).2
          after.files.node? place = some (.blockDevice 0o660) ∧
            (Remains after.files spot entry place (.blockDevice 0o660) ↔
              entry.isLink = false ∨ after.runs = session.runs)) ∧
        (∀ error, (engine.create disk (Quantity.ofBytes 512) true session).1 = .error error →
          let after := (engine.create disk (Quantity.ofBytes 512) true session).2
          after.files.node? place = some (.blockDevice 0o660) ∧
            (Remains after.files spot entry place (.blockDevice 0o660) ↔ entry.isLink = false)) := by
  intro engine source disk session
  have leaves : LeavesFiles engine := ⟨fun _ _ _ => rfl, fun _ _ _ => rfl⟩
  exact ⟨leaves, rfl, device_destination_remains_iff engine leaves source disk (Quantity.ofBytes 512)
    true .tryDirect session (.blockDevice 0o660) rfl rfl⟩

/-- A chain of two links to a device. The destination is probed as a device, and its first link is gone after
the failure. -/
theorem link_to_device_cleared :
    let engine : Engine (List Invocation) :=
      ⟨Options.default, noting (.error (.exited "qemu-img" 1 "" "boom")), assenting, rfl⟩
    let source := Source.localFile (Path.ofText "image")
    let volume := Path.ofText "volume"
    let mapper := Path.ofText "mapper"
    let disk := Path.ofText "disk"
    let files := ((FileSystem.empty []).put [disk.bytes] (.blockDevice 0o660)).put [mapper.bytes]
      (.link disk)
    let session : Session Int (List Invocation) :=
      ⟨files.put [volume.bytes] (.link mapper), .empty, [], []⟩
    let converted := (engine.convert source volume false .tryDirect session).2
    let created := (engine.create volume (Quantity.ofBytes 512) false session).2
    LeavesFiles engine ∧ session.files.stat volume = .ok (.blockDevice 0o660) ∧
      session.files.node? [volume.bytes] = some (.link mapper) ∧
      neededProbe .tryDirect volume session.files = .ok (some .blockDevice) ∧
      (∃ error, (engine.convert source volume false .tryDirect session).1 = .error error) ∧
      converted.files = files ∧ converted.files.node? [volume.bytes] = none ∧
      (∃ error, (engine.create volume (Quantity.ofBytes 512) false session).1 = .error error) ∧
      created.files = files ∧ created.files.node? [volume.bytes] = none := by
  intro engine source volume mapper disk files session converted created
  exact ⟨⟨fun _ _ _ => rfl, fun _ _ _ => rfl⟩, rfl, rfl, rfl, ⟨_, rfl⟩, rfl, rfl, ⟨_, rfl⟩, rfl, rfl⟩

end VolumeImport.Engine
