/-
Module: DawnShell.Proofs.CgroupNegotiation
Layer: Proofs
Purpose: What is mounted and denied when a supervisor has negotiated its namespaces.  Every backend is
  specified by the hierarchies it can leave behind when it fails half-way, and the cleanup by the one it
  takes away, so that the mounts of DawnShell are followed through every order in which they are tried.
Trusted boundary: none
Main exports: Mounted, Resolved, cleanupCgroupHierarchy_unmounts, negotiateCgroupMode_resolves,
  set_systemd_parent_namespaces_negotiates
-/
import DawnShell.Launcher.Cgroup

namespace DawnShell.Launcher

open Interaction

variable {controlDir : Text} {usb : HostUsbPolicy} {world next : CgroupWorld} {α : Type}

/-! ### Mounts -/

/-- The path of a mount, whether it fits a buffer or not. -/
def Hierarchy.mountPath (controlDir : Text) (hierarchy : Hierarchy) : Text :=
  controlDir ++ '/' :: hierarchy.mountName

/-- The mounts of DawnShell are exactly those of these hierarchies, and each has been made at a path that
the cleanup can name. -/
structure Mounted (controlDir : Text) (hierarchies : List Hierarchy) (world : CgroupWorld) : Prop where
  mounts : world.mounts = hierarchies.map fun hierarchy => (hierarchy, hierarchy.mountPath controlDir)
  named : ∀ hierarchy ∈ hierarchies, (delegatedCgroupPaths controlDir hierarchy).isSome = true

/-- A path that fits its buffer is the base and the relative name with one slash between them. -/
theorem joinedPath_eq {base relative path : Text} (joined : joinedPath base relative = some path) :
    path = base ++ '/' :: relative := by
  rw [joinedPath] at joined
  split at joined
  · cases joined
    rfl
  · cases joined

/-- When both paths of a hierarchy fit, they are its mount and the child of DawnShell in it. -/
theorem delegatedCgroupPaths_eq {hierarchy : Hierarchy} {paths : DelegatedPaths}
    (fits : delegatedCgroupPaths controlDir hierarchy = some paths) :
    paths.mount = hierarchy.mountPath controlDir ∧
      paths.child = hierarchy.mountPath controlDir ++ '/' :: cgroupChildName := by
  simp only [delegatedCgroupPaths, Option.bind_eq_bind, Option.bind_eq_some_iff] at fits
  obtain ⟨mount, first, child, second, made⟩ := fits
  cases made
  have here := joinedPath_eq first
  subst here
  exact ⟨rfl, joinedPath_eq second⟩

/-- The payload group of the unified hierarchy lies below the child that the other paths name. -/
theorem unifiedCgroupPaths_eq {paths : DelegatedPaths} {payload : Text}
    (fits : unifiedCgroupPaths controlDir = some (paths, payload)) :
    delegatedCgroupPaths controlDir .unified = some paths ∧
      payload = paths.child ++ '/' :: cgroupPayloadName := by
  simp only [unifiedCgroupPaths, Option.bind_eq_bind, Option.bind_eq_some_iff] at fits
  obtain ⟨found, first, joined, second, made⟩ := fits
  cases made
  exact ⟨first, joinedPath_eq second⟩

/-- Different hierarchies are mounted at different paths, so that a cleanup takes away only its own. -/
theorem mountPath_inj {first second : Hierarchy}
    (same : first.mountPath controlDir = second.mountPath controlDir) : first = second := by
  have names : first.mountName = second.mountName := by
    have tails := List.append_cancel_left same
    exact (List.cons.inj tails).2
  revert names
  cases first <;> cases second <;> decide

theorem Mounted.mount {hierarchies : List Hierarchy} {hierarchy : Hierarchy} {paths : DelegatedPaths}
    (mounted : Mounted controlDir hierarchies world)
    (fits : delegatedCgroupPaths controlDir hierarchy = some paths)
    (made : next.mounts = (hierarchy, paths.mount) :: world.mounts) :
    Mounted controlDir (hierarchy :: hierarchies) next where
  mounts := by
    rw [made, mounted.mounts, (delegatedCgroupPaths_eq fits).1]
    rfl
  named other among := by
    rcases List.mem_cons.mp among with rfl | before
    · rw [fits]
      rfl
    · exact mounted.named other before

/-- Which hierarchies are mounted depends on the list of mounts alone. -/
theorem Mounted.of_mounts_eq {hierarchies : List Hierarchy} (mounted : Mounted controlDir hierarchies world)
    (same : next.mounts = world.mounts) : Mounted controlDir hierarchies next :=
  ⟨same.trans mounted.mounts, mounted.named⟩

/-- At the beginning DawnShell has mounted nothing. -/
theorem mounted_initial : Mounted controlDir [] {} where
  mounts := rfl
  named := nofun

/-! ### Calls -/

/-- The calls that change what is mounted. -/
def CgroupCall.mountsOrUnmounts : CgroupCall → Bool
  | .mount .. | .umount _ => true
  | _ => false

/-- A call that neither mounts nor unmounts leaves the list of mounts as it is, whatever it answers. -/
theorem observe_mounts {request : CgroupCall} {answer : request.Answer}
    (apart : request.mountsOrUnmounts = false)
    (moved : world.observe ⟨request, answer⟩ = some next) : next.mounts = world.mounts := by
  cases request with
  | mount | umount => cases apart
  | writeValue | bpfAttach | bpfDetach | rmdir =>
      cases answer <;> cases moved <;> rfl
  | _ =>
      cases moved
      rfl

/-- The calls that change nothing. -/
def CgroupCall.quiet : CgroupCall → Bool
  | .mount .. | .umount _ | .writeValue .. | .bpfAttach .. | .bpfDetach _ | .rmdir _ => false
  | _ => true

/-- A call that only looks leaves the world as it is. -/
theorem observe_quiet {request : CgroupCall} {answer : request.Answer} (quiet : request.quiet = true)
    (moved : world.observe ⟨request, answer⟩ = some next) : next = world := by
  cases request with
  | mount | umount | writeValue | bpfAttach | bpfDetach | rmdir => cases quiet
  | _ =>
      cases moved
      rfl

/-- A program that makes one such call ends in the world in which it began. -/
theorem kernel_quiet {request : CgroupCall} (quiet : request.quiet = true) :
    Tracks CgroupWorld.observe world (kernel request) fun last _ => last = world :=
  tracks_answer fun _ _ moved => observe_quiet quiet moved

/-- A program of one call that neither mounts nor unmounts ends with the mounts it began with. -/
theorem kernel_mounts {request : CgroupCall} (apart : request.mountsOrUnmounts = false) :
    Tracks CgroupWorld.observe world (kernel request) fun last _ => last.mounts = world.mounts :=
  tracks_answer fun _ _ moved => observe_mounts apart moved

/-! ### Steps that mount nothing -/

@[simp] theorem failErrno_exit (stage : String) (errno : Errno) (exit : Nat) :
    (failErrno stage errno exit).exit = exit := rfl

@[simp] theorem failMessage_exit (stage text : String) (exit : Nat) :
    (failMessage stage text exit).exit = exit := rfl

/-- A step that ends in a failure with its stage and code has only to be specified for both answers of
the call behind it. -/
theorem attempt_achieves {program : CgroupProgram (Option Errno)} {stage : String} {exit : Nat}
    {failed post : CgroupWorld → Prop} (nonzero : exit ≠ 0)
    (holds : Tracks CgroupWorld.observe world program fun last answer =>
      match answer with
      | none => post last
      | some _ => failed last) :
    Achieves CgroupWorld.observe world (attempt program stage exit)
      (fun last failure => failure.exit ≠ 0 ∧ failed last) (fun last _ => post last) := by
  apply achieves_bind
  apply achieves_lift
  apply holds.mono
  intro last answer after
  cases answer with
  | none => exact achieves_pure after
  | some errno => exact achieves_throw ⟨nonzero, after⟩

/-- The steps leave everything as it is, also when they fail. -/
def Untouched (program : CgroupSteps α) : Prop :=
  ∀ world, Achieves CgroupWorld.observe world program
    (fun last failure => failure.exit ≠ 0 ∧ last = world) (fun last _ => last = world)

/-- The steps leave the mounts as they are, also when they fail. -/
def KeepsMounts (program : CgroupSteps α) : Prop :=
  ∀ world, Achieves CgroupWorld.observe world program
    (fun last failure => failure.exit ≠ 0 ∧ last.mounts = world.mounts)
    (fun last _ => last.mounts = world.mounts)

/-- A step over a program that only looks changes nothing, whether it fails or not. -/
theorem untouched_attempt {program : CgroupProgram (Option Errno)} {stage : String} {exit : Nat}
    (nonzero : exit ≠ 0)
    (quiet : ∀ world, Tracks CgroupWorld.observe world program fun last _ => last = world) :
    Untouched (attempt program stage exit) := by
  intro world
  apply attempt_achieves nonzero
  apply (quiet world).mono
  intro last answer same
  cases answer <;> exact same

/-- Making sure of a directory creates no mount and denies no device, so it leaves the world of this
model as it is. -/
theorem untouched_ensureDirectoryPath {path : Text} {mode : Nat} {stage : String} :
    Untouched (ensureDirectoryPath path mode stage) := by
  intro world
  apply achieves_bind
  apply achieves_lift
  apply tracks_answer
  intro answer next moved
  obtain rfl := observe_quiet rfl moved
  cases answer with
  | ok kind =>
      cases kind with
      | directory => exact achieves_pure rfl
      | other => exact achieves_throw ⟨by simp, rfl⟩
  | error errno =>
      simp only
      split
      · exact untouched_attempt (by decide) (fun _ => kernel_quiet rfl) next
      · exact achieves_throw ⟨by simp, rfl⟩

namespace KeepsMounts

variable {β : Type} {program : CgroupSteps α} {rest : α → CgroupSteps β}

theorem of_untouched (untouched : Untouched program) : KeepsMounts program := by
  intro world
  apply (untouched world).mono
  · rintro last failure ⟨nonzero, rfl⟩
    exact ⟨nonzero, rfl⟩
  · rintro last value rfl
    rfl

theorem pure (value : α) : KeepsMounts (Pure.pure value) := fun _ => achieves_pure rfl

theorem throw {failure : Failure} (nonzero : failure.exit ≠ 0) :
    KeepsMounts (MonadExcept.throw failure : CgroupSteps α) :=
  fun _ => achieves_throw ⟨nonzero, rfl⟩

theorem lift {program : CgroupProgram α}
    (keeps : ∀ world, Tracks CgroupWorld.observe world program fun last _ => last.mounts = world.mounts) :
    KeepsMounts (ExceptT.lift program) :=
  fun world => achieves_lift (keeps world)

theorem bind (first : KeepsMounts program) (second : ∀ value, KeepsMounts (rest value)) :
    KeepsMounts (program >>= rest) := by
  intro world
  apply achieves_bind
  apply (first world).mono
  · exact fun _ _ failed => failed
  · intro middle value same
    apply (second value middle).mono
    · exact fun _ _ failed => ⟨failed.1, failed.2.trans same⟩
    · exact fun _ _ kept => kept.trans same

/-- A step keeps the mounts when the program behind it does; the code of its failure is not zero. -/
theorem attempt {program : CgroupProgram (Option Errno)} {stage : String} {exit : Nat}
    (nonzero : exit ≠ 0)
    (keeps : ∀ world, Tracks CgroupWorld.observe world program fun last _ => last.mounts = world.mounts) :
    KeepsMounts (Launcher.attempt program stage exit) := by
  intro world
  apply attempt_achieves nonzero
  apply (keeps world).mono
  intro last answer same
  cases answer <;> exact same

theorem joined {base relative : Text} {stage : String} {exit : Nat} (nonzero : exit ≠ 0) :
    KeepsMounts (Launcher.joined base relative stage exit) := by
  rw [Launcher.joined]
  split
  · exact pure _
  · exact throw nonzero

end KeepsMounts

/-! ### The unified hierarchy -/

/-- Each controller is enabled by a write of its own, and none of them mounts anything, however many
fail. -/
theorem enableControllers_mounts (subtreePath : Text) (names : List Text) (world : CgroupWorld) :
    Tracks CgroupWorld.observe world (enableControllers subtreePath names)
      fun last _ => last.mounts = world.mounts := by
  induction names generalizing world with
  | nil => exact tracks_pure rfl
  | cons name names ih =>
      rw [enableControllers]
      split
      · apply tracks_call
        intro answer next moved
        have same := observe_mounts rfl moved
        exact (ih next).mono fun _ _ kept => kept.trans same
      · exact ih world

/-- Reading the available controllers and enabling them keeps the mounts. -/
theorem enableAvailableV2Controllers_mounts (childPath : Text) :
    KeepsMounts (enableAvailableV2Controllers childPath) := by
  apply KeepsMounts.bind (.joined (by decide))
  intro controllersPath
  apply KeepsMounts.bind (.joined (by decide))
  intro subtreePath
  apply KeepsMounts.bind (.attempt (by decide) fun _ => kernel_mounts rfl)
  intro _
  apply KeepsMounts.bind (.lift fun _ => kernel_mounts rfl)
  intro answer
  cases answer with
  | error errno => exact .throw (by simp)
  | ok contents => exact .lift (enableControllers_mounts _ _)

/-- A failing step of the probe removes the probe group before it reports, and this is no unmount. -/
theorem attemptProbing_mounts {probePath : Text} {program : CgroupProgram (Option Errno)}
    {stage : String}
    (keeps : ∀ world, Tracks CgroupWorld.observe world program fun last _ => last.mounts = world.mounts) :
    KeepsMounts (attemptProbing probePath program stage) := by
  apply KeepsMounts.bind (.lift keeps)
  intro answer
  cases answer with
  | none => exact .pure ()
  | some errno =>
      apply KeepsMounts.bind (.lift fun _ => kernel_mounts rfl)
      intro _
      exact .throw (by simp)

/-- The probe for device programs makes and removes a group of its own and keeps the mounts. -/
theorem probeCgroupDeviceBpf_mounts (childPath : Text) :
    KeepsMounts (probeCgroupDeviceBpf childPath) := by
  apply KeepsMounts.bind (.joined (by decide))
  intro probePath
  apply KeepsMounts.bind (.attempt (by decide) fun _ => kernel_mounts rfl)
  intro _
  apply KeepsMounts.bind (attemptProbing_mounts fun _ => kernel_mounts rfl)
  intro _
  apply KeepsMounts.bind (attemptProbing_mounts fun _ => kernel_mounts rfl)
  intro _
  apply KeepsMounts.bind (attemptProbing_mounts fun _ => kernel_mounts rfl)
  intro _
  apply KeepsMounts.bind (.lift fun _ => kernel_mounts rfl)
  intro _
  exact .attempt (by decide) fun _ => kernel_mounts rfl

/-! ### Device gates -/

/-- The steps leave the mounts as they are, and with USB off they install a rule. -/
def Installs (usb : HostUsbPolicy) (path : Text) (rule : DeviceRule) (program : CgroupSteps Unit) :
    Prop :=
  ∀ world, Achieves CgroupWorld.observe world program
    (fun last failure => failure.exit ≠ 0 ∧ last.mounts = world.mounts)
    (fun last _ => last.mounts = world.mounts ∧ (usb = .off → (path, rule) ∈ last.rules))

namespace Installs

variable {path : Text} {rule : DeviceRule}

/-- What runs before the USB rule is installed matters only in that it keeps the mounts. -/
theorem after {program : CgroupSteps α} {rest : α → CgroupSteps Unit} (first : KeepsMounts program)
    (second : ∀ value, Installs usb path rule (rest value)) :
    Installs usb path rule (program >>= rest) := by
  intro world
  apply achieves_bind
  apply (first world).mono
  · exact fun _ _ failed => failed
  · intro middle value same
    apply (second value middle).mono
    · exact fun _ _ failed => ⟨failed.1, failed.2.trans same⟩
    · exact fun _ _ done => ⟨done.1.trans same, done.2⟩

/-- A program that installs the USB rule keeps the mounts, and when it succeeds the rule is there unless
USB is shared. -/
theorem mounted {program : CgroupSteps Unit} {hierarchies : List Hierarchy}
    (installs : Installs usb path rule program) (mounted : Mounted controlDir hierarchies world) :
    Achieves CgroupWorld.observe world program
      (fun last failure => failure.exit ≠ 0 ∧ last.mounts = world.mounts)
      (fun last _ => Mounted controlDir hierarchies last ∧
        (usb = .off → (path, rule) ∈ last.rules)) := by
  apply (installs world).mono
  · exact fun _ _ failed => failed
  · exact fun _ _ done => ⟨mounted.of_mounts_eq done.1, done.2⟩

/-- With USB shared there is no rule to install, and keeping the mounts is enough. -/
theorem of_shared {program : CgroupSteps Unit} (shared : usb ≠ .off) (keeps : KeepsMounts program) :
    Installs usb path rule program := by
  intro world
  apply (keeps world).mono
  · exact fun _ _ failed => failed
  · exact fun _ _ same => ⟨same, fun off => absurd off shared⟩

end Installs

/-- Under cgroup v2 the USB rule is a device program attached to the payload group. -/
theorem applyHostUsbV2Policy_installs (payloadPath : Text) (usb : HostUsbPolicy) :
    Installs usb payloadPath (.program .denyUsb) (applyHostUsbV2Policy payloadPath usb) := by
  rw [applyHostUsbV2Policy]
  split
  next shared => exact .of_shared shared (.pure ())
  next =>
    apply Installs.after (.attempt (by decide) fun _ => kernel_mounts rfl)
    intro _
    apply Installs.after (.attempt (by decide) fun _ => kernel_mounts rfl)
    intro _ world
    apply attempt_achieves (by decide)
    apply tracks_answer
    intro answer next moved
    cases answer with
    | none =>
        cases moved
        exact ⟨rfl, fun _ => List.mem_cons_self⟩
    | some errno =>
        cases moved
        rfl

/-- Under cgroup v1 the USB rule is a line written to `devices.deny` of the child group. -/
theorem applyHostUsbV1Policy_installs (childPath : Text) (usb : HostUsbPolicy) :
    Installs usb (childPath ++ '/' :: devicesDenyName) (.line usbDenyRule)
      (applyHostUsbV1Policy childPath usb) := by
  rw [applyHostUsbV1Policy]
  split
  next shared => exact .of_shared shared (.pure ())
  next =>
    rw [joined]
    split
    next denyPath fits =>
      rw [← joinedPath_eq fits]
      intro world
      apply achieves_bind
      apply achieves_pure
      apply attempt_achieves (by decide)
      apply tracks_answer
      intro answer next moved
      cases answer with
      | none =>
          cases moved
          exact ⟨rfl, fun _ => List.mem_cons_self⟩
      | some errno =>
          cases moved
          rfl
    next =>
      intro world
      apply achieves_bind
      exact achieves_throw ⟨by simp, rfl⟩

/-! ### Backends -/

/-- A hierarchy that is mounted joins those that were; when the mount fails they are as before. -/
theorem attemptMount_achieves {hierarchies : List Hierarchy} {hierarchy : Hierarchy}
    {paths : DelegatedPaths} {stage : String} {exit : Nat}
    (mounted : Mounted controlDir hierarchies world)
    (fits : delegatedCgroupPaths controlDir hierarchy = some paths) (nonzero : exit ≠ 0) :
    Achieves CgroupWorld.observe world (attempt (kernel (.mount hierarchy paths.mount)) stage exit)
      (fun last failure => failure.exit ≠ 0 ∧ Mounted controlDir hierarchies last)
      (fun last _ =>
        Mounted controlDir (hierarchy :: hierarchies) last ∧ last.rules = world.rules) := by
  apply attempt_achieves nonzero
  apply tracks_answer
  intro answer next moved
  cases answer with
  | none =>
      cases moved
      exact ⟨mounted.mount fits rfl, rfl⟩
  | some errno =>
      cases moved
      exact mounted

/-- A mount between the directory it is made on and the steps that follow it. -/
theorem mount_achieves {hierarchies : List Hierarchy} {hierarchy : Hierarchy} {paths : DelegatedPaths}
    {mode exit : Nat} {directoryStage mountStage : String} {rest : CgroupSteps α}
    {post : CgroupWorld → α → Prop} (mounted : Mounted controlDir hierarchies world)
    (fits : delegatedCgroupPaths controlDir hierarchy = some paths) (nonzero : exit ≠ 0)
    (after : ∀ next, Mounted controlDir (hierarchy :: hierarchies) next → next.rules = world.rules →
      Achieves CgroupWorld.observe next rest
        (fun last failure => failure.exit ≠ 0 ∧ last.mounts = next.mounts) post) :
    Achieves CgroupWorld.observe world
      (do
        ensureDirectoryPath paths.mount mode directoryStage
        attempt (kernel (.mount hierarchy paths.mount)) mountStage exit
        rest)
      (fun last failure => failure.exit ≠ 0 ∧
        (Mounted controlDir hierarchies last ∨ Mounted controlDir (hierarchy :: hierarchies) last))
      post := by
  apply achieves_bind
  apply (untouched_ensureDirectoryPath world).mono
  · rintro last failure ⟨failed, rfl⟩
    exact ⟨failed, .inl mounted⟩
  rintro middle _ rfl
  apply achieves_bind
  apply (attemptMount_achieves mounted fits nonzero).mono
  · exact fun _ _ failed => ⟨failed.1, .inl failed.2⟩
  intro next _ made
  apply (after next made.1 made.2).mono
  · exact fun last _ failed => ⟨failed.1, .inr (made.1.of_mounts_eq failed.2)⟩
  · exact fun _ _ holds => holds

/-- The payload of the unified hierarchy. -/
def payloadPath (controlDir : Text) : Text :=
  Hierarchy.mountPath controlDir .unified ++ '/' :: cgroupChildName ++ '/' :: cgroupPayloadName

/-- The control file of the device gate of the legacy hierarchy. -/
def devicesDenyPath (controlDir : Text) : Text :=
  Hierarchy.mountPath controlDir .devices ++ '/' :: cgroupChildName ++ '/' :: devicesDenyName

/-- A failing unified backend leaves its mount or not, and nothing else; a successful one leaves it with
the USB rule in force. -/
theorem prepareUnifiedCgroupMount_mounts {hierarchies : List Hierarchy}
    (mounted : Mounted controlDir hierarchies world) :
    Achieves CgroupWorld.observe world (prepareUnifiedCgroupMount controlDir usb)
      (fun last failure => failure.exit ≠ 0 ∧
        (Mounted controlDir hierarchies last ∨ Mounted controlDir (.unified :: hierarchies) last))
      (fun last _ => Mounted controlDir (.unified :: hierarchies) last ∧
        (usb = .off → (payloadPath controlDir, .program .denyUsb) ∈ last.rules)) := by
  rw [prepareUnifiedCgroupMount]
  split
  next => exact achieves_throw ⟨by simp, .inl mounted⟩
  next paths payload found =>
    obtain ⟨fits, rfl⟩ := unifiedCgroupPaths_eq found
    have child := (delegatedCgroupPaths_eq fits).2
    apply mount_achieves mounted fits (by decide)
    intro next made _
    refine Installs.mounted ?_ made
    apply Installs.after (.of_untouched untouched_ensureDirectoryPath)
    intro _
    apply Installs.after (enableAvailableV2Controllers_mounts paths.child)
    intro _
    apply Installs.after (probeCgroupDeviceBpf_mounts paths.child)
    intro _
    apply Installs.after (.of_untouched untouched_ensureDirectoryPath)
    intro _
    rw [payloadPath, ← child]
    exact applyHostUsbV2Policy_installs _ usb

/-- The devices hierarchy is left mounted or not by a failure, and is mounted with its USB rule after a
success. -/
theorem prepareDevicesCgroupMount_mounts {hierarchies : List Hierarchy}
    (mounted : Mounted controlDir hierarchies world) :
    Achieves CgroupWorld.observe world (prepareDevicesCgroupMount controlDir usb)
      (fun last failure => failure.exit ≠ 0 ∧
        (Mounted controlDir hierarchies last ∨ Mounted controlDir (.devices :: hierarchies) last))
      (fun last _ => Mounted controlDir (.devices :: hierarchies) last ∧
        (usb = .off → (devicesDenyPath controlDir, .line usbDenyRule) ∈ last.rules)) := by
  rw [prepareDevicesCgroupMount]
  split
  next => exact achieves_throw ⟨by simp, .inl mounted⟩
  next paths fits =>
    have child := (delegatedCgroupPaths_eq fits).2
    apply mount_achieves mounted fits (by decide)
    intro next made _
    refine Installs.mounted ?_ made
    apply Installs.after (.of_untouched untouched_ensureDirectoryPath)
    intro _
    apply Installs.after (.joined (by decide))
    intro listPath
    apply Installs.after (.attempt (by decide) fun _ => kernel_mounts rfl)
    intro _
    rw [devicesDenyPath, ← child]
    exact applyHostUsbV1Policy_installs paths.child usb

/-- The named hierarchy of systemd carries no rule; a failure behind its mount leaves it for the
cleanup. -/
theorem prepareSystemdCgroupMount_mounts {hierarchies : List Hierarchy}
    (mounted : Mounted controlDir hierarchies world) :
    Achieves CgroupWorld.observe world (prepareSystemdCgroupMount controlDir)
      (fun last failure => failure.exit ≠ 0 ∧
        (Mounted controlDir hierarchies last ∨ Mounted controlDir (.systemd :: hierarchies) last))
      (fun last _ => Mounted controlDir (.systemd :: hierarchies) last ∧ last.rules = world.rules) := by
  rw [prepareSystemdCgroupMount]
  split
  next => exact achieves_throw ⟨by simp, .inl mounted⟩
  next paths fits =>
    apply mount_achieves mounted fits (by decide)
    intro next made same
    apply (untouched_ensureDirectoryPath next).mono
    · rintro last failure ⟨failed, rfl⟩
      exact ⟨failed, rfl⟩
    · rintro last _ rfl
      exact ⟨made, same⟩

/-! ### Cleanup -/

/-- Removing the groups in a directory keeps the mounts when removing each of them does. -/
theorem removeEntries_mounts {removeDescendants : Text → CgroupProgram (Option Errno)} {path : Text}
    (removes : ∀ child world, Tracks CgroupWorld.observe world (removeDescendants child)
      fun last _ => last.mounts = world.mounts) (names : List Text) (world : CgroupWorld) :
    Tracks CgroupWorld.observe world (removeEntries removeDescendants path names)
      fun last _ => last.mounts = world.mounts := by
  induction names generalizing world with
  | nil => exact tracks_pure rfl
  | cons name names ih =>
      rw [removeEntries]
      split
      · exact ih world
      split
      · exact tracks_pure rfl
      apply tracks_quiet fun _ => rfl
      intro kind
      split
      · split
        · exact ih world
        · exact tracks_pure rfl
      · exact ih world
      apply tracks_bind
      apply (removes _ world).mono
      intro middle failure same
      split
      · exact tracks_pure same
      apply tracks_call
      intro answer next moved
      have kept := (observe_mounts rfl moved).trans same
      split
      · exact (ih next).mono fun _ _ after => after.trans kept
      split
      · exact (ih next).mono fun _ _ after => after.trans kept
      · exact tracks_pure kept

/-- By induction on the depth that is left: removing groups below a path unmounts nothing. -/
theorem removeCgroupDescendants_mounts (levels : Nat) (path : Text) (world : CgroupWorld) :
    Tracks CgroupWorld.observe world (removeCgroupDescendants levels path)
      fun last _ => last.mounts = world.mounts := by
  induction levels generalizing path world with
  | zero => exact tracks_pure rfl
  | succ levels ih =>
      apply tracks_quiet fun _ => rfl
      intro names
      cases names with
      | error errno => exact tracks_pure rfl
      | ok names => exact removeEntries_mounts ih names world

/-- However often the removal of the child group is tried again, the mounts stay. -/
theorem removeChild_mounts (childPath : Text) (attempts : Nat) (world : CgroupWorld) :
    Tracks CgroupWorld.observe world (removeChild childPath attempts)
      fun last _ => last.mounts = world.mounts := by
  induction attempts generalizing world with
  | zero => exact tracks_pure rfl
  | succ attempts ih =>
      have again (errno : Errno) (middle : CgroupWorld) (same : middle.mounts = world.mounts) :
          Tracks CgroupWorld.observe middle
            (if errno = ebusy ∨ errno = enotempty then removeChild childPath attempts else return ())
            fun last _ => last.mounts = world.mounts := by
        split
        · exact (ih middle).mono fun _ _ after => after.trans same
        · exact tracks_pure same
      apply tracks_bind
      apply (removeCgroupDescendants_mounts _ _ world).mono
      intro middle failure same
      cases failure with
      | some errno => exact again errno middle same
      | none =>
          apply tracks_call
          intro answer next moved
          have kept := (observe_mounts rfl moved).trans same
          cases answer with
          | none => exact tracks_pure kept
          | some errno => exact again errno next kept

/-- The unmount of a hierarchy takes away its mount, if there is one, and leaves the mounts of all
others; an error leaves the mounts as they are. -/
theorem Mounted.unmount {hierarchies : List Hierarchy} {hierarchy : Hierarchy} {paths : DelegatedPaths}
    {answer : Option Errno} (mounted : Mounted controlDir hierarchies world)
    (fits : delegatedCgroupPaths controlDir hierarchy = some paths)
    (moved : world.observe ⟨.umount paths.mount, answer⟩ = some next) :
    Mounted controlDir (hierarchies.erase hierarchy) next := by
  have named : ∀ other ∈ hierarchies.erase hierarchy,
      (delegatedCgroupPaths controlDir other).isSome = true :=
    fun other among => mounted.named other (List.mem_of_mem_erase among)
  have path := (delegatedCgroupPaths_eq fits).1
  have same (other : Hierarchy) :
      (other.mountPath controlDir == paths.mount) = (other == hierarchy) := by
    rw [path, Bool.eq_iff_iff, beq_iff_eq, beq_iff_eq]
    exact ⟨mountPath_inj, congrArg _⟩
  cases answer with
  | none =>
      cases moved
      refine ⟨?_, named⟩
      simp only
      rw [mounted.mounts, List.eraseP_map, List.erase_eq_eraseP']
      congr 2
      funext other
      exact same other
  | some errno =>
      rw [CgroupWorld.observe] at moved
      split at moved
      · cases moved
      next absent =>
        cases moved
        have outside : hierarchy ∉ hierarchies := by
          intro among
          apply absent
          rw [mounted.mounts, List.any_map, List.any_eq_true]
          exact ⟨hierarchy, among, by simp [path]⟩
        rw [List.erase_of_not_mem outside]
        exact mounted

/-- The cleanup of a hierarchy takes its mount away if there is one, and leaves those of the others. -/
theorem cleanupCgroupHierarchy_unmounts {hierarchies : List Hierarchy}
    (mounted : Mounted controlDir hierarchies world) (hierarchy : Hierarchy) :
    Tracks CgroupWorld.observe world (cleanupCgroupHierarchy controlDir hierarchy)
      fun last _ => Mounted controlDir (hierarchies.erase hierarchy) last := by
  rw [cleanupCgroupHierarchy]
  split
  next unnamed =>
    -- a hierarchy whose path does not fit has never been mounted
    have outside : hierarchy ∉ hierarchies := by
      intro among
      have named := mounted.named hierarchy among
      rw [unnamed] at named
      cases named
    rw [List.erase_of_not_mem outside]
    exact tracks_pure mounted
  next paths fits =>
    apply tracks_bind
    apply (removeChild_mounts _ _ world).mono
    intro middle _ same
    apply tracks_call
    intro answer unmounted moved
    have gone := (mounted.of_mounts_eq same).unmount fits moved
    apply tracks_call
    intro _ last moved
    exact tracks_pure (gone.of_mounts_eq (observe_mounts rfl moved))

/-! ### Negotiation -/

/-- The hierarchies of a mode, the latest first. -/
def CgroupMode.hierarchies : CgroupMode → List Hierarchy
  | .unknown => []
  | .v1 => [.systemd, .devices]
  | .v1NoDevices => [.systemd]
  | .v2 => [.unified]

/-- The modes that a policy can be resolved to. -/
def CgroupPolicy.allows : CgroupPolicy → CgroupMode → Bool
  | _, .unknown => false
  | .auto, _ => true
  | .forceV2, mode => mode == .v2
  | .forceV1, mode => mode != .v2

/-- The rule keeps Debian from every character device of major 189. -/
def DeviceRule.DeniesUsb : DeviceRule → Prop
  | .line text => text = usbDenyRule
  | .program loaded =>
      ∀ access, loaded.instructions.allows access = decide (access.major ≠ 189)

/-- The device program denies exactly the accesses to USB devices, whose major number is 189. -/
theorem denyUsb_denies (access : DeviceAccess) :
    DeviceProgram.denyUsb.instructions.allows access = decide (access.major ≠ 189) := by
  by_cases usb : access.major = 189
  · simp [DeviceProgram.instructions, BpfProgram.allows, BpfProgram.execute, usb]
  · simp [DeviceProgram.instructions, BpfProgram.allows, BpfProgram.execute, usb]

/-- Where the rule of a mode is. -/
def CgroupMode.gate (controlDir : Text) : CgroupMode → Option Text
  | .v1 => some (devicesDenyPath controlDir)
  | .v2 => some (payloadPath controlDir)
  | .unknown | .v1NoDevices => none

/-- A mode that the negotiation has come to. -/
structure Resolved (controlDir : Text) (policy : CgroupPolicy) (usb : HostUsbPolicy) (mode : CgroupMode)
    (world : CgroupWorld) : Prop where
  allowed : policy.allows mode = true
  gateless : mode = .v1NoDevices → usb = .off
  mounted : Mounted controlDir mode.hierarchies world
  denied : usb = .off → ∀ path ∈ mode.gate controlDir,
    ∃ rule, (path, rule) ∈ world.rules ∧ rule.DeniesUsb

theorem devicesControllerAvailable_quiet :
    Tracks CgroupWorld.observe world devicesControllerAvailable fun last _ => last = world := by
  apply tracks_quiet fun _ => rfl
  intro table
  cases table <;> exact tracks_pure rfl

/-- What the legacy backends leave behind when they fail is what the cleanup after them takes away. -/
def LegacyResidue (controlDir : Text) (world : CgroupWorld) : Prop :=
  ∃ hierarchies, Mounted controlDir hierarchies world ∧
    (hierarchies.erase .devices).erase .systemd = []

/-- The legacy backend succeeds with both of its hierarchies mounted and the USB rule in force, or
leaves at most what its cleanup takes away. -/
theorem prepareLegacyCgroupMounts_resolves {policy : CgroupPolicy} (legacy : policy ≠ .forceV2)
    (unmounted : Mounted controlDir [] world) :
    Achieves CgroupWorld.observe world (prepareLegacyCgroupMounts controlDir usb)
      (fun last failure => failure.exit ≠ 0 ∧ LegacyResidue controlDir last)
      (fun last mode => Resolved controlDir policy usb mode last) := by
  apply achieves_bind
  apply achieves_lift
  apply devicesControllerAvailable_quiet.mono
  rintro middle available rfl
  cases available with
  | true =>
      apply achieves_bind
      apply (prepareDevicesCgroupMount_mounts unmounted).mono
      · rintro last failure ⟨failed, nothing | devices⟩
        · exact ⟨failed, [], nothing, rfl⟩
        · exact ⟨failed, _, devices, rfl⟩
      intro gated _ ⟨devices, denied⟩
      apply achieves_bind
      apply (prepareSystemdCgroupMount_mounts devices).mono
      · rintro last failure ⟨failed, devices | both⟩
        · exact ⟨failed, _, devices, rfl⟩
        · exact ⟨failed, _, both, rfl⟩
      intro last _ ⟨both, same⟩
      apply achieves_pure
      refine ⟨?_, nofun, both, ?_⟩
      · cases policy <;> first | rfl | exact absurd rfl legacy
      · rintro off path ⟨⟩
        rw [same]
        exact ⟨_, denied off, rfl⟩
  | false =>
      simp only [Bool.false_eq_true, if_false]
      split
      next => exact achieves_throw ⟨by simp, [], unmounted, rfl⟩
      next off =>
        apply achieves_bind
        apply (prepareSystemdCgroupMount_mounts unmounted).mono
        · rintro last failure ⟨failed, nothing | systemd⟩
          · exact ⟨failed, [], nothing, rfl⟩
          · exact ⟨failed, _, systemd, rfl⟩
        intro last _ ⟨systemd, _⟩
        apply achieves_pure
        refine ⟨?_, fun _ => not_not.mp off, systemd, nofun⟩
        cases policy <;> first | rfl | exact absurd rfl legacy

/-- A negotiation that fails leaves nothing behind. -/
def NegotiatedMode (controlDir : Text) (policy : CgroupPolicy) (usb : HostUsbPolicy)
    (world : CgroupWorld) : Except Failure CgroupMode → Prop
  | .ok mode => Resolved controlDir policy usb mode world
  | .error failure => failure.exit ≠ 0 ∧ Mounted controlDir [] world

/-- After a failure of the legacy backend its mounts are cleaned up, and the mode that is returned says
what is mounted. -/
theorem negotiateLegacyMode_resolves {policy : CgroupPolicy} (legacy : policy ≠ .forceV2)
    (unmounted : Mounted controlDir [] world) :
    Tracks CgroupWorld.observe world (negotiateLegacyMode controlDir usb)
      fun last result => NegotiatedMode controlDir policy usb last result := by
  apply tracks_bind
  apply Tracks.mono (prepareLegacyCgroupMounts_resolves legacy unmounted)
  intro middle result outcome
  cases result with
  | ok mode => exact tracks_pure outcome
  | error failure =>
      obtain ⟨failed, hierarchies, mounted, cleaned⟩ := outcome
      apply tracks_bind
      apply (cleanupCgroupHierarchy_unmounts mounted .devices).mono
      intro without _ mounted
      apply tracks_bind
      apply (cleanupCgroupHierarchy_unmounts mounted .systemd).mono
      intro last _ mounted
      rw [cleaned] at mounted
      exact tracks_pure ⟨failed, mounted⟩

/-- Whatever the policy and the kernel allow, the negotiation ends with the mounts and the rule that its
mode promises. -/
theorem negotiateCgroupMode_resolves {policy : CgroupPolicy} (unmounted : Mounted controlDir [] world) :
    Tracks CgroupWorld.observe world (negotiateCgroupMode controlDir policy usb)
      fun last result => NegotiatedMode controlDir policy usb last result := by
  rw [negotiateCgroupMode]
  split
  next forced =>
    apply negotiateLegacyMode_resolves _ unmounted
    rw [forced]
    nofun
  next unified =>
    apply tracks_bind
    apply Tracks.mono (prepareUnifiedCgroupMount_mounts unmounted)
    intro middle result outcome
    cases result with
    | ok value =>
        obtain ⟨mounted, denied⟩ := outcome
        apply tracks_pure
        refine ⟨?_, nofun, mounted, ?_⟩
        · cases policy <;> first | rfl | exact absurd rfl unified
        · rintro off path ⟨⟩
          exact ⟨_, denied off, denyUsb_denies⟩
    | error failure =>
        obtain ⟨failed, residue⟩ := outcome
        apply tracks_bind
        have cleans : Tracks CgroupWorld.observe middle (cleanupCgroupHierarchy controlDir .unified)
            fun last _ => Mounted controlDir [] last := by
          rcases residue with nothing | mounted
          · exact cleanupCgroupHierarchy_unmounts nothing .unified
          · exact cleanupCgroupHierarchy_unmounts mounted .unified
        apply cleans.mono
        intro cleaned _ unmounted
        split
        next => exact tracks_pure ⟨by simp, unmounted⟩
        next legacy => exact negotiateLegacyMode_resolves legacy unmounted

/-! ### Namespaces -/

theorem dropSysBootCapability_mounts : KeepsMounts dropSysBootCapability := by
  apply KeepsMounts.bind (.lift fun _ => kernel_mounts rfl)
  intro answer
  cases answer with
  | none => exact .pure ()
  | some errno =>
      simp only
      split
      · exact .pure ()
      · exact .throw (by simp)

theorem blockIpcNamespaceCreation_mounts : KeepsMounts blockIpcNamespaceCreation := by
  apply KeepsMounts.bind (.lift fun _ => kernel_mounts rfl)
  intro answer
  cases answer with
  | none => exact .pure ()
  | some errno => exact .attempt (by decide) fun _ => kernel_mounts rfl

theorem setBasePrivateNamespaces_mounts : KeepsMounts setBasePrivateNamespaces := by
  apply KeepsMounts.bind dropSysBootCapability_mounts
  intro _
  apply KeepsMounts.bind (.attempt (by decide) fun _ => kernel_mounts rfl)
  intro _
  apply KeepsMounts.bind (.attempt (by decide) fun _ => kernel_mounts rfl)
  intro _
  apply KeepsMounts.bind (.attempt (by decide) fun _ => kernel_mounts rfl)
  intro _
  apply KeepsMounts.bind blockIpcNamespaceCreation_mounts
  intro _
  exact .lift fun _ => kernel_mounts rfl

/-- Waiting for the network manager makes and removes no mount. -/
theorem waitForNetworkManager_mounts : KeepsMounts waitForNetworkManager := by
  apply KeepsMounts.bind (.lift fun _ => kernel_mounts rfl)
  intro answer
  cases answer with
  | timedOut | failed => exact .throw (by simp)
  | ready =>
      apply KeepsMounts.bind (.lift fun _ => kernel_mounts rfl)
      intro read
      split
      · exact .pure ()
      · exact .throw (by simp)

/-- A missing pid namespace is passed over only when the fallback is allowed, and the look at it keeps
the mounts. -/
theorem pidNamespaceEntryMissing_mounts (allowFallback : Bool) (world : CgroupWorld) :
    Tracks CgroupWorld.observe world (pidNamespaceEntryMissing allowFallback) fun last missing =>
      last.mounts = world.mounts ∧ (missing = true → allowFallback = true) := by
  rw [pidNamespaceEntryMissing]
  split
  next allowed =>
    apply tracks_quiet fun _ => rfl
    intro failure
    exact tracks_pure ⟨rfl, fun _ => allowed⟩
  next => exact tracks_pure ⟨rfl, nofun⟩

/-- The fallback takes down all three hierarchies in their order and returns the compatible mode. -/
theorem fallBackToCompat_unmounts {hierarchies : List Hierarchy}
    (mounted : Mounted controlDir hierarchies world) :
    Tracks CgroupWorld.observe world (fallBackToCompat controlDir) fun last outcome =>
      outcome = (.compat, .unknown) ∧
        Mounted controlDir (((hierarchies.erase .unified).erase .devices).erase .systemd) last := by
  apply tracks_bind
  apply (cleanupCgroupHierarchy_unmounts mounted .unified).mono
  intro _ _ mounted
  apply tracks_bind
  apply (cleanupCgroupHierarchy_unmounts mounted .devices).mono
  intro _ _ mounted
  apply tracks_bind
  apply (cleanupCgroupHierarchy_unmounts mounted .systemd).mono
  intro last _ mounted
  exact tracks_pure ⟨rfl, mounted⟩

/-- What `set_systemd_parent_namespaces` has come to when it returns 0. -/
def NamespacesReady (controlDir : Text) (policy : CgroupPolicy) (usb : HostUsbPolicy)
    (allowFallback : Bool) (world : CgroupWorld) : LaunchMode × CgroupMode → Prop
  | (.systemd, mode) => Resolved controlDir policy usb mode world
  | (.compat, mode) => allowFallback = true ∧ mode = .unknown ∧ world.mounts = []

/-- With its namespaces negotiated a supervisor has the mounts and the rule of the mode it is going to
record. -/
theorem negotiateNamespaces_ready {policy : CgroupPolicy} {allowFallback : Bool}
    (unmounted : Mounted controlDir [] world) :
    Achieves CgroupWorld.observe world (negotiateNamespaces controlDir policy usb allowFallback)
      (fun _ failure => failure.exit ≠ 0)
      (fun last outcome => NamespacesReady controlDir policy usb allowFallback last outcome) := by
  apply achieves_bind
  apply achieves_lift
  apply (negotiateCgroupMode_resolves unmounted).mono
  intro middle result negotiated
  cases result with
  | error failure =>
      obtain ⟨failed, unmounted⟩ := negotiated
      simp only
      split
      next allowed =>
        apply achieves_lift
        apply (fallBackToCompat_unmounts unmounted).mono
        rintro last _ ⟨rfl, cleaned⟩
        exact ⟨allowed, rfl, cleaned.mounts⟩
      next => exact achieves_throw failed
  | ok mode =>
      apply achieves_bind
      apply achieves_lift
      apply tracks_answer
      intro answer next moved
      obtain rfl := observe_quiet rfl moved
      cases answer with
      | none => exact achieves_pure negotiated
      | some errno =>
          simp only
          split
          next allowed =>
            apply achieves_lift
            apply (fallBackToCompat_unmounts negotiated.mounted).mono
            rintro last _ ⟨rfl, cleaned⟩
            refine ⟨(Bool.and_eq_true _ _ ▸ allowed).1, rfl, ?_⟩
            rw [cleaned.mounts]
            cases mode <;> rfl
          next => exact achieves_throw (by simp)

/-- Whatever fails, as long as a mount that is there can be unmounted: `set_systemd_parent_namespaces`
fails, or it comes to a mode that the policy allows with the mounts of that mode and with USB off its
device gate, or it falls back to the compat mode where that is allowed and nothing is left mounted. -/
theorem set_systemd_parent_namespaces_negotiates {controlDir : Text} {policy : CgroupPolicy}
    {usb : HostUsbPolicy} {allowFallback : Bool} {log : List CgroupExchange}
    {result : Except Failure (LaunchMode × CgroupMode)} {last : CgroupWorld}
    (run : Runs (setSystemdParentNamespaces controlDir policy usb allowFallback).run log result)
    (unmounts : observed CgroupWorld.observe {} log = some last) :
    match result with
    | .error failure => failure.exit ≠ 0
    | .ok (.systemd, mode) =>
        policy.allows mode = true ∧ (mode = .v1NoDevices → usb = .off) ∧
          last.mounts = mode.hierarchies.map (fun hierarchy =>
            (hierarchy, hierarchy.mountPath controlDir)) ∧
          (usb = .off → ∀ path ∈ mode.gate controlDir,
            ∃ rule, (path, rule) ∈ last.rules ∧ rule.DeniesUsb)
    | .ok (.compat, mode) => allowFallback = true ∧ mode = .unknown ∧ last.mounts = [] := by
  have ready : Achieves CgroupWorld.observe {}
      (setSystemdParentNamespaces controlDir policy usb allowFallback)
      (fun _ failure => failure.exit ≠ 0)
      (fun last outcome => NamespacesReady controlDir policy usb allowFallback last outcome) := by
    apply achieves_bind
    apply (setBasePrivateNamespaces_mounts _).mono
    · exact fun _ _ failed => failed.1
    intro based _ base
    apply achieves_bind
    apply (waitForNetworkManager_mounts _).mono
    · exact fun _ _ failed => failed.1
    intro waited _ same
    apply achieves_bind
    apply achieves_lift
    apply (pidNamespaceEntryMissing_mounts _ _).mono
    intro asked missing entry
    have mounts := entry.1.trans (same.trans base)
    cases missing with
    | true => exact achieves_pure ⟨entry.2 rfl, rfl, mounts⟩
    | false => exact negotiateNamespaces_ready (mounted_initial.of_mounts_eq mounts)
  have outcome := run.of_tracks ready unmounts
  rcases result with failure | ⟨mode, resolved⟩
  · exact outcome
  · cases mode with
    | systemd => exact ⟨outcome.allowed, outcome.gateless, outcome.mounted.mounts, outcome.denied⟩
    | compat => exact outcome

/-- The control directory `/c`. -/
def shortDir : Text := ['/', 'c']

/-- A kernel without the unified hierarchy: its mount is refused, and the legacy ones are taken. -/
def legacyLog : List CgroupExchange :=
  [ ⟨.dropSysBoot, none⟩, ⟨.unshare .mount, none⟩, ⟨.makeRootPrivate, none⟩, ⟨.unshare .uts, none⟩,
    ⟨.seccompFilter, none⟩, ⟨.closeRangeGuard, ()⟩, ⟨.pollManager, .ready⟩, ⟨.readManager, some '1'⟩,
    ⟨.statPidNamespace, none⟩,
    ⟨.lstat "/c/unified-cgroup".toList, .ok .directory⟩,
    ⟨.mount .unified "/c/unified-cgroup".toList, some 19⟩,
    ⟨.listDirectory "/c/unified-cgroup/dawnshell".toList, .error enoent⟩,
    ⟨.rmdir "/c/unified-cgroup/dawnshell".toList, some enoent⟩,
    ⟨.umount "/c/unified-cgroup".toList, some einval⟩,
    ⟨.rmdir "/c/unified-cgroup".toList, none⟩,
    ⟨.readProcCgroups, some "devices\t3\t1\t1\n".toList⟩,
    ⟨.lstat "/c/devices-cgroup".toList, .error enoent⟩,
    ⟨.mkdir "/c/devices-cgroup".toList 0o700, none⟩,
    ⟨.mount .devices "/c/devices-cgroup".toList, none⟩,
    ⟨.lstat "/c/devices-cgroup/dawnshell".toList, .ok .directory⟩,
    ⟨.openFile "/c/devices-cgroup/dawnshell/devices.list".toList, none⟩,
    ⟨.writeValue "/c/devices-cgroup/dawnshell/devices.deny".toList usbDenyRule, none⟩,
    ⟨.lstat "/c/systemd-cgroup".toList, .ok .directory⟩,
    ⟨.mount .systemd "/c/systemd-cgroup".toList, none⟩,
    ⟨.lstat "/c/systemd-cgroup/dawnshell".toList, .ok .directory⟩,
    ⟨.unshare .pid, none⟩ ]

/-- On a kernel without cgroup v2 the negotiation runs along this log to the legacy mode. -/
theorem legacy_log_runs :
    (setSystemdParentNamespaces shortDir .auto .off true).run.replay legacyLog =
      some (.ok (.systemd, .v1)) := by
  decide +kernel

theorem set_systemd_parent_namespaces_negotiates_legacy :
    ∃ last, observed CgroupWorld.observe {} legacyLog = some last ∧
      last.mounts = [(.systemd, "/c/systemd-cgroup".toList), (.devices, "/c/devices-cgroup".toList)] ∧
      ∃ rule, ("/c/devices-cgroup/dawnshell/devices.deny".toList, rule) ∈ last.rules ∧
        rule.DeniesUsb := by
  have outcome := set_systemd_parent_namespaces_negotiates (runs_of_replay legacy_log_runs) rfl
  exact ⟨_, rfl, outcome.2.2.1, outcome.2.2.2 rfl _ rfl⟩

end DawnShell.Launcher
