/-
Module: DawnShell.Proofs.LauncherProbe
Layer: Proofs
Purpose: When a start or a status takes a probe for a supervisor.  Status, health, stop and force-stop
  look for a supervisor by taking the lock that a start takes, and a process that a dead supervisor has
  forked keeps the lock until it has closed its copy of the descriptor.  A start that is alone is
  refused, and a status reports a supervisor that is not there, exactly when they try the lock at such a
  moment.
Trusted boundary: none
Main exports: NoSpuriousRefusal, LocksOutsideProbes, no_spurious_refusal, probe_refuses_start
-/
import DawnShell.Proofs.LauncherLock

namespace DawnShell.Launcher

open Transition

variable {world next : World} {label : Label} {start : Nat} {status : Nat → Prop}

/-! ### Refusals and what they rest on -/

/-- No supervisor is alive. -/
def NoSupervisor (world : World) : Prop :=
  ∀ pid process, world.table pid = some process → process.role.kind = .supervisor →
    process.alive = false

/-- No invocation but this one is a start in progress. -/
def StartsOnly (start : Nat) (commands : Nat → Command) : Prop :=
  ∀ other phase, commands other = .start phase → other = start

def OneStart (start : Nat) (world : World) (_ : Label) : Prop := StartsOnly start world.commands

/-- The start does not go into the branch that prints `BFU_DEBIAN_ALREADY_RUNNING`, and a status goes
into the branch that prints `RUNNING` or `STARTING_OR_UNKNOWN` only when the start has had the lock. -/
def NoSpuriousRefusal (start : Nat) (status : Nat → Prop) (world : World) (label : Label) : Prop :=
  (label = .blocked start → world.commands start ≠ .start .tryLock) ∧
    ∀ invocation, status invocation → label = .blocked invocation →
      world.commands invocation = .probe .tryLock → world.takenAt start ≠ 0

/-- The start or a status calls its first `flock`. -/
def TriesLock (start : Nat) (status : Nat → Prop) (world : World) (label : Label) : Prop :=
  ∃ invocation, (label = .take invocation ∨ label = .blocked invocation) ∧
    (invocation = start ∧ world.commands invocation = .start .tryLock ∨
      status invocation ∧ world.commands invocation = .probe .tryLock)

/-- A status, a health check, a stop or a force-stop is between its `flock` and its unlock. -/
def Probed (world : World) : Prop :=
  ∃ invocation, (world.commands invocation).holds = true ∧
    ∀ phase, world.commands invocation ≠ .start phase

/-- A process that a supervisor has forked has not closed its copy of the descriptor. -/
def Inherited (world : World) : Prop :=
  ∃ pid process, world.table pid = some process ∧ process.lockFd = true ∧
    process.role.kind ≠ .supervisor

/-- Until the start has had the lock, it and every status try the lock outside of all probes. -/
def LocksOutsideProbes (start : Nat) (status : Nat → Prop) (world : World) (label : Label) : Prop :=
  TriesLock start status world label → world.takenAt start = 0 → ¬Probed world ∧ ¬Inherited world

/-! ### Invocations that have tried the lock -/

/-- The invocation is past its first `flock`, or is no start. -/
def Command.begun : Command → Bool
  | .absent | .start .tryLock => false
  | _ => true

theorem forceInit_begun (state : LauncherState) (supervisorValid : Bool) :
    (forceInit state supervisorValid).begun = true := by
  unfold forceInit
  split <;> rfl

theorem afterScan_begun (foundAt : Nat) (final : LauncherState) (round : Nat) (found : List Pid) :
    (afterScan foundAt final round found).begun = true := by
  unfold afterScan
  split
  · rfl
  · split <;> rfl

/-- A command that moves has begun, and no move leads back to one that has not. -/
theorem Command.Moves.begun {table : ProcessTable} {file : Option LauncherState}
    {command later : Command} (moves : Command.Moves table file command later) :
    later.begun = true := by
  cases moves with
  | startReadBlocked | startRead | stopReadOrphan | stopRead =>
      split
      · split <;> rfl
      · rfl
  | forceRead =>
      split
      · split
        · rfl
        · exact forceInit_begun _ _
      · rfl
  | forceCheckSupervisor =>
      split
      · rfl
      · exact forceInit_begun _ _
  | forceSupervisorValid => exact forceInit_begun _ _
  | tailScanned => exact afterScan_begun _ _ _ _
  | startCheckBlocked | startCheck | startScanned | stopCheckOrphan | stopPoll | stopCheck
  | forceCheckInit | forceSession => split <;> rfl
  | startBlocked | startOrphan | startScan | startFails | startClosed | startReturns | stopOrphan
  | stopPollLate | stopPollAgain | stopPollTimeout | stopKilled | stopValid | stopSignalFails
  | stopOrphanFails | stopOrphanGone | stopTimeout | forceInitValid | forceInitKilled
  | forceTimeout | tailOrphanKilled | tailScan | tailKilled | tailWriteFails | lockFails => rfl

/-- Nothing leads back in front of the first `flock`: a command that has acted has begun, unless this
act made it appear. -/
theorem Acts.begun {invocation : Nat} {later : Command} (acts : Acts world label invocation later) :
    later.begun = true ∨ world.commands invocation = .absent := by
  cases acts with
  | begin unused => exact .inr unused
  | move moves => exact .inl moves.begun
  | take takes =>
      unfold Command.taken at takes
      split at takes <;> cases takes <;> exact .inl rfl
  | unlock unlocks =>
      unfold Command.unlocked at unlocks
      split at unlocks <;> cases unlocks <;> exact .inl rfl
  | blocked blocks =>
      unfold Command.blocked at blocks
      split at blocks <;> cases blocks <;> first | exact .inl rfl | (split <;> exact .inl rfl)
  | kill kills =>
      unfold Command.kills at kills
      split at kills <;> cases kills <;> exact .inl rfl
  | terminate terminates =>
      unfold Command.terminates at terminates
      split at terminates <;> cases terminates <;> exact .inl rfl
  | fork | write | returns => exact .inl rfl

/-- What is known of the lock whatever the invocations are. -/
structure ProbeSound (world : World) : Prop extends LockSound world where
  begun : ∀ invocation, world.takenAt invocation ≠ 0 → (world.commands invocation).begun = true
  taken : ∀ invocation, (world.commands invocation).holds = true → world.takenAt invocation ≠ 0

/-- In the initial world no command has begun. -/
theorem probeSound_initial : ProbeSound World.initial where
  toLockSound := lockSound_initial
  begun _ taken := absurd rfl taken
  taken _ held := by cases held

/-- A step changes the time at which a command took the lock only when this command takes it. -/
theorem Step.takenAt_cases (step : Step world label next) (invocation : Nat) :
    next.takenAt invocation = world.takenAt invocation ∨
      label = .take invocation ∧ next.takenAt invocation ≠ 0 := by
  rcases step.lock_cases with ⟨-, -, same⟩ | ⟨taker, rfl, -, -, -, -, taken⟩ |
    ⟨-, -, -, -, -, -, -, same⟩
  · exact .inl (congrFun same invocation)
  · rw [taken, Function.update_apply]
    split
    next same => exact .inr ⟨congrArg Label.take same.symm, Nat.succ_ne_zero _⟩
    next => exact .inl rfl
  · exact .inl (congrFun same invocation)

/-- After a step every command that has taken the lock has begun. -/
theorem ProbeSound.begun_kept (sound : ProbeSound world) (step : Step world label next)
    {invocation : Nat} (taken : next.takenAt invocation ≠ 0) :
    (next.commands invocation).begun = true := by
  rcases step.takenAt_cases invocation with before | ⟨rfl, -⟩
  · have begun := sound.begun invocation (before ▸ taken)
    rcases step.command_cases invocation with same | acts
    · exact same ▸ begun
    · rcases acts.begun with later | absent
      · exact later
      · rw [absent] at begun
        cases begun
  · cases step with
    | take takes =>
        simp only [Function.update_self]
        unfold Command.taken at takes
        split at takes <;> cases takes <;> rfl

/-- After a step every command that holds the lock has taken it at some time. -/
theorem ProbeSound.taken_kept (sound : ProbeSound world) (step : Step world label next)
    {invocation : Nat} (held : (next.commands invocation).holds = true) :
    next.takenAt invocation ≠ 0 := by
  rcases step.takenAt_cases invocation with same | ⟨-, taken⟩
  · rcases step.command_cases invocation with unchanged | acts
    · rw [same]
      exact sound.taken invocation (unchanged ▸ held)
    · rcases acts.holds held with before | rfl
      · rw [same]
        exact sound.taken invocation before
      · cases step with
        | take => simp
  · exact taken

/-- Every step keeps the invariant of probes, field by field. -/
theorem ProbeSound.kept (sound : ProbeSound world) (step : Step world label next) :
    ProbeSound next where
  toLockSound := sound.toLockSound.kept step
  begun _ taken := sound.begun_kept step taken
  taken _ held := sound.taken_kept step held

/-! ### One start -/

/-- A start that has not had the lock has launched nothing. -/
structure StartWaits (start : Nat) (world : World) : Prop extends ProbeSound world where
  unsupervised : world.takenAt start = 0 → NoSupervisor world

namespace StartWaits

/-- As long as the one start has not taken the lock there is no supervisor. -/
theorem unsupervised_kept (waits : StartWaits start world) (alone : OneStart start world label)
    (step : Step world label next) (untaken : next.takenAt start = 0) : NoSupervisor next := by
  have before : world.takenAt start = 0 := by
    rcases step.takenAt_cases start with same | ⟨-, taken⟩
    · exact same ▸ untaken
    · contradiction
  intro pid process present kind
  rcases step.row_cases present with ⟨earlier, found, became⟩ | born
  · rw [Bool.eq_false_iff]
    intro alive
    have dead := waits.unsupervised before pid earlier found (became.kind ▸ kind)
    rw [became.alive alive] at dead
    cases dead
  · -- Only a start that has had the lock forks a supervisor, and there is no start but this one.
    obtain ⟨invocation, -, forks, -⟩ := born_supervisor born kind
    obtain rfl := alone invocation _ forks
    exact absurd before (waits.taken invocation (by rw [forks]; rfl))

/-- Every step keeps what is known of a start that waits. -/
theorem kept (waits : StartWaits start world) (alone : OneStart start world label)
    (step : Step world label next) : StartWaits start next where
  toProbeSound := waits.toProbeSound.kept step
  unsupervised untaken := waits.unsupervised_kept alone step untaken

/-- While the start has not had the lock, it is held by a probe or through a descriptor that a dead
supervisor has left behind, or by nobody. -/
theorem held_cases (waits : StartWaits start world) (alone : OneStart start world label)
    (untaken : world.takenAt start = 0) (held : ¬world.Free) : Probed world ∨ Inherited world := by
  by_contra quiet
  rw [not_or] at quiet
  apply held
  intro description _
  constructor
  · rw [Bool.eq_false_iff]
    intro holds
    apply quiet.1
    refine ⟨description, holds, ?_⟩
    intro phase starts
    obtain rfl := alone description phase starts
    exact absurd untaken (waits.taken description holds)
  · rintro ⟨pid, process, present, alive, locked, -⟩
    apply quiet.2
    refine ⟨pid, process, present, locked, ?_⟩
    intro kind
    rw [waits.unsupervised untaken pid process present kind] at alive
    cases alive

end StartWaits

/-- Where the lock is free neither a probe nor a supervisor holds it. -/
theorem LockSound.quiet_of_free (sound : LockSound world) (free : world.Free) :
    ¬Probed world ∧ ¬Inherited world := by
  constructor
  · rintro ⟨invocation, holds, -⟩
    rw [(free invocation (sound.holds invocation holds)).1] at holds
    cases holds
  · rintro ⟨pid, process, present, locked, -⟩
    rw [sound.lockFd_of_free free present] at locked
    cases locked

/-! ### Refusals, step by step -/

/-- A start that tries the lock has not taken it before. -/
theorem StartWaits.untaken_of_tryLock (waits : StartWaits start world)
    (tries : world.commands start = .start .tryLock) : world.takenAt start = 0 := by
  by_contra taken
  have begun := waits.begun start taken
  rw [tries] at begun
  cases begun

/-- A `flock` that would block is one that has met a probe or an inherited descriptor. -/
theorem StartWaits.not_blocked (waits : StartWaits start world) (alone : OneStart start world label)
    (step : Step world label next) (outside : LocksOutsideProbes start status world label)
    {invocation : Nat} (tries : invocation = start ∧ world.commands invocation = .start .tryLock ∨
      status invocation ∧ world.commands invocation = .probe .tryLock)
    (blocked : label = .blocked invocation) : world.takenAt start ≠ 0 := by
  intro untaken
  have quiet := outside ⟨invocation, .inr blocked, tries⟩ untaken
  subst blocked
  cases step with
  | blocked _ held =>
      rcases waits.held_cases alone untaken held with probed | inherited
      · exact quiet.1 probed
      · exact quiet.2 inherited

/-- A refusal is spurious exactly if the lock is tried while another command probes it. -/
theorem StartWaits.refusal_iff (waits : StartWaits start world) (alone : OneStart start world label)
    (step : Step world label next) :
    NoSpuriousRefusal start status world label ↔ LocksOutsideProbes start status world label := by
  constructor
  · rintro ⟨accepted, reported⟩ ⟨invocation, outcome, tries⟩ untaken
    rcases outcome with rfl | rfl
    · cases step with
      | take _ free => exact waits.quiet_of_free free
    · rcases tries with ⟨rfl, tries⟩ | ⟨isStatus, tries⟩
      · exact absurd tries (accepted rfl)
      · exact absurd untaken (reported invocation isStatus rfl tries)
  · intro outside
    constructor
    · intro blocked tries
      exact waits.not_blocked alone step outside (.inl ⟨rfl, tries⟩) blocked
        (waits.untaken_of_tryLock tries)
    · intro invocation isStatus blocked tries
      exact waits.not_blocked alone step outside (.inr ⟨isStatus, tries⟩) blocked

/-! ### Every interleaving -/

/-- One start among any number of other invocations, begun when no start was in progress and no
supervisor alive: it is not refused and no status reports a supervisor before it has had the lock, if
and only if it and every status try the lock outside of all probes. -/
theorem no_spurious_refusal {before last : World} {history trace : List (World × Label)}
    {start : Nat} {status : Nat → Prop} (past : Run Step World.initial history before)
    (unsupervised : NoSupervisor before) (run : Run Step before trace last)
    (alone : Meets (OneStart start) trace) :
    Meets (NoSpuriousRefusal start status) trace ↔
      Meets (LocksOutsideProbes start status) trace := by
  have always : Meets (fun _ _ => True) history := fun _ _ => trivial
  have sound : ProbeSound before :=
    past.invariant always probeSound_initial fun _ _ _ sound _ step => sound.kept step
  have initial : StartWaits start before := ⟨sound, fun _ => unsupervised⟩
  have waits := run.meets_invariant alone initial fun _ _ _ waits alone step =>
    waits.kept alone step
  have each (entry) (member : entry ∈ trace) :
      NoSpuriousRefusal start status entry.1 entry.2 ↔
        LocksOutsideProbes start status entry.1 entry.2 := by
    obtain ⟨sound, next, step⟩ := waits entry member
    exact sound.refusal_iff (alone entry member) step
  constructor
  · intro accepted entry member
    exact (each entry member).mp (accepted entry member)
  · intro outside entry member
    exact (each entry member).mpr (outside entry member)

/-- Where only one start goes on, a step of another command begins none. -/
theorem StartsOnly.update {commands : Nat → Command} (only : StartsOnly start commands)
    (invocation : Nat) (command : Command)
    (allowed : invocation = start ∨ ∀ phase, command ≠ .start phase) :
    StartsOnly start (Function.update commands invocation command) := by
  intro other phase
  rw [Function.update_apply]
  split
  next same =>
    intro starts
    rcases allowed with allowed | never
    · exact same.trans allowed
    · exact absurd starts (never phase)
  next => exact only other phase

theorem startsOnly_initial : StartsOnly start World.initial.commands := by
  intro other phase starts
  cases starts

/-- In the initial world there is no supervisor. -/
theorem noSupervisor_initial : NoSupervisor World.initial := by
  intro pid process present
  cases present

/-- A step of an interleaving with one start that finds the lock free or does not try it. -/
def Unblocked (start : Nat) (world : World) (label : Label) : Prop :=
  OneStart start world label ∧ ∀ invocation, label ≠ .blocked invocation

/-- A start that is not blocked is not refused. -/
theorem Unblocked.noSpuriousRefusal (unblocked : Unblocked start world label) :
    NoSpuriousRefusal start status world label :=
  ⟨fun blocked => absurd blocked (unblocked.2 start),
    fun invocation _ blocked => absurd blocked (unblocked.2 invocation)⟩

/-- A status has given the lock back before the start tries it. -/
theorem start_after_status :
    ∃ trace last, Run Step World.initial trace last ∧ Meets (Unblocked 0) trace ∧
      last.commands 0 = .start .read := by
  have o0 : StartsOnly 0 World.initial.commands := startsOnly_initial
  have o1 := o0.update 1 (.probe .tryLock) (.inr fun _ => nofun)
  have o2 := o1.update 1 (.probe .inspect) (.inr fun _ => nofun)
  have o3 := o2.update 1 (.finished 0) (.inr fun _ => nofun)
  have o4 := o3.update 0 (.start .tryLock) (.inl rfl)
  have r0 : Run Step World.initial [] World.initial ∧ Meets (Unblocked 0) [] :=
    ⟨.start, meets_nil⟩
  have r1 := step_meeting r0 (@Step.begin _ 1 (.probe .tryLock) rfl rfl) ⟨o0, nofun⟩
  have r2 := step_meeting r1 (@Step.take _ 1 _ rfl (fun _ held => nomatch held)) ⟨o1, nofun⟩
  have r3 := step_meeting r2 (@Step.unlock _ 1 _ rfl) ⟨o2, nofun⟩
  have r4 := step_meeting r3 (@Step.begin _ 0 (.start .tryLock) rfl rfl) ⟨o3, nofun⟩
  have r5 := step_meeting r4 (@Step.take _ 0 _ rfl (fun _ held => nomatch held)) ⟨o4, nofun⟩
  exact ⟨_, _, r5.1, r5.2, rfl⟩

theorem no_spurious_refusal_after_status :
    ∃ trace last, Run Step World.initial trace last ∧ Meets (OneStart 0) trace ∧
      Meets (LocksOutsideProbes 0 (· = 1)) trace ∧ Meets (NoSpuriousRefusal 0 (· = 1)) trace ∧
      last.commands 0 = .start .read := by
  obtain ⟨trace, last, run, unblocked, reads⟩ := start_after_status
  have alone : Meets (OneStart 0) trace := unblocked.mono fun _ _ unblocked => unblocked.1
  have accepted : Meets (NoSpuriousRefusal 0 (· = 1)) trace :=
    unblocked.mono fun _ _ unblocked => unblocked.noSpuriousRefusal
  have outside := (no_spurious_refusal .start noSupervisor_initial run alone).mp accepted
  exact ⟨trace, last, run, alone, outside, accepted, reads⟩

/-- A status holds the lock when the start tries it: nothing has ever been launched, and the start
fails with `locked_state_invalid`. -/
theorem probe_refuses_start :
    ¬∀ before last history trace start status, Run Step World.initial history before →
      NoSupervisor before → Run Step before trace last → Meets (OneStart start) trace →
      Meets (NoSpuriousRefusal start status) trace := by
  intro accepted
  have o0 : StartsOnly 0 World.initial.commands := startsOnly_initial
  have o1 := o0.update 1 (.probe .tryLock) (.inr fun _ => nofun)
  have o2 := o1.update 1 (.probe .inspect) (.inr fun _ => nofun)
  have o3 := o2.update 0 (.start .tryLock) (.inl rfl)
  have r0 : Run Step World.initial [] World.initial ∧ Meets (OneStart 0) [] := ⟨.start, meets_nil⟩
  have r1 := step_meeting r0 (@Step.begin _ 1 (.probe .tryLock) rfl rfl) o0
  have r2 := step_meeting r1 (@Step.take _ 1 _ rfl (fun _ held => nomatch held)) o1
  have r3 := step_meeting r2 (@Step.begin _ 0 (.start .tryLock) rfl rfl) o2
  have r4 := step_meeting r3
    (@Step.blocked _ 0 _ rfl fun free => Bool.noConfusion (free 1 rfl).1) o3
  have refused := accepted _ _ _ _ 0 (· = 1) .start noSupervisor_initial r4.1 r4.2
  exact (meets_append.mp refused).2.1 rfl rfl

end DawnShell.Launcher
