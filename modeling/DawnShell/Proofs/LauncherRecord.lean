/-
Module: DawnShell.Proofs.LauncherRecord
Layer: Proofs
Purpose: The lock and the state file agree.  In every run in which no start takes the lock while a
  force-stop that has found the lock free is still cleaning up, the state file names the supervisor that
  has the lock as soon as that supervisor has written it, and the clean-up reaches no process of a launch
  that took the lock later.  A force-stop gives the lock back before it cleans up, so a start can slip in;
  then its supervisor loses its record.
Trusted boundary: none
Main exports: RecordAgrees, StrikesOnlyEarlier, StartsApart, lock_and_record_agree
-/
import DawnShell.Proofs.LauncherFamily

namespace DawnShell.Launcher

open Transition

variable {world next : World} {label : Label} {pid : Pid} {process after : Process}

/-- What `validate_supervisor_identity` compares a record with. -/
def Process.identity (pid : Pid) (process : Process) : Recorded :=
  ⟨pid, process.startTicks, process.exeDev, process.exeIno⟩

/-- A supervisor that is alive, has the lock and has completed its first write is the one in the state
file, and a stop that reads the file now finds nothing wrong with it. -/
def RecordAgrees (world : World) : Prop :=
  ∀ pid process locals, world.table pid = some process → process.alive = true →
    process.role = .supervisor locals → locals.recorded = true → process.lockFd = true →
    world.lock = some process.launch →
    ∃ state, world.file = some state ∧ state.supervisor = process.identity pid ∧
      (process.startTicks ≠ 0 → process.exeIno ≠ 0 → state.supervisor.complete = true) ∧
      ∀ check ∈ supervisorChecks state, look world.table state.supervisor.pid check = true

/-- A force-stop that has found the lock free kills no process of a launch that took it later. -/
def StrikesOnlyEarlier (world : World) (label : Label) : Prop :=
  ∀ invocation target foundAt, label = .kill invocation target →
    (world.commands invocation).cleansSince = some foundAt →
    ∀ pid process, world.table pid = some process → process.alive = true →
      process.role ≠ .other → target.hits world.table pid process = true →
      world.takenAt process.launch < foundAt

/-- No start takes the lock while a force-stop is cleaning up. -/
def StartsApart (world : World) (label : Label) : Prop :=
  ∀ invocation, label = .take invocation → world.commands invocation = .start .tryLock →
    ∀ other, (world.commands other).cleansSince = none

/-! ### Supervisors and their records -/

/-- The identity of a process changes only when it executes its program. -/
theorem Became.identity (became : Became world label pid process after)
    (kind : process.role.kind = .supervisor) : after.identity pid = process.identity pid := by
  cases became with
  | moved _ moves =>
      cases moves with
      | executes _ _ _ role => simp [role] at kind
      | _ => rfl
  | asked requested => cases requested <;> rfl
  | same | killed | leftGroup | grouped | grouping | wrote | forked | killing | reaping => rfl

/-- The first write is completed by writing: a supervisor that counts as recorded was so before the
step, or the step was its write. -/
theorem Became.recorded {later : Supervisor} (became : Became world label pid process after)
    (role : after.role = .supervisor later) (recorded : later.recorded = true) :
    (∃ locals, process.role = .supervisor locals ∧ locals.recorded = true) ∨
      label = .writeState pid := by
  cases became with
  | moved _ moves =>
      cases moves with
      | supervisor before moves =>
          cases role
          refine .inl ⟨_, before, ?_⟩
          cases moves <;> exact recorded
      | setsid before | supervisorCloses before =>
          cases role
          exact .inl ⟨_, before, recorded⟩
      | executes => cases role
      | supervisorExits | closesLock | joins | systemdSession | ends =>
          exact .inl ⟨later, role, recorded⟩
  | asked requested =>
      cases requested with
      | noted before =>
          cases role
          exact .inl ⟨_, before, recorded⟩
      | early | ignored => exact .inl ⟨later, role, recorded⟩
  | wrote => exact .inr rfl
  | grouping _ before | forked _ before =>
      cases role
      exact .inl ⟨_, before, recorded⟩
  | killing _ before killed =>
      cases role
      refine .inl ⟨_, before, ?_⟩
      unfold Supervisor.killed at killed
      split at killed <;> cases killed <;> exact recorded
  | reaping _ before reaped =>
      cases role
      refine .inl ⟨_, before, ?_⟩
      unfold Supervisor.reaped at reaped
      split at reaped <;> cases reaped <;> exact recorded
  | same | killed | leftGroup | grouped => exact .inl ⟨later, role, recorded⟩

/-- The phases in which a supervisor has not looked at itself, or will not write again. -/
def SupervisorPhase.unnamed : SupervisorPhase → Bool
  | .setsid | .identity | .exit => true
  | _ => false

/-- What a supervisor has in its state is its own identity. -/
def Supervisor.Named (pid : Pid) (process : Process) (locals : Supervisor) : Prop :=
  locals.phase.unnamed = false → locals.state.supervisor = process.identity pid

/-- A supervisor that moves on names itself in its record as before; only the child and the state in the
record change. -/
theorem Supervisor.Moves.named {table : ProcessTable} {locals later : Supervisor}
    (moves : Supervisor.Moves table pid process locals later) (named : locals.Named pid process) :
    later.Named pid process := by
  intro settled
  cases moves with
  | identity => rfl
  | failsEarly => cases settled
  | writeFails phases =>
      refine named ?_
      generalize locals.phase = phase at phases settled ⊢
      simp only [List.mem_cons, Prod.mk.injEq, List.not_mem_nil, or_false] at phases
      rcases phases with ⟨rfl, rfl⟩ | ⟨rfl, rfl⟩ | ⟨rfl, rfl⟩ | ⟨rfl, rfl⟩ | ⟨rfl, rfl⟩ |
        ⟨rfl, rfl⟩ | ⟨rfl, rfl⟩ <;> rfl
  | failsLate phases =>
      refine named ?_
      generalize locals.phase = phase at phases ⊢
      simp only [List.mem_cons, Prod.mk.injEq, List.not_mem_nil, or_false] at phases
      rcases phases with ⟨rfl, rfl⟩ | ⟨rfl, rfl⟩ | ⟨rfl, rfl⟩ <;> rfl
  | helpersReady phase | namespaces _ phase | readTicks phase | readTicksFails phase
  | executed phase | survives phase | captures phase | stops phase =>
      exact named (by rw [phase]; rfl)

/-- A supervisor writes only its own identity. -/
theorem unnamed_of_writes {locals later : Supervisor} (writes : locals.writes = some later) :
    locals.phase.unnamed = false ∧ later.state = locals.state := by
  unfold Supervisor.writes at writes
  split at writes <;> cases writes <;> simp_all [SupervisorPhase.unnamed]

/-- Whatever a step makes of a supervisor, its record names it with its pid and its start time. -/
theorem Became.named {later : Supervisor} (became : Became world label pid process after)
    (role : after.role = .supervisor later)
    (named : ∀ locals, process.role = .supervisor locals → locals.Named pid process) :
    later.Named pid after := by
  have kind : process.role.kind = .supervisor := by simp [← became.kind, role]
  rw [Supervisor.Named, became.identity kind]
  intro settled
  cases became with
  | moved _ moves =>
      cases moves with
      | supervisor before moves =>
          cases role
          exact moves.named (named _ before) settled
      | setsid | supervisorCloses =>
          cases role
          cases settled
      | executes => cases role
      | supervisorExits | closesLock | joins | systemdSession | ends => exact named later role settled
  | asked requested =>
      cases requested with
      | noted before =>
          cases role
          have owns := named _ before
          exact owns settled
      | early | ignored => exact named later role settled
  | wrote _ before writes =>
      cases role
      rw [(unnamed_of_writes writes).2]
      exact named _ before (unnamed_of_writes writes).1
  | grouping _ before phase | forked _ before phase =>
      cases role
      have owns := named _ before
      exact owns (by rw [phase]; rfl)
  | killing _ before killed =>
      cases role
      have owns := named _ before
      unfold Supervisor.killed at killed
      split at killed <;> cases killed <;> exact owns (by simp_all [SupervisorPhase.unnamed])
  | reaping _ before reaped =>
      cases role
      have owns := named _ before
      unfold Supervisor.reaped at reaped
      split at reaped <;> cases reaped <;> exact owns (by simp_all [SupervisorPhase.unnamed])
  | same | killed | leftGroup | grouped => exact named later role settled

/-! ### Starts and clean-ups -/

/-- A start that has the lock and may still fork. -/
def Command.mayFork : Command → Bool
  | .start .read | .start (.check ..) | .start (.scan ..) | .start .fork => true
  | _ => false

theorem holds_of_mayFork {command : Command} (forks : command.mayFork = true) :
    command.holds = true := by
  unfold Command.mayFork at forks
  split at forks <;> first | rfl | cases forks

/-- A force-stop that kills init may not fork and is not cleaning up. -/
theorem forceInit_idle (state : LauncherState) (supervisorValid : Bool) :
    (forceInit state supervisorValid).mayFork = false ∧
      (forceInit state supervisorValid).cleansSince = none := by
  unfold forceInit
  split <;> exact ⟨rfl, rfl⟩

/-- A force-stop behind its scan may not fork. -/
theorem afterScan_mayFork (foundAt : Nat) (final : LauncherState) (round : Nat)
    (found : List Pid) : (afterScan foundAt final round found).mayFork = false := by
  unfold afterScan
  split
  · rfl
  · split <;> rfl

/-- A start may fork only after it has taken the lock, for no move brings a command from a phase without
the lock to one that forks. -/
theorem Command.Moves.mayFork {table : ProcessTable} {file : Option LauncherState}
    {command later : Command} (moves : Command.Moves table file command later)
    (forks : later.mayFork = true) : command.mayFork = true := by
  cases moves with
  | startRead | startCheck | startScan | startScanned => rfl
  | startReadBlocked | stopReadOrphan | stopRead =>
      split at forks
      · split at forks <;> cases forks
      · cases forks
  | forceRead =>
      split at forks
      · split at forks
        · cases forks
        · simp [(forceInit_idle _ _).1] at forks
      · cases forks
  | forceCheckSupervisor =>
      split at forks
      · cases forks
      · simp [(forceInit_idle _ _).1] at forks
  | forceSupervisorValid => simp [(forceInit_idle _ _).1] at forks
  | tailScanned => simp [afterScan_mayFork] at forks
  | startCheckBlocked | stopCheckOrphan | stopPoll | stopCheck | forceCheckInit | forceSession =>
      split at forks <;> cases forks
  | startOrphan | startFails | startClosed | stopOrphan | startBlocked | startReturns
  | stopPollLate | stopPollAgain | stopPollTimeout | stopKilled | stopValid | stopSignalFails
  | stopOrphanFails | stopOrphanGone | stopTimeout | forceInitValid | forceInitKilled
  | forceTimeout | tailOrphanKilled | tailScan | tailKilled | tailWriteFails | lockFails =>
      cases forks

/-- A command that may fork could do so before, or has just taken the lock; the second is the step that
the condition is about. -/
theorem Acts.mayFork {invocation : Nat} {later : Command} (acts : Acts world label invocation later)
    (forks : later.mayFork = true) :
    (world.commands invocation).mayFork = true ∨
      label = .take invocation ∧ world.commands invocation = .start .tryLock := by
  cases acts with
  | begin unused first =>
      unfold Command.first at first
      split at first <;> first | cases forks | cases first
  | move moves => exact .inl (moves.mayFork forks)
  | take takes =>
      refine .inr ⟨rfl, ?_⟩
      unfold Command.taken at takes
      split at takes <;> cases takes <;> first | assumption | cases forks
  | unlock unlocks =>
      unfold Command.unlocked at unlocks
      split at unlocks <;> cases unlocks <;> cases forks
  | blocked blocks =>
      unfold Command.blocked at blocks
      split at blocks <;> cases blocks <;> first | cases forks | (split at forks <;> cases forks)
  | kill kills =>
      unfold Command.kills at kills
      split at kills <;> cases kills <;> cases forks
  | terminate terminates =>
      unfold Command.terminates at terminates
      split at terminates <;> cases terminates <;> cases forks
  | fork | write | returns => cases forks

/-- A force-stop cleans up on what it found when it began. -/
theorem afterScan_cleansSince {foundAt time : Nat} {final : LauncherState} {round : Nat}
    {found : List Pid} (cleans : (afterScan foundAt final round found).cleansSince = some time) :
    foundAt = time := by
  unfold afterScan at cleans
  split at cleans
  · exact Option.some.inj cleans
  · split at cleans
    · exact Option.some.inj cleans
    · cases cleans

/-- A force-stop cleans up only after it has taken the lock, and the time since which it does so stays
the same. -/
theorem Command.Moves.cleansSince {table : ProcessTable} {file : Option LauncherState}
    {command later : Command} {time : Nat} (moves : Command.Moves table file command later)
    (cleans : later.cleansSince = some time) : command.cleansSince = some time := by
  cases moves with
  | tailOrphanKilled | tailScan | tailKilled => exact cleans
  | tailScanned => exact congrArg some (afterScan_cleansSince cleans)
  | startReadBlocked | stopReadOrphan | stopRead | startRead =>
      split at cleans
      · split at cleans <;> cases cleans
      · cases cleans
  | forceRead =>
      split at cleans
      · split at cleans
        · cases cleans
        · simp [(forceInit_idle _ _).2] at cleans
      · cases cleans
  | forceCheckSupervisor =>
      split at cleans
      · cases cleans
      · simp [(forceInit_idle _ _).2] at cleans
  | forceSupervisorValid => simp [(forceInit_idle _ _).2] at cleans
  | startCheckBlocked | stopCheckOrphan | stopPoll | stopCheck | forceCheckInit | forceSession
  | startCheck | startScanned => split at cleans <;> cases cleans
  | startOrphan | startFails | startClosed | stopOrphan | startBlocked | startReturns
  | stopPollLate | stopPollAgain | stopPollTimeout | stopKilled | stopValid | stopSignalFails
  | stopOrphanFails | stopOrphanGone | stopTimeout | forceInitValid | forceInitKilled
  | forceTimeout | tailWriteFails | lockFails | startScan => cases cleans

/-- A command that cleans up did so before, or has just taken the lock for it. -/
theorem Acts.cleansSince {invocation time : Nat} {later : Command}
    (acts : Acts world label invocation later) (cleans : later.cleansSince = some time) :
    (world.commands invocation).cleansSince = some time ∨
      label = .take invocation ∧ world.Free ∧ time = world.clock + 1 := by
  cases acts with
  | begin unused first =>
      unfold Command.first at first
      split at first <;> first | cases cleans | cases first
  | move moves => exact .inl (moves.cleansSince cleans)
  | take takes free =>
      refine .inr ⟨rfl, free, ?_⟩
      unfold Command.taken at takes
      split at takes <;> cases takes <;> first | exact (Option.some.inj cleans).symm | cases cleans
  | unlock unlocks =>
      refine .inl ?_
      generalize world.commands invocation = command at unlocks
      unfold Command.unlocked at unlocks
      split at unlocks <;> cases unlocks <;> exact cleans
  | blocked blocks =>
      unfold Command.blocked at blocks
      split at blocks <;> cases blocks <;> first | cases cleans | (split at cleans <;> cases cleans)
  | kill kills =>
      refine .inl ?_
      generalize world.commands invocation = command at kills
      unfold Command.kills at kills
      split at kills <;> cases kills <;> exact cleans
  | terminate terminates =>
      unfold Command.terminates at terminates
      split at terminates <;> cases terminates <;> cases cleans
  | fork | write | returns => cases cleans

/-! ### The invariant -/

/-- What a force-stop that cleans up can rely on. -/
structure CleansAlone (world : World) (foundAt : Nat) : Prop where
  closed : ∀ pid process, world.table pid = some process → process.lockFd = false
  quiet : ∀ invocation, (world.commands invocation).mayFork = false
  earlier : ∀ pid process, world.table pid = some process → process.role.kind ≠ .other →
    world.takenAt process.launch < foundAt

/-- While a force-stop cleans up alone no start is about to fork. -/
theorem CleansAlone.no_fork {foundAt invocation : Nat} (alone : CleansAlone world foundAt) :
    world.commands invocation ≠ .start .fork := by
  intro forks
  have quiet := alone.quiet invocation
  rw [forks] at quiet
  cases quiet

structure RecordSound (world : World) : Prop where
  lock : LockSound world
  large : ∀ pid process, world.table pid = some process → process.role.kind = .supervisor → 1 < pid
  named : ∀ pid process locals, world.table pid = some process →
    process.role = .supervisor locals → locals.Named pid process
  past : ∀ invocation, world.takenAt invocation ≤ world.clock
  record : ∀ pid process locals, world.table pid = some process →
    process.role = .supervisor locals → locals.recorded = true → process.lockFd = true →
    ∃ state, world.file = some state ∧ state.supervisor = process.identity pid
  cleans : ∀ invocation foundAt, (world.commands invocation).cleansSince = some foundAt →
    CleansAlone world foundAt

/-- In the initial world there is neither a lock nor a record. -/
theorem recordSound_initial : RecordSound World.initial where
  lock := lockSound_initial
  large _ _ present := by cases present
  named _ _ _ present := by cases present
  past _ := Nat.le_refl 0
  record _ _ _ present := by cases present
  cleans _ _ cleans := by cases cleans

namespace RecordSound

/-- After a step no supervisor has a pid of 0 or 1. -/
theorem large_kept (sound : RecordSound world) (step : Step world label next)
    (present : next.table pid = some after) (kind : after.role.kind = .supervisor) : 1 < pid := by
  rcases step.row_cases present with ⟨before, found, became⟩ | born
  · exact sound.large pid before found (became.kind ▸ kind)
  · obtain ⟨-, -, -, large, -⟩ := born_supervisor born kind
    exact large

/-- After a step every supervisor names itself in its record. -/
theorem named_kept (sound : RecordSound world) (step : Step world label next)
    {later : Supervisor} (present : next.table pid = some after)
    (role : after.role = .supervisor later) : later.Named pid after := by
  rcases step.row_cases present with ⟨before, found, became⟩ | born
  · exact became.named role fun locals => sound.named pid before locals found
  · obtain ⟨_, _, _, _, fresh, _⟩ := born_supervisor born (by simp [role])
    cases fresh.role.symm.trans role
    intro settled
    cases settled

/-- After a step no command has taken the lock later than now. -/
theorem past_kept (sound : RecordSound world) (step : Step world label next) (invocation : Nat) :
    next.takenAt invocation ≤ next.clock := by
  have before := sound.past invocation
  rcases step.lock_cases with ⟨-, clock, taken⟩ | ⟨taker, -, -, -, -, clock, taken⟩ |
    ⟨-, -, -, -, -, -, clock, taken⟩
  · rwa [clock, taken]
  · rw [clock, taken, Function.update_apply]
    split
    · exact Nat.le_refl _
    · exact Nat.le_succ_of_le before
  · rwa [clock, taken]

/-- The state file keeps naming the supervisor that has the lock: a supervisor writes its own identity,
and a force-stop writes only when nobody has the lock file open. -/
theorem record_kept (sound : RecordSound world) (step : Step world label next) {later : Supervisor}
    (present : next.table pid = some after) (role : after.role = .supervisor later)
    (recorded : later.recorded = true) (locked : after.lockFd = true) :
    ∃ state, next.file = some state ∧ state.supervisor = after.identity pid := by
  rcases step.row_cases present with ⟨before, found, became⟩ | born
  · have kind : before.role.kind = .supervisor := by simp [← became.kind, role]
    have lockedBefore := (became.lockFd locked).1
    rw [became.identity kind]
    rcases step.file_cases with file | ⟨invocation, foundAt, final, rfl, writes, file⟩ |
      ⟨writer, supervisor, locals, wrote, rfl, there, alive, writerRole, writes, file⟩
    · rw [file]
      rcases became.recorded role recorded with ⟨locals, roleBefore, recordedBefore⟩ | rfl
      · exact sound.record pid before locals found roleBefore recordedBefore lockedBefore
      · -- the step is this supervisor's own write
        cases step with
        | writeState there alive ownRole writes =>
            rw [← file]
            cases found.symm.trans there
            exact ⟨_, rfl, sound.named pid before _ found ownRole (unnamed_of_writes writes).1⟩
    · -- a force-stop writes only when nobody has the lock file open
      have cleans := sound.cleans invocation foundAt (by rw [writes]; rfl)
      rw [cleans.closed pid before found] at lockedBefore
      cases lockedBefore
    · have writerLocked := sound.lock.keeps writer supervisor locals there alive writerRole
        (phase_ne_exit_of_writes writes)
      obtain rfl := sound.lock.same_supervisor found there kind (by simp [writerRole]) lockedBefore
        writerLocked
      cases found.symm.trans there
      exact ⟨_, file, sound.named pid before locals found writerRole (unnamed_of_writes writes).1⟩
  · obtain ⟨_, _, _, _, fresh, _⟩ := born_supervisor born (by simp [role])
    cases fresh.role.symm.trans role
    cases recorded

/-- While a force-stop cleans up alone no command comes to fork, unless it takes the lock in between. -/
theorem quiet_kept (step : Step world label next) {foundAt : Nat}
    (alone : CleansAlone world foundAt)
    (apart : ∀ invocation, label = .take invocation →
      world.commands invocation ≠ .start .tryLock) (invocation : Nat) :
    (next.commands invocation).mayFork = false := by
  rw [Bool.eq_false_iff]
  intro forks
  rcases step.command_cases invocation with same | acts
  · rw [same, alone.quiet invocation] at forks
    cases forks
  · rcases acts.mayFork forks with before | ⟨taken, command⟩
    · rw [alone.quiet invocation] at before
      cases before
    · exact apart invocation taken command

theorem takenAt_kept (sound : RecordSound world) (step : Step world label next)
    (present : world.table pid = some process) (launched : process.role.kind ≠ .other) :
    next.takenAt process.launch = world.takenAt process.launch := by
  cases step with
  | take takes =>
      refine Function.update_of_ne ?_ _ _
      rintro rfl
      have forked := sound.lock.launched pid process present launched
      rw [not_hasForked_of_taken takes] at forked
      cases forked
  | _ => rfl

/-- What a clean-up relies on stays while no start takes the lock: the lock file is closed, no command
may fork, and every launch is earlier. -/
theorem cleansAlone_kept (sound : RecordSound world) (step : Step world label next) {foundAt : Nat}
    (alone : CleansAlone world foundAt)
    (apart : ∀ invocation, label = .take invocation →
      world.commands invocation ≠ .start .tryLock) : CleansAlone next foundAt where
  closed pid after present := by
    rw [Bool.eq_false_iff]
    intro locked
    rcases step.row_cases present with ⟨before, found, became⟩ | born
    · have lockedBefore := (became.lockFd locked).1
      rw [alone.closed pid before found] at lockedBefore
      cases lockedBefore
    · cases born with
      | supervisor forks => exact absurd forks alone.no_fork
      | helper there _ _ inherits | debian there _ _ _ _ _ inherits =>
          rw [inherits, alone.closed _ _ there] at locked
          cases locked
      | other _ unlocked =>
          rw [unlocked] at locked
          cases locked
  quiet := quiet_kept step alone apart
  earlier pid after present launched := by
    rcases step.row_cases present with ⟨before, found, became⟩ | born
    · have launchedBefore : before.role.kind ≠ .other := became.kind ▸ launched
      rw [became.launch, sound.takenAt_kept step found launchedBefore]
      exact alone.earlier pid before found launchedBefore
    · cases born with
      | supervisor forks => exact absurd forks alone.no_fork
      | helper there parentLaunched fresh =>
          have parent : _ ≠ Kind.other := fun other => parentLaunched (kind_eq_other.mp other)
          rw [fresh.launch, sound.takenAt_kept step there parent]
          exact alone.earlier _ _ there parent
      | debian there _ role _ _ fresh =>
          have parent : Role.kind _ ≠ Kind.other := fun other => by
            cases role.symm.trans (kind_eq_other.mp other)
          rw [fresh.launch, sound.takenAt_kept step there parent]
          exact alone.earlier _ _ there parent
      | other role => exact absurd (kind_eq_other.mpr role) launched

/-- After a step under the condition a force-stop still cleans up alone, also when the step is the one
by which it begins. -/
theorem cleans_kept (sound : RecordSound world) (step : Step world label next)
    (apart : StartsApart world label) {invocation foundAt : Nat}
    (cleans : (next.commands invocation).cleansSince = some foundAt) :
    CleansAlone next foundAt := by
  have before : (world.commands invocation).cleansSince = some foundAt ∨
      label = .take invocation ∧ world.Free ∧ foundAt = world.clock + 1 := by
    rcases step.command_cases invocation with same | acts
    · exact .inl (same ▸ cleans)
    · exact acts.cleansSince cleans
  rcases before with before | ⟨rfl, free, rfl⟩
  · refine sound.cleansAlone_kept step (sound.cleans invocation foundAt before) ?_
    intro taker taken command
    have none := apart taker taken command invocation
    rw [before] at none
    cases none
  · -- it has just found the lock free: nobody else has it, and every launch took it before
    have alone : CleansAlone world (world.clock + 1) :=
      { closed := fun pid process present => sound.lock.lockFd_of_free free present
        quiet := fun other => by
          rw [Bool.eq_false_iff]
          intro forks
          have held := holds_of_mayFork forks
          rw [(free other (sound.lock.holds other held)).1] at held
          cases held
        earlier := fun pid process present launched => Nat.lt_succ_of_le (sound.past process.launch) }
    refine sound.cleansAlone_kept step alone ?_
    rintro taker same command
    cases same
    cases step with
    | take takes =>
        rw [command] at takes
        cases takes
        simp [Command.cleansSince] at cleans

/-- Every step under the condition keeps the invariant of the record, field by field. -/
theorem kept (sound : RecordSound world) (step : Step world label next)
    (apart : StartsApart world label) : RecordSound next where
  lock := sound.lock.kept step
  large _ _ present kind := sound.large_kept step present kind
  named _ _ _ present role := sound.named_kept step present role
  past := sound.past_kept step
  record _ _ _ present role recorded locked := sound.record_kept step present role recorded locked
  cleans _ _ cleans := sound.cleans_kept step apart cleans

/-- Where the invariant holds, the lock and the record agree on the supervisor. -/
theorem recordAgrees (sound : RecordSound world) : RecordAgrees world := by
  intro pid process locals present alive role recorded locked _
  obtain ⟨state, file, same⟩ := sound.record pid process locals present role recorded locked
  have large := sound.large pid process present (by simp [role])
  refine ⟨state, file, same, fun ticks inode => ?_, fun check member => ?_⟩
  · simp [same, Recorded.complete, Process.identity, large, ticks, inode]
  · have found : look world.table state.supervisor.pid check = check process := by
      rw [look, same]
      simp [Process.identity, present]
    rw [found]
    simp only [supervisorChecks, List.mem_cons, List.not_mem_nil, or_false] at member
    rcases member with rfl | rfl | rfl <;>
      simp [ticksAgree, exeAgrees, signalable, same, Process.identity, alive]

/-- Where the invariant holds, a cleanup kills only what was there before it. -/
theorem strikesOnlyEarlier (sound : RecordSound world) : StrikesOnlyEarlier world label := by
  intro invocation target foundAt _ cleans pid process present _ launched _
  exact (sound.cleans invocation foundAt cleans).earlier pid process present
    fun other => launched (kind_eq_other.mp other)

end RecordSound

/-! ### Runs -/

/-- The lock and the state file agree in every run in which the starts keep apart from the clean-ups of
force-stops. -/
theorem lock_and_record_agree {trace : List (World × Label)} {last : World}
    (run : Run Step World.initial trace last) (apart : Meets StartsApart trace) :
    RecordAgrees last ∧ Meets StrikesOnlyEarlier trace := by
  have sound : RecordSound last :=
    run.invariant apart recordSound_initial fun _ _ _ sound apart step => sound.kept step apart
  have along := run.meets_invariant apart recordSound_initial fun _ _ _ sound apart step =>
    sound.kept step apart
  exact ⟨sound.recordAgrees, along.mono fun _ _ reached => reached.1.strikesOnlyEarlier⟩

/-- In a run with a sweep no start takes the lock while a force-stop is cleaning up. -/
theorem startsApart_of_swept (swept : Swept world label) : StartsApart world label := by
  rintro invocation rfl starts other
  cases swept with
  | start undisturbed =>
      cases command : world.commands other with
      | forceStop phase => exact absurd command (undisturbed.2 other phase)
      | _ => rfl
  | cleans listed command =>
      have same : invocation = 1 := by simpa using listed
      exact absurd (same ▸ starts) (command _)

/-- A force-stop finds the lock free and kills the orphan of an earlier launch; the supervisor of the next
start then has the lock and is on record. -/
theorem lock_and_record_agree_after_sweep :
    ∃ trace last, Run Step World.initial trace last ∧ Meets StartsApart trace ∧
      Takes (.kill 1 (.process 3)) (fun world => (world.commands 1).cleansSince = some 2) trace ∧
      last.lock = some 2 ∧ (∃ state, last.file = some state ∧ state.supervisor.pid = 4) ∧
      RecordAgrees last ∧ Meets StrikesOnlyEarlier trace := by
  obtain ⟨trace, last, run, swept, -, killed, -, locked, recorded⟩ := start_after_sweep
  have apart : Meets StartsApart trace := swept.mono fun _ _ => startsApart_of_swept
  exact ⟨trace, last, run, apart, killed, locked, ⟨_, recorded, rfl⟩, lock_and_record_agree run apart⟩

/-- A start slips in behind the force-stop's last release of the lock; the force-stop then writes over
what its supervisor has recorded. -/
theorem record_lost_to_force_stop :
    ¬∀ trace last, Run Step World.initial trace last →
      RecordAgrees last ∧ Meets StrikesOnlyEarlier trace := by
  intro agrees
  have r0 : Run Step World.initial [] World.initial := .start
  -- the force-stop finds no state file and the lock free, and gives the lock back
  have r1 := r0.step (@Step.begin _ 0 (.forceStop .read) rfl rfl)
  have r2 := r1.step (@Step.move _ 0 _ .forceRead)
  have r3 := r2.step (@Step.take _ 0 _ rfl (fun _ held => nomatch held))
  have r4 := r3.step (@Step.unlock _ 0 _ rfl)
  have r5 := r4.step (@Step.move _ 0 _ .tailOrphanKilled)
  have r6 := r5.step (@Step.move _ 0 _ (.tailScanned (.inr fun _ _ => rfl)))
  -- the start forks a supervisor, which records itself
  have r7 := r6.step (@Step.begin _ 1 (.start .tryLock) rfl rfl)
  have r8 := r7.step (@Step.take _ 1 _ rfl (fun _ held => nomatch held))
  have r9 := r8.step (@Step.move _ 1 _ .startRead)
  have r10 := r9.step (@Step.move _ 1 _ (.startScanned (.inr fun _ _ => rfl)))
  have r11 := r10.step (@Step.fork _ 1 2 { compatSupervisor with launch := 1 } rfl rfl (by decide)
    ⟨rfl, rfl, rfl⟩ rfl rfl)
  have r12 := r11.step (@Step.row _ 2 _ _ rfl rfl (.setsid rfl rfl))
  have r13 := r12.step (@Step.row _ 2 _ _ rfl rfl (.supervisor rfl (.identity rfl)))
  have r14 := r13.step (@Step.writeState _ 2 _ _ _ rfl rfl rfl rfl)
  -- the force-stop writes its final state
  have r15 := r14.step (@Step.write _ 0 _ _ rfl)
  obtain ⟨state, file, same, -⟩ := (agrees _ _ r15).1 2 _ _ rfl rfl rfl rfl rfl rfl
  cases file
  cases same

end DawnShell.Launcher
