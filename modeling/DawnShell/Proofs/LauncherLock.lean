/-
Module: DawnShell.Proofs.LauncherLock
Layer: Proofs
Purpose: Who can have the lock.  An invocation that has taken it and not given it back, and every process
  that has inherited its descriptor, belong to the description that took the lock last; a launch has one
  supervisor; a supervisor keeps its descriptor until it is about to exit.
Trusted boundary: none
Main exports: LockSound, LockSound.kept, lockSound_initial, LockSound.same_supervisor
-/
import DawnShell.Proofs.LauncherSteps

namespace DawnShell.Launcher

variable {world next : World} {label : Label} {pid : Pid} {process after : Process}

/-! ### What stays of a row -/

/-- A process that takes a step of its own still belongs to the start it came from. -/
theorem RowMoves.launch {table : ProcessTable} (moves : RowMoves table pid process after) :
    after.launch = process.launch := by
  cases moves <;> rfl

/-- A request to stop does not change which start a process belongs to. -/
theorem Requested.launch (requested : Requested process after) :
    after.launch = process.launch := by
  cases requested <;> rfl

/-- Whatever a step makes of a process that goes on, it still belongs to the start it came from. -/
theorem Became.launch (became : Became world label pid process after) :
    after.launch = process.launch := by
  cases became with
  | moved _ moves => exact moves.launch
  | asked requested => exact requested.launch
  | same | killed | leftGroup | grouped | grouping | wrote | forked | killing | reaping => rfl

/-- A descriptor is closed and never opened again, and a process that keeps it goes on as it was. -/
theorem Became.lockFd (became : Became world label pid process after)
    (locked : after.lockFd = true) : process.lockFd = true ∧ after.alive = process.alive := by
  cases became with
  | moved _ moves =>
      cases moves with
      | supervisor | setsid | joins | executes | systemdSession => exact ⟨locked, rfl⟩
      | supervisorCloses | supervisorExits | closesLock | ends => cases locked
  | asked requested =>
      cases requested with
      | noted | ignored => exact ⟨locked, rfl⟩
      | early => cases locked
  | killed => cases locked
  | same | leftGroup | grouped | grouping | wrote | forked | killing | reaping => exact ⟨locked, rfl⟩

/-- What a process is in a launch, without what it is doing. -/
inductive Kind where
  | supervisor
  | debian
  | helper
  | other
deriving DecidableEq

def Role.kind : Role → Kind
  | .supervisor _ => .supervisor
  | .debian .. => .debian
  | .helper => .helper
  | .other => .other

@[simp] theorem kind_eq_supervisor {role : Role} :
    role.kind = .supervisor ↔ ∃ locals, role = .supervisor locals := by
  cases role <;> simp [Role.kind]

@[simp] theorem kind_eq_debian {role : Role} :
    role.kind = .debian ↔ ∃ mode executed, role = .debian mode executed := by
  cases role <;> simp [Role.kind]

@[simp] theorem kind_eq_other {role : Role} : role.kind = .other ↔ role = .other := by
  cases role <;> simp [Role.kind]

/-- A process that takes a step of its own keeps its kind. -/
theorem RowMoves.kind {table : ProcessTable} (moves : RowMoves table pid process after) :
    after.role.kind = process.role.kind := by
  cases moves with
  | supervisor role | setsid role | supervisorCloses role | executes _ _ _ role =>
      rw [role]
      rfl
  | supervisorExits | closesLock | joins | systemdSession | ends => rfl

/-- No step turns a process that goes on into one of another kind. -/
theorem Became.kind (became : Became world label pid process after) :
    after.role.kind = process.role.kind := by
  cases became with
  | moved _ moves => exact moves.kind
  | asked requested =>
      cases requested with
      | noted role =>
          rw [role]
          rfl
      | early | ignored => rfl
  | grouping _ role | wrote _ role | forked _ role | killing _ role | reaping _ role =>
      rw [role]
      rfl
  | same | killed | leftGroup | grouped => rfl

/-! ### Supervisors -/

/-- A supervisor that moves has not come to its exit. -/
theorem Supervisor.Moves.phase_ne_exit {table : ProcessTable} {locals later : Supervisor}
    (moves : Supervisor.Moves table pid process locals later) : locals.phase ≠ .exit := by
  intro exits
  cases moves <;> simp_all

/-- A supervisor that writes its state has not come to its exit. -/
theorem phase_ne_exit_of_writes {locals later : Supervisor} (writes : locals.writes = some later) :
    locals.phase ≠ .exit := by
  intro exits
  simp [Supervisor.writes, exits] at writes

/-- A supervisor that kills its child has not come to its exit. -/
theorem phase_ne_exit_of_killed {locals later : Supervisor} (killed : locals.killed = some later) :
    locals.phase ≠ .exit := by
  intro exits
  simp [Supervisor.killed, exits] at killed

/-- A supervisor that reaps a child has not come to its exit. -/
theorem phase_ne_exit_of_reaped {locals later : Supervisor} {waitStatus : Int}
    (reaped : locals.reaped waitStatus = some later) : locals.phase ≠ .exit := by
  intro exits
  simp [Supervisor.reaped, exits] at reaped

/-- A live supervisor that is not about to exit was one before the step and has closed nothing. -/
theorem Became.supervisor_keeps {later : Supervisor}
    (became : Became world label pid process after) (alive : after.alive = true)
    (role : after.role = .supervisor later) (phase : later.phase ≠ .exit) :
    (∃ locals, process.role = .supervisor locals ∧ locals.phase ≠ .exit) ∧
      after.lockFd = process.lockFd := by
  cases became with
  | same | leftGroup | grouped => exact ⟨⟨later, role, phase⟩, rfl⟩
  | killed => cases alive
  | asked requested =>
      cases requested with
      | noted before =>
          cases role
          exact ⟨⟨_, before, phase⟩, rfl⟩
      | early => cases alive
      | ignored => exact ⟨⟨later, role, phase⟩, rfl⟩
  | moved _ moves =>
      cases moves with
      | supervisor before moves => exact ⟨⟨_, before, moves.phase_ne_exit⟩, rfl⟩
      | setsid before phase => exact ⟨⟨_, before, by simp [phase]⟩, rfl⟩
      | supervisorCloses =>
          cases role
          contradiction
      | supervisorExits | ends => cases alive
      | closesLock child => exact absurd role (child later)
      | joins | systemdSession => exact ⟨⟨later, role, phase⟩, rfl⟩
      | executes => cases role
  | grouping _ before phase => exact ⟨⟨_, before, by simp [phase]⟩, rfl⟩
  | wrote _ before writes => exact ⟨⟨_, before, phase_ne_exit_of_writes writes⟩, rfl⟩
  | forked _ before phase => exact ⟨⟨_, before, by simp [phase]⟩, rfl⟩
  | killing _ before killed => exact ⟨⟨_, before, phase_ne_exit_of_killed killed⟩, rfl⟩
  | reaping _ before reaped => exact ⟨⟨_, before, phase_ne_exit_of_reaped reaped⟩, rfl⟩

/-- A supervisor is born by the fork of a start, with the lock of that start among its descriptors. -/
theorem born_supervisor (born : Born world label pid process)
    (kind : process.role.kind = .supervisor) :
    ∃ invocation, label = .fork invocation pid ∧ world.commands invocation = .start .fork ∧
      1 < pid ∧ process.Fresh invocation (.supervisor {}) ∧ process.lockFd = true := by
  cases born with
  | supervisor forks large fresh inherits => exact ⟨_, rfl, forks, large, fresh, inherits⟩
  | helper _ _ fresh | debian _ _ _ _ _ fresh => simp [fresh.role] at kind
  | other role => simp [role] at kind

/-! ### Invocations -/

/-- A start that has forked its supervisor. -/
def Command.hasForked : Command → Bool
  | .start .closeLock | .start .awaitReady | .finished _ => true
  | _ => false

/-- A start that has forked closes its lock, waits for its supervisor or has finished. -/
theorem hasForked_cases {command : Command} (forked : command.hasForked = true) :
    command = .start .closeLock ∨ command = .start .awaitReady ∨ ∃ code, command = .finished code := by
  unfold Command.hasForked at forked
  split at forked
  · exact .inl rfl
  · exact .inr (.inl rfl)
  · exact .inr (.inr ⟨_, rfl⟩)
  · cases forked

/-- A command that has forked stays one that has. -/
theorem Command.Moves.hasForked {table : ProcessTable} {file : Option LauncherState}
    {command later : Command} (moves : Command.Moves table file command later)
    (forked : command.hasForked = true) : later.hasForked = true := by
  cases moves with
  | startClosed | startReturns => rfl
  | lockFails => rfl
  | _ => cases forked

/-- An invocation that has forked does nothing but move on. -/
theorem Acts.hasForked {invocation : Nat} {later : Command}
    (acts : Acts world label invocation later)
    (forked : (world.commands invocation).hasForked = true) : later.hasForked = true := by
  have idle := hasForked_cases forked
  cases acts with
  | move moves => exact moves.hasForked forked
  | fork => rfl
  | returns => rfl
  | begin acts | write acts | take acts | blocked acts | unlock acts | kill acts | terminate acts =>
      rcases idle with same | same | ⟨code, same⟩ <;> rw [same] at acts <;> cases acts

/-- The part of a force-stop that kills init does not hold the lock. -/
theorem forceInit_holds (state : LauncherState) (supervisorValid : Bool) :
    (forceInit state supervisorValid).holds = false := by
  unfold forceInit
  split <;> rfl

/-- A force-stop does not hold the lock behind its scan, whatever that has found. -/
theorem afterScan_holds (foundAt : Nat) (final : LauncherState) (round : Nat) (found : List Pid) :
    (afterScan foundAt final round found).holds = false := by
  unfold afterScan
  split
  · rfl
  · split <;> rfl

/-- The lock is taken by `flock` alone: a move of a command is never the one by which it comes to hold
the lock. -/
theorem Command.Moves.holds {table : ProcessTable} {file : Option LauncherState}
    {command later : Command} (moves : Command.Moves table file command later)
    (held : later.holds = true) : command.holds = true := by
  cases moves with
  | startRead | startCheck | startOrphan | startScan | startScanned | startFails | startClosed
  | stopReadOrphan | stopCheckOrphan | stopOrphan => rfl
  | startReadBlocked | stopRead =>
      split at held
      · split at held <;> cases held
      · cases held
  | forceRead =>
      split at held
      · split at held
        · cases held
        · simp [forceInit_holds] at held
      · cases held
  | forceCheckSupervisor =>
      split at held
      · cases held
      · simp [forceInit_holds] at held
  | forceSupervisorValid => simp [forceInit_holds] at held
  | tailScanned => simp [afterScan_holds] at held
  | startCheckBlocked | stopPoll | stopCheck | forceCheckInit | forceSession =>
      split at held <;> cases held
  | startBlocked | startReturns | stopPollLate | stopPollAgain | stopPollTimeout | stopKilled
  | stopValid | stopSignalFails | stopOrphanFails | stopOrphanGone | stopTimeout | forceInitValid
  | forceInitKilled | forceTimeout | tailOrphanKilled | tailScan | tailKilled | tailWriteFails
  | lockFails => cases held

/-- A command that gives the lock back had it, has forked nothing and has it no longer. -/
theorem holds_of_unlocked {command later : Command} (unlocks : command.unlocked = some later) :
    command.holds = true ∧ command.hasForked = false ∧ later.holds = false := by
  unfold Command.unlocked at unlocks
  split at unlocks <;> cases unlocks <;> exact ⟨rfl, rfl, rfl⟩

/-- A command takes the lock before it forks anything. -/
theorem not_hasForked_of_taken {command later : Command} {time : Nat}
    (takes : command.taken time = some later) : command.hasForked = false := by
  unfold Command.taken at takes
  split at takes <;> cases takes <;> rfl

/-- An invocation has the lock because it had it or because it has just taken it. -/
theorem Acts.holds {invocation : Nat} {later : Command} (acts : Acts world label invocation later)
    (held : later.holds = true) :
    (world.commands invocation).holds = true ∨ label = .take invocation := by
  cases acts with
  | begin unused first =>
      unfold Command.first at first
      split at first <;> first | cases held | cases first
  | move moves => exact .inl (moves.holds held)
  | take => exact .inr rfl
  | fork forks =>
      rw [forks]
      exact .inl rfl
  | unlock unlocks =>
      rw [(holds_of_unlocked unlocks).2.2] at held
      cases held
  | blocked blocks =>
      unfold Command.blocked at blocks
      split at blocks <;> cases blocks <;> first | cases held | (split at held <;> cases held)
  | kill kills =>
      unfold Command.kills at kills
      split at kills <;> cases kills <;> cases held
  | terminate terminates =>
      unfold Command.terminates at terminates
      split at terminates <;> cases terminates <;> cases held
  | write | returns => cases held

/-! ### The invariant -/

structure LockSound (world : World) : Prop where
  holds : ∀ invocation, (world.commands invocation).holds = true → world.lock = some invocation
  opened : ∀ pid process, world.table pid = some process → process.lockFd = true →
    world.lock = some process.launch
  openers : ∀ pid process, world.table pid = some process → process.lockFd = true →
    process.alive = true ∧ process.role.kind ≠ .other
  launched : ∀ pid process, world.table pid = some process → process.role.kind ≠ .other →
    (world.commands process.launch).hasForked = true
  single : ∀ pid process other second, world.table pid = some process →
    world.table other = some second → process.role.kind = .supervisor →
    second.role.kind = .supervisor → process.launch = second.launch → pid = other
  keeps : ∀ pid process locals, world.table pid = some process → process.alive = true →
    process.role = .supervisor locals → locals.phase ≠ .exit → process.lockFd = true

/-- In the initial world nobody holds the lock. -/
theorem lockSound_initial : LockSound World.initial where
  holds _ held := by cases held
  opened _ _ present := by cases present
  openers _ _ present := by cases present
  launched _ _ present := by cases present
  single _ _ _ _ present := by cases present
  keeps _ _ _ present := by cases present

namespace LockSound

/-- A process with the lock among its descriptors comes from a start that has forked. -/
theorem hasForked_of_lockFd (sound : LockSound world) (present : world.table pid = some process)
    (locked : process.lockFd = true) : (world.commands process.launch).hasForked = true :=
  sound.launched pid process present (sound.openers pid process present locked).2

/-- The supervisor that forks a Debian process has the lock file open. -/
theorem parent_of_debian (sound : LockSound world) (born : Born world label pid process)
    (kind : process.role.kind = .debian) :
    ∃ parent row, world.table parent = some row ∧ row.role.kind = .supervisor ∧ row.lockFd = true := by
  cases born with
  | supervisor _ _ fresh | helper _ _ fresh => simp [fresh.role] at kind
  | other role => simp [role] at kind
  | @debian parent _ row _ locals there alive role phase =>
      exact ⟨parent, row, there, by simp [role], sound.keeps _ _ _ there alive role (by simp [phase])⟩

/-- While the lock is free no process has its file open. -/
theorem lockFd_of_free (sound : LockSound world) (free : world.Free)
    (present : world.table pid = some process) : process.lockFd = false := by
  rw [Bool.eq_false_iff]
  intro locked
  exact (free _ (sound.opened pid process present locked)).2
    ⟨pid, process, present, (sound.openers pid process present locked).1, locked, rfl⟩

/-- While an invocation that has not forked has the lock no process has its file open. -/
theorem lockFd_of_holds (sound : LockSound world) {invocation : Nat}
    (holds : (world.commands invocation).holds = true)
    (unforked : (world.commands invocation).hasForked = false)
    (present : world.table pid = some process) : process.lockFd = false := by
  rw [Bool.eq_false_iff]
  intro locked
  have owner := (sound.holds invocation holds).symm.trans (sound.opened pid process present locked)
  have forked := sound.hasForked_of_lockFd present locked
  rw [← Option.some.inj owner, unforked] at forked
  cases forked

/-- Two supervisors that have the lock file open are one. -/
theorem same_supervisor (sound : LockSound world) {other : Pid} {second : Process}
    (present : world.table pid = some process) (there : world.table other = some second)
    (kind : process.role.kind = .supervisor) (otherKind : second.role.kind = .supervisor)
    (locked : process.lockFd = true) (otherLocked : second.lockFd = true) : pid = other :=
  sound.single pid process other second present there kind otherKind
    (Option.some.inj
      ((sound.opened pid process present locked).symm.trans
        (sound.opened other second there otherLocked)))

/-- A command that holds the lock after a step is the one that the lock is held for. -/
theorem holds_kept (sound : LockSound world) (step : Step world label next) {invocation : Nat}
    (held : (next.commands invocation).holds = true) : next.lock = some invocation := by
  have before : (world.commands invocation).holds = true ∨ label = .take invocation := by
    rcases step.command_cases invocation with same | acts
    · exact .inl (same ▸ held)
    · exact acts.holds held
  rcases before with before | rfl
  · have owns := sound.holds invocation before
    cases step with
    | take takes free =>
        rw [(free invocation owns).1] at before
        cases before
    | @unlock other later unlocks =>
        by_cases same : invocation = other
        · subst same
          simp [(holds_of_unlocked unlocks).2.2] at held
        · simp [owns, same]
    | _ => exact owns
  · cases step
    rfl

/-- A process that has the lock open after a step belongs to the start that the lock is held for. -/
theorem opened_kept (sound : LockSound world) (step : Step world label next)
    (present : next.table pid = some after) (locked : after.lockFd = true) :
    next.lock = some after.launch := by
  rcases step.row_cases present with ⟨before, found, became⟩ | born
  · have lockedBefore := (became.lockFd locked).1
    have owns := sound.opened pid before found lockedBefore
    rw [became.launch]
    cases step with
    | take takes free =>
        rw [sound.lockFd_of_free free found] at lockedBefore
        cases lockedBefore
    | @unlock other later unlocks =>
        have different : before.launch ≠ other := by
          rintro rfl
          have forked := sound.hasForked_of_lockFd found lockedBefore
          rw [(holds_of_unlocked unlocks).2.1] at forked
          cases forked
        simp [owns, different]
    | _ => exact owns
  · cases born with
    | supervisor forks large fresh =>
        have owns := sound.holds _ (by rw [forks]; rfl)
        rw [fresh.launch]
        cases step
        exact owns
    | helper there launched fresh inherits =>
        rw [fresh.launch]
        cases step
        exact sound.opened _ _ there (inherits ▸ locked)
    | debian there alive role phase large fresh inherits =>
        rw [fresh.launch]
        cases step
        exact sound.opened _ _ there (inherits ▸ locked)
    | other role unlocked =>
        rw [unlocked] at locked
        cases locked

/-- After a step only living processes of DawnShell have the lock open. -/
theorem openers_kept (sound : LockSound world) (step : Step world label next)
    (present : next.table pid = some after) (locked : after.lockFd = true) :
    after.alive = true ∧ after.role.kind ≠ .other := by
  rcases step.row_cases present with ⟨before, found, became⟩ | born
  · obtain ⟨lockedBefore, alive⟩ := became.lockFd locked
    rw [became.kind, alive]
    exact sound.openers pid before found lockedBefore
  · cases born with
    | supervisor _ _ fresh | helper _ _ fresh | debian _ _ _ _ _ fresh =>
        exact ⟨fresh.alive, by simp [fresh.role]⟩
    | other role unlocked =>
        rw [unlocked] at locked
        cases locked

/-- No step takes back that a start has forked. -/
theorem hasForked_kept (step : Step world label next) {invocation : Nat}
    (forked : (world.commands invocation).hasForked = true) :
    (next.commands invocation).hasForked = true := by
  rcases step.command_cases invocation with same | acts
  · exact same ▸ forked
  · exact acts.hasForked forked

/-- After a step every process of DawnShell comes from a start that has forked. -/
theorem launched_kept (sound : LockSound world) (step : Step world label next)
    (present : next.table pid = some after) (launched : after.role.kind ≠ .other) :
    (next.commands after.launch).hasForked = true := by
  rcases step.row_cases present with ⟨before, found, became⟩ | born
  · rw [became.launch]
    exact hasForked_kept step (sound.launched pid before found (became.kind ▸ launched))
  · cases born with
    | supervisor _ _ fresh =>
        cases step
        simp [fresh.launch, Command.hasForked]
    | helper there parentLaunched fresh =>
        rw [fresh.launch]
        exact hasForked_kept step
          (sound.launched _ _ there fun other => parentLaunched (kind_eq_other.mp other))
    | debian there alive role phase large fresh =>
        rw [fresh.launch]
        exact hasForked_kept step (sound.launched _ _ there (by simp [role]))
    | other role => exact absurd (kind_eq_other.mpr role) launched

/-- A supervisor that has just been forked is the first of its launch. -/
theorem first_of_launch (sound : LockSound world) {invocation : Nat}
    (forks : world.commands invocation = .start .fork) (present : world.table pid = some process)
    (kind : process.role.kind = .supervisor) : process.launch ≠ invocation := by
  rintro rfl
  have forked := sound.launched pid process present (by simp [kind])
  rw [forks] at forked
  cases forked

/-- After a step there is still one supervisor for each start at the most. -/
theorem single_kept (sound : LockSound world) (step : Step world label next) {other : Pid}
    {second : Process} (present : next.table pid = some after)
    (there : next.table other = some second) (kind : after.role.kind = .supervisor)
    (otherKind : second.role.kind = .supervisor) (same : after.launch = second.launch) :
    pid = other := by
  rcases step.row_cases present with ⟨before, found, became⟩ | born <;>
    rcases step.row_cases there with ⟨earlier, foundOther, becameOther⟩ | bornOther
  · rw [became.launch, becameOther.launch] at same
    exact sound.single pid before other earlier found foundOther (became.kind ▸ kind)
      (becameOther.kind ▸ otherKind) same
  · obtain ⟨invocation, -, forks, -, fresh, -⟩ := born_supervisor bornOther otherKind
    rw [became.launch, fresh.launch] at same
    exact absurd same (sound.first_of_launch forks found (became.kind ▸ kind))
  · obtain ⟨invocation, -, forks, -, fresh, -⟩ := born_supervisor born kind
    rw [becameOther.launch, fresh.launch] at same
    exact absurd same.symm (sound.first_of_launch forks foundOther (becameOther.kind ▸ otherKind))
  · obtain ⟨invocation, rfl, -⟩ := born_supervisor born kind
    obtain ⟨again, labels, -⟩ := born_supervisor bornOther otherKind
    injection labels

/-- After a step a living supervisor that is not at its exit has its lock open. -/
theorem keeps_kept (sound : LockSound world) (step : Step world label next) {later : Supervisor}
    (present : next.table pid = some after) (alive : after.alive = true)
    (role : after.role = .supervisor later) (phase : later.phase ≠ .exit) :
    after.lockFd = true := by
  rcases step.row_cases present with ⟨before, found, became⟩ | born
  · obtain ⟨⟨locals, roleBefore, phaseBefore⟩, same⟩ := became.supervisor_keeps alive role phase
    rw [same]
    exact sound.keeps pid before locals found (became.alive alive) roleBefore phaseBefore
  · obtain ⟨-, -, -, -, -, inherits⟩ := born_supervisor born (by simp [role])
    exact inherits

/-- Every step of every party keeps the invariant of the lock, field by field. -/
theorem kept (sound : LockSound world) (step : Step world label next) : LockSound next where
  holds _ held := sound.holds_kept step held
  opened _ _ present locked := sound.opened_kept step present locked
  openers _ _ present locked := sound.openers_kept step present locked
  launched _ _ present launched := sound.launched_kept step present launched
  single _ _ _ _ present there kind otherKind same :=
    sound.single_kept step present there kind otherKind same
  keeps _ _ _ present alive role phase := sound.keeps_kept step present alive role phase

end LockSound

end DawnShell.Launcher
