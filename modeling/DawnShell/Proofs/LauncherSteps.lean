/-
Module: DawnShell.Proofs.LauncherSteps
Layer: Proofs
Purpose: What one step of the launcher can do to a row of the process table, to an invocation, to the
  state file and to the lock.  Every row after a step was there before and has become something else in
  one of a few ways, or has just been born; a live row is never removed.  The invariants of the launcher
  are proved from these facts and never take a step apart again.
Trusted boundary: none
Main exports: Kills, Became, Born, Acts, Step.row_cases, Step.row_persists, Step.command_cases,
  Step.file_cases, Step.lock_cases, Became.spared
-/
import DawnShell.Launcher.World

namespace DawnShell.Launcher

/-- A step sends `SIGKILL` to a process. -/
inductive Kills (world : World) : Label → Pid → Process → Prop where
  | command {invocation : Nat} {target : Target} {pid : Pid} {process : Process}
      (hits : target.hits world.table pid process = true) :
      Kills world (.kill invocation target) pid process
  | parent {parent pid : Pid} {supervisor process : Process} {locals : Supervisor}
      (present : world.table parent = some supervisor)
      (role : supervisor.role = .supervisor locals) (different : pid ≠ parent)
      (strikes : locals.strikes world.table pid process = true) :
      Kills world (.killChild parent) pid process
  | strike {pid : Pid} {process : Process} : Kills world (.strike pid) pid process

/-- What a step has made of a row. -/
inductive Became (world : World) : Label → Pid → Process → Process → Prop where
  | same {label : Label} {pid : Pid} {process : Process} (spared : ¬Kills world label pid process) :
      Became world label pid process process
  | moved {pid : Pid} {process next : Process} (alive : process.alive = true)
      (moves : RowMoves world.table pid process next) : Became world (.row pid) pid process next
  | killed {label : Label} {pid : Pid} {process : Process} (kills : Kills world label pid process) :
      Became world label pid process process.dead
  | asked {invocation : Nat} {pid : Pid} {process next : Process}
      (requested : Requested process next) :
      Became world (.terminate invocation pid) pid process next
  | leftGroup {pid : Pid} {process : Process} (role : process.role = .debian .compat false) :
      Became world (.leaveGroup pid) pid process { process with group := pid }
  | grouped {parent pid : Pid} {process supervisor : Process} {locals : Supervisor}
      (present : world.table parent = some supervisor)
      (parentRole : supervisor.role = .supervisor locals) (child : locals.child = pid)
      (role : process.role = .debian .compat false) :
      Became world (.setGroup parent) pid process { process with group := pid }
  | grouping {pid : Pid} {process : Process} {locals : Supervisor} (alive : process.alive = true)
      (role : process.role = .supervisor locals) (phase : locals.phase = .setGroup) :
      Became world (.setGroup pid) pid process
        { process with role := .supervisor { locals with phase := .readTicks } }
  | wrote {pid : Pid} {process : Process} {locals next : Supervisor}
      (alive : process.alive = true) (role : process.role = .supervisor locals)
      (writes : locals.writes = some next) :
      Became world (.writeState pid) pid process { process with role := .supervisor next }
  | forked {pid child : Pid} {process : Process} {locals : Supervisor}
      (alive : process.alive = true) (role : process.role = .supervisor locals)
      (phase : locals.phase = .forkChild) :
      Became world (.forkDebian pid child) pid process
        { process with role := .supervisor (locals.forked child) }
  | killing {pid : Pid} {process : Process} {locals next : Supervisor}
      (alive : process.alive = true) (role : process.role = .supervisor locals)
      (killed : locals.killed = some next) :
      Became world (.killChild pid) pid process { process with role := .supervisor next }
  | reaping {pid : Pid} {process child : Process} {locals next : Supervisor} {waitStatus : Int}
      (alive : process.alive = true) (role : process.role = .supervisor locals)
      (reaped : locals.reaped waitStatus = some next)
      (found : world.table locals.child = some child) (dead : child.alive = false) :
      Became world (.reap pid) pid process { process with role := .supervisor next }

/-- A row that a step has made. -/
inductive Born (world : World) : Label → Pid → Process → Prop where
  | supervisor {invocation : Nat} {pid : Pid} {process : Process}
      (forks : world.commands invocation = .start .fork) (large : 1 < pid)
      (fresh : process.Fresh invocation (.supervisor {})) (inherits : process.lockFd = true) :
      Born world (.fork invocation pid) pid process
  | helper {parent pid : Pid} {process child : Process}
      (present : world.table parent = some process) (launched : process.role ≠ .other)
      (fresh : child.Fresh process.launch .helper) (inherits : child.lockFd = process.lockFd) :
      Born world (.forkHelper parent pid) pid child
  | debian {parent pid : Pid} {process child : Process} {locals : Supervisor}
      (present : world.table parent = some process) (alive : process.alive = true)
      (role : process.role = .supervisor locals) (phase : locals.phase = .forkChild)
      (large : 1 < pid) (fresh : child.Fresh process.launch (.debian locals.mode false))
      (inherits : child.lockFd = process.lockFd) (grouped : child.group = process.group) :
      Born world (.forkDebian parent pid) pid child
  | other {pid : Pid} {process : Process} (role : process.role = .other)
      (unlocked : process.lockFd = false) : Born world (.appear pid) pid process

/-- What an invocation does, and what it goes on with. -/
inductive Acts (world : World) : Label → Nat → Command → Prop where
  | begin {invocation : Nat} {command : Command} (unused : world.commands invocation = .absent)
      (first : command.first = true) : Acts world (.begin invocation) invocation command
  | move {invocation : Nat} {next : Command}
      (moves : Command.Moves world.table world.file (world.commands invocation) next) :
      Acts world (.move invocation) invocation next
  | take {invocation : Nat} {next : Command}
      (takes : (world.commands invocation).taken (world.clock + 1) = some next)
      (free : world.Free) : Acts world (.take invocation) invocation next
  | blocked {invocation : Nat} {next : Command}
      (blocked : (world.commands invocation).blocked = some next) :
      Acts world (.blocked invocation) invocation next
  | unlock {invocation : Nat} {next : Command}
      (unlocks : (world.commands invocation).unlocked = some next) :
      Acts world (.unlock invocation) invocation next
  | fork {invocation : Nat} {pid : Pid} (forks : world.commands invocation = .start .fork) :
      Acts world (.fork invocation pid) invocation (.start .closeLock)
  | kill {invocation : Nat} {target : Target} {next : Command}
      (kills : (world.commands invocation).kills = some (target, next)) :
      Acts world (.kill invocation target) invocation next
  | terminate {invocation : Nat} {pid : Pid} {next : Command}
      (terminates : (world.commands invocation).terminates = some (pid, next)) :
      Acts world (.terminate invocation pid) invocation next
  | write {invocation foundAt : Nat} {final : LauncherState}
      (writes : world.commands invocation = .forceStop (.tail foundAt final .write)) :
      Acts world (.write invocation) invocation (.forceStop (.tail foundAt final .report))
  | returns {invocation foundAt : Nat} {final : LauncherState}
      (reports : world.commands invocation = .forceStop (.tail foundAt final .report)) :
      Acts world (.returns invocation) invocation (.finished 0)

variable {world next : World} {label : Label} {pid : Pid} {process after : Process}

/-! ### Rows -/

/-- A process that is there after a kill was there before it, and is dead if it was hit. -/
theorem killWhere_eq_some {table : ProcessTable} {hit : Pid → Process → Bool} :
    table.killWhere hit pid = some after ↔
      ∃ process, table pid = some process ∧
        after = if hit pid process then process.dead else process := by
  simp only [ProcessTable.killWhere, Option.map_eq_some_iff]
  constructor
  · rintro ⟨process, present, rfl⟩
    exact ⟨process, present, rfl⟩
  · rintro ⟨process, present, rfl⟩
    exact ⟨process, present, rfl⟩

/-- Where a row has come from. -/
def Comes (world : World) (label : Label) (pid : Pid) (after : Process) : Prop :=
  (∃ before, world.table pid = some before ∧ Became world label pid before after) ∨
    Born world label pid after

/-- A process that a step does not concern comes out of it as it was. -/
theorem comes_same (present : world.table pid = some after)
    (spared : ¬Kills world label pid after) : Comes world label pid after :=
  .inl ⟨after, present, .same spared⟩

theorem comes_update {changed : Pid} {row : Option Process}
    (here : ∀ value, row = some value → Comes world label changed value)
    (spared : pid ≠ changed → ∀ process, ¬Kills world label pid process)
    (present : Function.update world.table changed row pid = some after) :
    Comes world label pid after := by
  rw [Function.update_apply] at present
  split at present
  next same => exact same ▸ here after present
  next different => exact comes_same present (spared different after)

theorem comes_update_twice {first second : Pid} {row other : Option Process}
    (there : ∀ value, row = some value → Comes world label second value)
    (here : ∀ value, other = some value → Comes world label first value)
    (spared : ∀ pid process, ¬Kills world label pid process)
    (present : Function.update (Function.update world.table first other) second row pid =
      some after) : Comes world label pid after := by
  rw [Function.update_apply] at present
  split at present
  next same => exact same ▸ there after present
  next => exact comes_update here (fun _ => spared pid) present

/-- A process that is there after a step was born in it, or has become what it is out of what it was. -/
theorem Step.row_cases (step : Step world label next) (present : next.table pid = some after) :
    Comes world label pid after := by
  cases step with
  | begin | move | take | blocked | unlock | write | returns =>
      exact comes_same present (by rintro ⟨⟩)
  | fork forks unused large fresh inherits apart =>
      refine comes_update (fun value same => ?_) (by rintro _ _ ⟨⟩) present
      cases same
      exact .inr (.supervisor forks large fresh inherits)
  | kill kills =>
      dsimp only [ProcessTable.sigkill] at present
      obtain ⟨before, found, rfl⟩ := killWhere_eq_some.mp present
      refine .inl ⟨before, found, ?_⟩
      split
      next hits => exact .killed (.command hits)
      next misses =>
        refine .same ?_
        rintro ⟨hits⟩
        exact misses hits
  | terminate terminates found requested =>
      refine comes_update (fun value same => ?_) (by rintro _ _ ⟨⟩) present
      cases same
      exact .inl ⟨_, found, .asked requested⟩
  | row found alive moves =>
      refine comes_update (fun value same => ?_) (by rintro _ _ ⟨⟩) present
      cases same
      exact .inl ⟨_, found, .moved alive moves⟩
  | leaveGroup found alive role closed =>
      refine comes_update (fun value same => ?_) (by rintro _ _ ⟨⟩) present
      cases same
      exact .inl ⟨_, found, .leftGroup role⟩
  | @setGroup parent supervisor child locals there alive role phase found different =>
      refine comes_update_twice (fun value same => ?_) (fun value same => ?_) (by rintro _ _ ⟨⟩)
        present
      · cases same
        refine .inl ⟨child, found, ?_⟩
        split
        next service => exact .grouped there role rfl service
        next => exact .same (by rintro ⟨⟩)
      · cases same
        exact .inl ⟨supervisor, there, .grouping alive role phase⟩
  | writeState found alive role writes =>
      refine comes_update (fun value same => ?_) (by rintro _ _ ⟨⟩) present
      cases same
      exact .inl ⟨_, found, .wrote alive role writes⟩
  | forkHelper found alive launched unused large fresh inherits together =>
      refine comes_update (fun value same => ?_) (by rintro _ _ ⟨⟩) present
      cases same
      exact .inr (.helper found launched fresh inherits)
  | forkDebian found alive role phase unused large fresh inherits apart grouped =>
      refine comes_update_twice (fun value same => ?_) (fun value same => ?_) (by rintro _ _ ⟨⟩)
        present
      · cases same
        exact .inr (.debian found alive role phase large fresh inherits grouped)
      · cases same
        exact .inl ⟨_, found, .forked alive role phase⟩
  | @killChild parent supervisor locals later found alive role kills =>
      dsimp only at present
      rw [Function.update_apply] at present
      split at present
      next same =>
        subst same
        cases present
        exact .inl ⟨_, found, .killing alive role kills⟩
      next different =>
        obtain ⟨before, there, rfl⟩ := killWhere_eq_some.mp present
        refine .inl ⟨before, there, ?_⟩
        split
        next strikes => exact .killed (.parent found role different strikes)
        next misses =>
          refine .same ?_
          intro kills
          cases kills with
          | parent again sameRole _ strikes =>
              cases found.symm.trans again
              cases role.symm.trans sameRole
              exact misses strikes
  | reap found alive role reaped there dead different =>
      refine comes_update_twice (fun value same => ?_) (fun value same => ?_) (by rintro _ _ ⟨⟩)
        present
      · cases same
      · cases same
        exact .inl ⟨_, found, .reaping alive role reaped there dead⟩
  | reapOrphan found dead abandoned =>
      refine comes_update (fun value same => ?_) (by rintro _ _ ⟨⟩) present
      cases same
  | appear unused role unlocked =>
      refine comes_update (fun value same => ?_) (by rintro _ _ ⟨⟩) present
      cases same
      exact .inr (.other role unlocked)
  | strike found alive role =>
      refine comes_update (fun value same => ?_) ?_ present
      · cases same
        exact .inl ⟨_, found, .killed .strike⟩
      · rintro different process ⟨⟩
        exact different rfl

/-- A pid that is given to a new process was free. -/
theorem Step.unused_of_born (step : Step world label next) (born : Born world label pid process) :
    world.table pid = none := by
  cases born with
  | supervisor => cases step with | fork _ unused => exact unused
  | helper => cases step with | forkHelper _ _ _ unused => exact unused
  | debian => cases step with | forkDebian _ _ _ _ unused => exact unused
  | other => cases step with | appear unused => exact unused

/-- A live row is never removed: a step leaves it, changes it as one of its own, or lets it die. The
table is split here once, for all later invariants. -/
theorem Step.row_persists (step : Step world label next) (present : world.table pid = some process)
    (alive : process.alive = true) :
    ∃ after, next.table pid = some after ∧ Became world label pid process after := by
  have kept : ∃ after, next.table pid = some after := by
    cases step with
    | begin | move | take | blocked | unlock | write | returns => exact ⟨process, present⟩
    | kill kills =>
        dsimp only [ProcessTable.sigkill]
        exact ⟨_, killWhere_eq_some.mpr ⟨process, present, rfl⟩⟩
    | killChild found =>
        dsimp only
        rw [Function.update_apply]
        split
        · exact ⟨_, rfl⟩
        · exact ⟨_, killWhere_eq_some.mpr ⟨process, present, rfl⟩⟩
    | fork | terminate | row | leaveGroup | writeState | forkHelper | appear | strike =>
        dsimp only
        rw [Function.update_apply]
        split
        · exact ⟨_, rfl⟩
        · exact ⟨process, present⟩
    | setGroup | forkDebian =>
        dsimp only
        rw [Function.update_apply, Function.update_apply]
        split
        · exact ⟨_, rfl⟩
        · split
          · exact ⟨_, rfl⟩
          · exact ⟨process, present⟩
    | reap _ _ _ _ found dead =>
        dsimp only
        rw [Function.update_apply, Function.update_apply]
        split
        next same =>
          -- only a zombie is waited for
          subst same
          cases present.symm.trans found
          rw [alive] at dead
          cases dead
        next =>
          split
          · exact ⟨_, rfl⟩
          · exact ⟨process, present⟩
    | reapOrphan found dead =>
        dsimp only
        rw [Function.update_apply]
        split
        next same =>
          subst same
          cases present.symm.trans found
          rw [alive] at dead
          cases dead
        next => exact ⟨process, present⟩
  obtain ⟨after, there⟩ := kept
  rcases step.row_cases there with ⟨before, found, became⟩ | born
  · cases present.symm.trans found
    exact ⟨after, there, became⟩
  · cases step.unused_of_born born ▸ present

/-- What is alive after a step was not killed by it. -/
theorem Became.spared (became : Became world label pid process after)
    (alive : after.alive = true) : ¬Kills world label pid process := by
  cases became with
  | same spared => exact spared
  | killed => cases alive
  | killing =>
      rintro ⟨⟩
      contradiction
  | moved | asked | leftGroup | grouped | grouping | wrote | forked | reaping => rintro ⟨⟩

theorem Became.alive (became : Became world label pid process after)
    (alive : after.alive = true) : process.alive = true := by
  cases became with
  | same | leftGroup | grouped => exact alive
  | killed => cases alive
  | asked requested =>
      cases requested with
      | noted | ignored => exact alive
      | early => cases alive
  | moved present | grouping present | wrote present | forked present | killing present
  | reaping present => exact present

/-! ### Invocations, the state file and the lock -/

/-- A step leaves a command as it was, or is an act of this command; the invariants of commands are
proved over these acts. -/
theorem Step.command_cases (step : Step world label next) (invocation : Nat) :
    next.commands invocation = world.commands invocation ∨
      Acts world label invocation (next.commands invocation) := by
  have updated {actor : Nat} {command : Command} (acts : Acts world label actor command) :
      Function.update world.commands actor command invocation = world.commands invocation ∨
        Acts world label invocation (Function.update world.commands actor command invocation) := by
    rw [Function.update_apply]
    split
    next same => exact .inr (same ▸ acts)
    next => exact .inl rfl
  cases step with
  | begin unused first => exact updated (.begin unused first)
  | move moves => exact updated (.move moves)
  | take takes free => exact updated (.take takes free)
  | blocked blocked => exact updated (.blocked blocked)
  | unlock unlocks => exact updated (.unlock unlocks)
  | fork forks => exact updated (.fork forks)
  | kill kills => exact updated (.kill kills)
  | terminate terminates => exact updated (.terminate terminates)
  | write writes => exact updated (.write writes)
  | returns reports => exact updated (.returns reports)
  | row | leaveGroup | setGroup | writeState | forkHelper | forkDebian | killChild | reap
  | reapOrphan | appear | strike => exact .inl rfl

/-- The state file changes only when a force-stop or a supervisor writes it. -/
theorem Step.file_cases (step : Step world label next) :
    next.file = world.file ∨
      (∃ invocation foundAt final, label = .write invocation ∧
        world.commands invocation = .forceStop (.tail foundAt final .write) ∧
        next.file = some final) ∨
      ∃ pid process locals later, label = .writeState pid ∧ world.table pid = some process ∧
        process.alive = true ∧ process.role = .supervisor locals ∧ locals.writes = some later ∧
        next.file = some locals.state := by
  cases step with
  | write writes => exact .inr (.inl ⟨_, _, _, rfl, writes, rfl⟩)
  | writeState present alive role writes =>
      exact .inr (.inr ⟨_, _, _, _, rfl, present, alive, role, writes, rfl⟩)
  | begin | move | take | blocked | unlock | fork | kill | terminate | returns | row | leaveGroup
  | setGroup | forkHelper | forkDebian | killChild | reap | reapOrphan | appear | strike =>
      exact .inl rfl

/-- The lock changes only when an invocation takes it or gives it back. -/
theorem Step.lock_cases (step : Step world label next) :
    (next.lock = world.lock ∧ next.clock = world.clock ∧ next.takenAt = world.takenAt) ∨
      (∃ invocation, label = .take invocation ∧ world.Free ∧ next.table = world.table ∧
        next.lock = some invocation ∧ next.clock = world.clock + 1 ∧
        next.takenAt = Function.update world.takenAt invocation (world.clock + 1)) ∨
      ∃ invocation later, label = .unlock invocation ∧
        (world.commands invocation).unlocked = some later ∧ next.table = world.table ∧
        next.lock = (if world.lock = some invocation then none else world.lock) ∧
        next.clock = world.clock ∧ next.takenAt = world.takenAt := by
  cases step with
  | take takes free => exact .inr (.inl ⟨_, rfl, free, rfl, rfl, rfl, rfl⟩)
  | unlock unlocks => exact .inr (.inr ⟨_, _, rfl, unlocks, rfl, rfl, rfl, rfl⟩)
  | begin | move | blocked | fork | kill | terminate | write | returns | row | leaveGroup
  | setGroup | writeState | forkHelper | forkDebian | killChild | reap | reapOrphan | appear
  | strike => exact .inl ⟨rfl, rfl, rfl⟩

end DawnShell.Launcher
