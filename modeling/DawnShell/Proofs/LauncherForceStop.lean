/-
Module: DawnShell.Proofs.LauncherForceStop
Layer: Proofs
Purpose: A force-stop that returns 0 leaves no Debian process.  Its signals go to the recorded init, to
  the group of the supervisor and to the delegated control group.  In every run in which these three cover
  every Debian process (each one outside its supervisor's group and outside the control group is completely
  recorded when the force-stop reads the state file, and none leaves the group between that read and the
  signal to the group) nothing is left.  A compat service that has left the group and is not yet recorded
  survives.
Trusted boundary: none
Main exports: ForksApart, KillsByGroup, ReadsKnown, StaysTogether, LeavesNothing, force_stop_complete
-/
import DawnShell.Proofs.LauncherFamily

namespace DawnShell.Launcher

open Transition

variable {world next : World} {label : Label} {pid parent : Pid} {process after : Process}

/-- A live Debian process that has left the group of its supervisor and is not in the delegated control
group. -/
def Process.Apart (pid : Pid) (process : Process) : Prop :=
  process.isDebian ∧ process.delegated = false ∧ process.group = pid

/-- No supervisor is forked while a force-stop is going on. -/
def ForksApart (world : World) (label : Label) : Prop :=
  ∀ invocation supervisor, label = .fork invocation supervisor → NoForceStop world.commands

/-- A supervisor that has a child is killed by nothing but the group signal of a force-stop. -/
def KillsByGroup (world : World) (label : Label) : Prop :=
  ∀ pid parent supervisor locals, Parent world pid parent supervisor locals →
    Kills world label parent supervisor →
    ∃ invocation target plan, label = .kill invocation target ∧
      world.commands invocation = .forceStop (.killGroup plan)

/-- When a force-stop reads the state file, it finds every process that is apart completely recorded. -/
def ReadsKnown (world : World) (label : Label) : Prop :=
  ∀ invocation, label = .move invocation → world.commands invocation = .forceStop .read →
    ∀ pid process, world.table pid = some process → process.Apart pid →
      ∃ state, world.file = some state ∧ Identifies state pid process

/-- A force-stop between its read and its signal to the group. -/
def Command.aims : Command → Bool
  | .forceStop (.checkSupervisor ..) | .forceStop (.checkInit ..) | .forceStop (.tryLock _)
  | .forceStop (.checkSession _) | .forceStop (.killInit ..) | .forceStop (.killGroup _) => true
  | _ => false

/-- Meanwhile no Debian process leaves the group of its supervisor. -/
def StaysTogether (world : World) (label : Label) : Prop :=
  ∀ invocation, (world.commands invocation).aims = true →
    ∀ pid process, world.table pid = some process → process.isDebian →
      (label = .leaveGroup pid ∨ ∃ parent supervisor locals, label = .setGroup parent ∧
        world.table parent = some supervisor ∧ supervisor.role = .supervisor locals ∧
        locals.child = pid) → process.group = pid

/-- A force-stop returns 0 only when no Debian process is alive. -/
def LeavesNothing (world : World) (label : Label) : Prop :=
  ∀ invocation, label = .returns invocation → ∀ pid process, world.table pid = some process →
    ¬process.isDebian

/-! ### Groups -/

/-- The phases in which a supervisor need not lead its group. -/
def SupervisorPhase.ungrouped : SupervisorPhase → Bool
  | .setsid | .exit => true
  | _ => false

/-- A supervisor comes to a phase in which it leads its group only from another such phase: the group is
made by `setsid`, which is a step of its own. -/
theorem Supervisor.Moves.ungrouped {table : ProcessTable} {locals later : Supervisor}
    (moves : Supervisor.Moves table pid process locals later)
    (grouped : later.phase.ungrouped = false) : locals.phase.ungrouped = false := by
  cases moves with
  | failsEarly => cases grouped
  | writeFails phases =>
      generalize locals.phase = phase at phases ⊢
      simp only [List.mem_cons, Prod.mk.injEq, List.not_mem_nil, or_false] at phases
      rcases phases with ⟨rfl, rfl⟩ | ⟨rfl, rfl⟩ | ⟨rfl, rfl⟩ | ⟨rfl, rfl⟩ | ⟨rfl, rfl⟩ |
        ⟨rfl, rfl⟩ | ⟨rfl, rfl⟩ <;> rfl
  | failsLate phases =>
      generalize locals.phase = phase at phases ⊢
      simp only [List.mem_cons, Prod.mk.injEq, List.not_mem_nil, or_false] at phases
      rcases phases with ⟨rfl, rfl⟩ | ⟨rfl, rfl⟩ | ⟨rfl, rfl⟩ <;> rfl
  | identity phase | helpersReady phase | namespaces _ phase | readTicks phase
  | readTicksFails phase | executed phase | survives phase | captures phase | stops phase =>
      rw [phase]
      rfl

/-- A supervisor leads its group from `setsid` on, because no step moves a process into another group
behind the leader's back. -/
theorem Became.leads {later : Supervisor} (became : Became world label pid process after)
    (alive : after.alive = true) (role : after.role = .supervisor later)
    (grouped : later.phase.ungrouped = false)
    (leads : ∀ locals, process.role = .supervisor locals → locals.phase.ungrouped = false →
      process.group = pid) : after.group = pid := by
  cases became with
  | moved _ moves =>
      cases moves with
      | supervisor before moves =>
          cases role
          exact leads _ before (moves.ungrouped grouped)
      | setsid => rfl
      | systemdSession => rfl
      | supervisorCloses =>
          cases role
          cases grouped
      | supervisorExits | ends => cases alive
      | executes => cases role
      | closesLock | joins => exact leads later role grouped
  | asked requested =>
      cases requested with
      | noted before =>
          cases role
          have leads := leads _ before
          exact leads grouped
      | early => cases alive
      | ignored => exact leads later role grouped
  | killed => cases alive
  | grouping _ before phase | forked _ before phase =>
      cases role
      have leads := leads _ before
      exact leads (by rw [phase]; rfl)
  | wrote _ before writes =>
      have leads := leads _ before
      refine leads ?_
      unfold Supervisor.writes at writes
      split at writes <;> cases writes <;> simp_all [SupervisorPhase.ungrouped]
  | killing _ before killed =>
      have leads := leads _ before
      refine leads ?_
      unfold Supervisor.killed at killed
      split at killed <;> cases killed <;> simp_all [SupervisorPhase.ungrouped]
  | reaping _ before reaped =>
      have leads := leads _ before
      refine leads ?_
      unfold Supervisor.reaped at reaped
      split at reaped <;> cases reaped <;> simp_all [SupervisorPhase.ungrouped]
  | leftGroup | grouped => rfl
  | same => exact leads later role grouped

/-- A supervisor that has a child leads its group. -/
theorem ungrouped_of_hasChild {phase : SupervisorPhase} (hasChild : phase.hasChild = true) :
    phase.ungrouped = false := by
  cases phase <;> first | rfl | cases hasChild

/-- A step changes the group of a process to its own or not at all. -/
theorem Became.group (became : Became world label pid process after) :
    after.group = process.group ∨ after.group = pid := by
  cases became with
  | moved _ moves =>
      cases moves with
      | setsid | systemdSession => exact .inr rfl
      | _ => exact .inl rfl
  | asked requested => cases requested <;> exact .inl rfl
  | leftGroup | grouped => exact .inr rfl
  | same | killed | grouping | wrote | forked | killing | reaping => exact .inl rfl

/-! ### The invariant -/

/-- No process has the lock file open. -/
def Closed (table : ProcessTable) : Prop :=
  ∀ pid process, table pid = some process → process.lockFd = false

/-- What the stage of a clean-up says about the Debian processes that are alive. -/
def TailStage.Knows (table : ProcessTable) : TailStage → Prop
  | .killOrphan _ | .kill .. => ScannedTo table 0 []
  | .scan _ position found => ScannedTo table position found
  | .write | .report => ∀ pid process, table pid = some process → ¬process.isDebian

/-- What the phase of a force-stop says about the Debian processes that are alive. -/
def ForceKnows (table : ProcessTable) : Command → Prop
  | .forceStop (.checkSupervisor state _) =>
      ∀ pid process, table pid = some process → process.Apart pid → Identifies state pid process
  | .forceStop (.checkInit state _ remaining) =>
      ∀ pid process, table pid = some process → process.Apart pid →
        Identifies state pid process ∧ ∃ checks, state.debianChecks = some checks ∧
          remaining ⊆ checks
  | .forceStop (.tryLock plan) | .forceStop (.checkSession plan) =>
      ∀ pid process, table pid = some process → process.Apart pid →
        plan.initValid = true ∧ plan.state.init.pid = pid
  | .forceStop (.killInit _ pending) =>
      ∀ pid process, table pid = some process → process.Apart pid → .process pid ∈ pending
  | .forceStop (.killGroup _) => ∀ pid process, table pid = some process → ¬process.Apart pid
  | .forceStop (.unlock ..) | .forceStop (.unlockWaited ..) => Closed table ∧ ScannedTo table 0 []
  | .forceStop (.tail _ _ stage) => Closed table ∧ stage.Knows table
  | _ => True

structure ForceSound (world : World) : Prop where
  lock : LockSound world
  large : ∀ pid process, world.table pid = some process → process.isDebian → 1 < pid
  leads : ∀ pid process locals, world.table pid = some process → process.alive = true →
    process.role = .supervisor locals → locals.phase.ungrouped = false → process.group = pid
  joined : ∀ pid process, world.table pid = some process → process.role = .debian .systemd true →
    process.delegated = true
  family : ∀ pid process, world.table pid = some process → process.isDebian →
    process.delegated = false → ∃ parent supervisor locals,
      Parent world pid parent supervisor locals ∧ (process.group = parent ∨ process.group = pid)
  forces : ∀ invocation, ForceKnows world.table (world.commands invocation)

/-- In the initial world there is nothing that a force-stop could miss. -/
theorem forceSound_initial : ForceSound World.initial where
  lock := lockSound_initial
  large _ _ present := by cases present
  leads _ _ _ present := by cases present
  joined _ _ present := by cases present
  family _ _ present := by cases present
  forces _ := trivial

namespace ForceSound

/-- After a step a living supervisor leads its group, unless it has not made it yet or is at its exit.
-/
theorem leads_kept (sound : ForceSound world) (step : Step world label next) {later : Supervisor}
    (present : next.table pid = some after) (alive : after.alive = true)
    (role : after.role = .supervisor later) (grouped : later.phase.ungrouped = false) :
    after.group = pid := by
  rcases step.row_cases present with ⟨before, found, became⟩ | born
  · refine became.leads alive role grouped fun locals roleBefore groupedBefore => ?_
    exact sound.leads pid before locals found (became.alive alive) roleBefore groupedBefore
  · obtain ⟨_, _, _, _, fresh, _⟩ := born_supervisor born (by simp [role])
    cases fresh.role.symm.trans role
    cases grouped

/-- After a step an init that has executed systemd is delegated: it joins the control group by
executing, or was there before. -/
theorem joined_kept (sound : ForceSound world) (step : Step world label next)
    (present : next.table pid = some after) (role : after.role = .debian .systemd true) :
    after.delegated = true := by
  rcases step.row_cases present with ⟨before, found, became⟩ | born
  · have joined := sound.joined pid before found
    cases became with
    | moved _ moves =>
        cases moves with
        | executes _ _ _ _ _ joins =>
            cases role
            exact joins rfl
        | joins => rfl
        | supervisor | setsid | supervisorCloses => cases role
        | supervisorExits | closesLock | systemdSession | ends => exact joined role
    | asked requested =>
        cases requested with
        | noted => cases role
        | early | ignored => exact joined role
    | grouping | wrote | forked | killing | reaping => cases role
    | same | killed | leftGroup | grouped => exact joined role
  · cases born with
    | supervisor _ _ fresh | helper _ _ fresh | debian _ _ _ _ _ fresh => simp [fresh.role] at role
    | other other => cases other.symm.trans role

/-- The supervisor whose child has just been forked leads its group. -/
theorem group_of_birth (sound : ForceSound world) (step : Step world label next)
    (born : Born world label pid process) (kind : process.role.kind = .debian) :
    ∃ parent later locals, Parent next pid parent later locals ∧ process.group = parent ∧
      parent ≠ pid := by
  obtain ⟨parent, supervisor, locals, there, alive, role, phase, group, later, locals', family⟩ :=
    step.parent_of_birth born kind
  have leads := sound.leads parent supervisor locals there alive role (by rw [phase]; rfl)
  refine ⟨parent, later, locals', family, group.trans leads, ?_⟩
  rintro rfl
  cases (step.unused_of_born born).symm.trans there

/-- The group signal of a force-stop leaves no child of the supervisor it kills. -/
theorem no_survivor (sound : ForceSound world) {supervisor : Process} {locals : Supervisor}
    (step : Step world label next) (byGroup : KillsByGroup world label)
    (family : Parent world pid parent supervisor locals)
    (kills : Kills world label parent supervisor) (present : world.table pid = some process)
    (live : process.isDebian) (undelegated : process.delegated = false)
    (group : process.group = parent ∨ process.group = pid) : Kills world label pid process := by
  obtain ⟨invocation, target, plan, rfl, command⟩ := byGroup pid parent supervisor locals family kills
  have knows := sound.forces invocation
  rw [command] at knows
  have leads := sound.leads parent supervisor locals family.present family.alive family.role
    (ungrouped_of_hasChild family.phase)
  rcases group with inside | outside
  · cases step with
    | kill acts =>
        rw [command] at acts
        cases acts
        cases kills with
        | command hits =>
            refine .command ?_
            simp only [Target.hits, beq_iff_eq] at hits ⊢
            rw [inside, ← leads, hits]
  · exact absurd ⟨live, undelegated, outside⟩ (knows pid process present)

/-- After a step every living Debian process that is not delegated has a supervisor that is its parent
and still there. -/
theorem family_kept (sound : ForceSound world) (step : Step world label next)
    (byGroup : KillsByGroup world label) (present : next.table pid = some after)
    (live : after.isDebian) (undelegated : after.delegated = false) :
    ∃ parent supervisor locals, Parent next pid parent supervisor locals ∧
      (after.group = parent ∨ after.group = pid) := by
  rcases step.row_cases present with ⟨before, found, became⟩ | born
  · have liveBefore := became.isDebian live
    have spared := became.spared live.1
    have undelegatedBefore : before.delegated = false := by
      rw [Bool.eq_false_iff]
      intro delegated
      rw [became.delegated delegated] at undelegated
      cases undelegated
    obtain ⟨parent, supervisor, locals, family, group⟩ :=
      sound.family pid before found liveBefore undelegatedBefore
    rcases step.parent_kept family found liveBefore.1 (kind_eq_debian.mpr liveBefore.2) spared with
      killed | ⟨later, locals, family⟩
    · exact absurd (sound.no_survivor step byGroup family killed found liveBefore undelegatedBefore
        group) spared
    · refine ⟨parent, later, locals, family, ?_⟩
      rcases became.group with same | own
      · rwa [same]
      · exact .inr own
  · obtain ⟨parent, later, locals, family, group, -⟩ :=
      sound.group_of_birth step born (kind_eq_debian.mpr live.2)
    exact ⟨parent, later, locals, family, .inl group⟩

/-- While a force-stop aims, a process that is apart has been apart before, since under the condition
nobody leaves a group until the signal is out. -/
theorem apart_before (sound : ForceSound world) (step : Step world label next)
    (together : StaysTogether world label) {invocation : Nat}
    (aims : (world.commands invocation).aims = true) (present : next.table pid = some after)
    (apart : after.Apart pid) :
    ∃ before, world.table pid = some before ∧ Became world label pid before after ∧
      before.Apart pid := by
  obtain ⟨live, undelegated, group⟩ := apart
  rcases step.row_cases present with ⟨before, found, became⟩ | born
  · have liveBefore := became.isDebian live
    have undelegatedBefore : before.delegated = false := by
      rw [Bool.eq_false_iff]
      intro delegated
      rw [became.delegated delegated] at undelegated
      cases undelegated
    refine ⟨before, found, became, liveBefore, undelegatedBefore, ?_⟩
    have stays := together invocation aims pid before found liveBefore
    cases became with
    | moved _ moves =>
        cases moves with
        | setsid role =>
            obtain ⟨mode, executed, debian⟩ := liveBefore.2
            cases role.symm.trans debian
        | systemdSession role =>
            -- it has joined the control group before it executed systemd
            rw [sound.joined pid before found role] at undelegatedBefore
            cases undelegatedBefore
        | _ => exact group
    | asked requested => cases requested <;> exact group
    | leftGroup => exact stays (.inl rfl)
    | grouped there role child => exact stays (.inr ⟨_, _, _, rfl, there, role, child⟩)
    | same | killed | grouping | wrote | forked | killing | reaping => exact group
  · obtain ⟨parent, _, _, _, own, different⟩ :=
      sound.group_of_birth step born (kind_eq_debian.mpr live.2)
    exact absurd (own.symm.trans group) different

/-- Without an open lock file no Debian process is forked. -/
theorem unborn_of_closed (sound : LockSound world) (closed : Closed world.table)
    (born : Born world label pid process) : process.role.kind ≠ .debian := by
  intro kind
  obtain ⟨parent, row, there, -, locked⟩ := sound.parent_of_debian born kind
  rw [closed _ _ there] at locked
  cases locked

/-- Once no process has the lock file open, this stays so while a force-stop goes on, for no supervisor
is forked meanwhile. -/
theorem closed_kept (step : Step world label next) (apart : ForksApart world label)
    {invocation : Nat} {phase : ForcePhase} (command : world.commands invocation = .forceStop phase)
    (closed : Closed world.table) : Closed next.table := by
  intro pid after present
  rw [Bool.eq_false_iff]
  intro locked
  rcases step.row_cases present with ⟨before, found, became⟩ | born
  · have lockedBefore := (became.lockFd locked).1
    rw [closed pid before found] at lockedBefore
    cases lockedBefore
  · cases born with
    | supervisor => exact apart _ _ rfl invocation phase command
    | helper there _ _ inherits | debian there _ _ _ _ _ inherits =>
        rw [inherits, closed _ _ there] at locked
        cases locked
    | other _ unlocked =>
        rw [unlocked] at locked
        cases locked

/-- What a clean-up knows stays true: nothing is forked any more. -/
theorem tailKnows_kept (sound : ForceSound world) (step : Step world label next)
    (closed : Closed world.table) {stage : TailStage} (knows : stage.Knows world.table) :
    stage.Knows next.table := by
  have unborn : ∀ pid process, Born world label pid process → process.role.kind ≠ .debian :=
    fun _ _ born => unborn_of_closed sound.lock closed born
  have none (gone : ∀ pid process, world.table pid = some process → ¬process.isDebian) :
      ∀ pid process, next.table pid = some process → ¬process.isDebian := by
    intro pid after present live
    rcases step.row_cases present with ⟨before, found, became⟩ | born
    · exact gone pid before found (became.isDebian live)
    · exact unborn pid after born (kind_eq_debian.mpr live.2)
  cases stage with
  | killOrphan | scan | kill => exact ScannedTo.kept knows step unborn
  | write | report => exact none knows

/-- What a force-stop knows stays true while others take their steps. Before its signals this is the
condition on groups, and behind them no supervisor is left that could fork. -/
theorem knows_kept (sound : ForceSound world) (step : Step world label next)
    (apart : ForksApart world label) (together : StaysTogether world label) (invocation : Nat) :
    ForceKnows next.table (world.commands invocation) := by
  have knows := sound.forces invocation
  cases command : world.commands invocation with
  | forceStop phase =>
      rw [command] at knows
      have earlier (aims : (Command.forceStop phase).aims = true) {pid : Pid} {after : Process}
          (present : next.table pid = some after) (found : after.Apart pid) :=
        sound.apart_before step together (command ▸ aims) present found
      cases phase with
      | checkSupervisor =>
          intro pid after present found
          obtain ⟨before, there, became, apartBefore⟩ := earlier rfl present found
          exact became.identifies found.1.1 (knows pid before there apartBefore)
      | checkInit =>
          intro pid after present found
          obtain ⟨before, there, became, apartBefore⟩ := earlier rfl present found
          obtain ⟨known, checks⟩ := knows pid before there apartBefore
          exact ⟨became.identifies found.1.1 known, checks⟩
      | tryLock | checkSession | killInit | killGroup =>
          intro pid after present found
          obtain ⟨before, there, became, apartBefore⟩ := earlier rfl present found
          exact knows pid before there apartBefore
      | unlock | unlockWaited =>
          exact ⟨closed_kept step apart command knows.1, ScannedTo.kept knows.2 step fun _ _ born =>
            unborn_of_closed sound.lock knows.1 born⟩
      | tail =>
          exact ⟨closed_kept step apart command knows.1, sound.tailKnows_kept step knows.1 knows.2⟩
      | read | wait => trivial
  | _ => trivial

/-- When the lock is free every Debian process is in the delegated control group. -/
theorem scanned_of_free (sound : ForceSound world) (free : world.Free) :
    Closed world.table ∧ ScannedTo world.table 0 [] := by
  have closed : Closed world.table := fun _ _ present => sound.lock.lockFd_of_free free present
  refine ⟨closed, fun pid process present live => ⟨?_, fun _ => Nat.zero_le pid⟩⟩
  by_contra undelegated
  obtain ⟨parent, supervisor, locals, family, -⟩ :=
    sound.family pid process present live (Bool.eq_false_iff.mpr undelegated)
  have locked := family.lockFd sound.lock
  rw [closed parent supervisor family.present] at locked
  cases locked

/-- What a force-stop knows when it has looked at the supervisor. -/
theorem knows_forceInit {table : ProcessTable} {state : LauncherState} (supervisorValid : Bool)
    (known : ∀ pid process, table pid = some process → process.Apart pid →
      Identifies state pid process) : ForceKnows table (forceInit state supervisorValid) := by
  unfold forceInit
  split
  next checks listed =>
    exact fun pid process present apart =>
      ⟨known pid process present apart, checks, listed, List.Subset.refl checks⟩
  next unlisted =>
    intro pid process present apart
    obtain ⟨_, _, checks, listed, _⟩ := known pid process present apart
    cases unlisted.symm.trans listed

/-- The recorded init is among what a force-stop kills. -/
theorem mem_debianTargets (state : LauncherState) : .process state.init.pid ∈ debianTargets state := by
  unfold debianTargets
  split <;> simp [compatTargets]

/-- A force-stop that goes on still knows of every Debian process that it has to kill. -/
theorem knows_after_move (sound : ForceSound world) {invocation : Nat} {later : Command}
    (known : ReadsKnown world (.move invocation))
    (moves : Command.Moves world.table world.file (world.commands invocation) later) :
    ForceKnows world.table later := by
  have knows := sound.forces invocation
  have reads := known invocation rfl
  generalize command : world.commands invocation = before at moves knows reads
  cases moves with
  | forceRead =>
      have known := reads rfl
      split
      next state file =>
        have identified : ∀ pid process, world.table pid = some process → process.Apart pid →
            Identifies state pid process := by
          intro pid process present apart
          obtain ⟨same, sameFile, identified⟩ := known pid process present apart
          cases file.symm.trans sameFile
          exact identified
        split
        · exact identified
        · exact knows_forceInit false identified
      next file =>
        intro pid process present apart
        obtain ⟨same, sameFile, _⟩ := known pid process present apart
        cases file.symm.trans sameFile
  | forceCheckSupervisor =>
      split
      · exact knows
      · exact knows_forceInit false knows
  | forceSupervisorValid => exact knows_forceInit true knows
  | @forceCheckInit state supervisorValid check remaining =>
      split
      · intro pid process present apart
        obtain ⟨known, checks, listed, subset⟩ := knows pid process present apart
        exact ⟨known, checks, listed, fun one member => subset (.tail check member)⟩
      next fails =>
        intro pid process present apart
        obtain ⟨⟨_, same, listedChecks, listedAgain, agree⟩, checks, listed, subset⟩ :=
          knows pid process present apart
        cases listed.symm.trans listedAgain
        have passes : look world.table state.init.pid check = true := by
          simp [look, same, present, agree check (subset (.head remaining))]
        exact absurd passes fails
  | forceInitValid =>
      intro pid process present apart
      exact ⟨rfl, (knows pid process present apart).1.2.1⟩
  | @forceSession plan =>
      split
      · intro pid process present apart
        obtain ⟨valid, same⟩ := knows pid process present apart
        rw [valid, ← same]
        exact mem_debianTargets plan.state
      · trivial
  | forceInitKilled =>
      intro pid process present apart
      cases knows pid process present apart
  | tailOrphanKilled | tailKilled => exact knows
  | tailScan step => exact ⟨knows.1, ScannedTo.step knows.2 sound.large step⟩
  | tailScanned ends =>
      unfold afterScan
      split
      next nothing =>
        subst nothing
        exact ⟨knows.1, fun pid process present => ScannedTo.ends knows.2 (by decide) ends present⟩
      next =>
        split
        · exact ⟨knows.1, fun pid process present live =>
            ⟨(knows.2 pid process present live).1, fun _ => Nat.zero_le pid⟩⟩
        · trivial
  | tailWriteFails => exact knows
  | startReadBlocked | stopReadOrphan | stopRead | startRead =>
      split
      · split <;> trivial
      · trivial
  | startCheckBlocked | stopCheckOrphan | stopPoll | stopCheck | startCheck | startScanned =>
      split <;> trivial
  | startOrphan | startFails | startClosed | stopOrphan | startBlocked | startReturns
  | stopPollLate | stopPollAgain | stopPollTimeout | stopKilled | stopValid | stopSignalFails
  | stopOrphanFails | stopOrphanGone | stopTimeout | forceTimeout | lockFails | startScan => trivial

/-- What has been sent a signal of its own is gone. -/
theorem not_apart_of_kill {invocation : Nat} (step : Step world (.kill invocation (.process pid)) next)
    (present : next.table pid = some after) : ¬after.isDebian := by
  intro live
  rcases step.row_cases present with ⟨before, found, became⟩ | born
  · exact became.spared live.1 (.command (by simp [Target.hits]))
  · cases born

/-- Whatever a command does in a step, a force-stop knows afterwards of every Debian process that it has
to kill. -/
theorem knows_after_acts (sound : ForceSound world) (step : Step world label next)
    (apart : ForksApart world label) (together : StaysTogether world label)
    (known : ReadsKnown world label) {invocation : Nat} {later : Command}
    (acts : Acts world label invocation later) : ForceKnows next.table later := by
  have kept := sound.knows_kept step apart together invocation
  cases acts with
  | begin unused first =>
      unfold Command.first at first
      split at first <;> trivial
  | move moves =>
      cases step
      exact sound.knows_after_move known moves
  | take takes free =>
      have scanned := sound.scanned_of_free free
      cases step
      unfold Command.taken at takes
      split at takes <;> cases takes <;> first | exact scanned | trivial
  | blocked blocks =>
      generalize world.commands invocation = before at blocks kept
      unfold Command.blocked at blocks
      split at blocks <;> cases blocks <;> first | trivial | skip
      split
      · exact kept
      · trivial
  | unlock unlocks =>
      generalize world.commands invocation = before at unlocks kept
      unfold Command.unlocked at unlocks
      split at unlocks <;> cases unlocks <;> exact kept
  | kill kills =>
      generalize world.commands invocation = before at kills kept
      unfold Command.kills at kills
      split at kills <;> cases kills <;> first | exact kept | trivial | skip
      -- the init is killed: the process it names is apart no longer
      intro pid after present found
      rcases List.mem_cons.mp (kept pid after present found) with named | pending
      · exact absurd found.1 (not_apart_of_kill (named ▸ step) present)
      · exact pending
  | terminate terminates =>
      unfold Command.terminates at terminates
      split at terminates <;> cases terminates <;> trivial
  | write writes =>
      rw [writes] at kept
      exact kept
  | fork | returns => trivial

/-- Every step under the conditions keeps the invariant of force-stops, field by field. -/
theorem kept (sound : ForceSound world) (step : Step world label next)
    (apart : ForksApart world label) (byGroup : KillsByGroup world label)
    (known : ReadsKnown world label) (together : StaysTogether world label) : ForceSound next where
  lock := sound.lock.kept step
  large _ _ present live := step.large_kept sound.large present live
  leads _ _ _ present alive role grouped := sound.leads_kept step present alive role grouped
  joined _ _ present role := sound.joined_kept step present role
  family _ _ present live undelegated := sound.family_kept step byGroup present live undelegated
  forces invocation := by
    rcases step.command_cases invocation with same | acts
    · rw [same]
      exact sound.knows_kept step apart together invocation
    · exact sound.knows_after_acts step apart together known acts

end ForceSound

/-! ### Runs -/

/-- The conditions under which the three signals of a force-stop cover every Debian process. -/
structure SignalsCover (world : World) (label : Label) : Prop where
  apart : ForksApart world label
  byGroup : KillsByGroup world label
  known : ReadsKnown world label
  together : StaysTogether world label

/-- The steps that neither fork a supervisor, nor kill, nor change a group. -/
def Label.calm : Label → Bool
  | .fork .. | .kill .. | .killChild _ | .strike _ | .leaveGroup _ | .setGroup _ => false
  | _ => true

/-- A calm step forks no supervisor, whether a force-stop is going on or not. -/
theorem forksApart_of_calm (calm : label.calm = true) : ForksApart world label := by
  rintro _ _ rfl
  cases calm

theorem killsByGroup_of_calm (calm : label.calm = true) : KillsByGroup world label := by
  intro _ _ _ _ _ kills
  cases kills <;> cases calm

/-- A step in which nobody leaves or changes a group keeps the groups together. -/
theorem staysTogether_of_ne (left : ∀ pid, label ≠ .leaveGroup pid)
    (grouped : ∀ pid, label ≠ .setGroup pid) : StaysTogether world label := by
  rintro _ _ pid _ _ _ (leaves | ⟨parent, _, _, sets, _⟩)
  · exact absurd leaves (left pid)
  · exact absurd sets (grouped parent)

/-- A calm step in which no force-stop reads the state file meets the whole condition. -/
theorem signalsCover_of_calm (calm : label.calm = true)
    (unread : ∀ invocation, label = .move invocation →
      world.commands invocation ≠ .forceStop .read) : SignalsCover world label where
  apart := forksApart_of_calm calm
  byGroup := killsByGroup_of_calm calm
  known invocation moves reads := absurd reads (unread invocation moves)
  together := by
    refine staysTogether_of_ne ?_ ?_ <;> rintro _ rfl <;> cases calm

/-- A step of an undisturbed run meets the whole condition. -/
theorem signalsCover_of_undisturbed (calm : Undisturbed world label) : SignalsCover world label := by
  obtain ⟨listed, quiet⟩ := calm
  by_cases forks : ∃ invocation supervisor, label = .fork invocation supervisor
  · obtain ⟨invocation, supervisor, rfl⟩ := forks
    exact
      { apart := fun _ _ _ => quiet
        byGroup := by
          intro _ _ _ _ _ kills
          cases kills
        known := by rintro _ ⟨⟩
        together := staysTogether_of_ne (fun _ => nofun) fun _ => nofun }
  · refine signalsCover_of_calm ?_ fun invocation _ => quiet invocation .read
    cases label with
    | fork invocation supervisor => exact absurd ⟨invocation, supervisor, rfl⟩ forks
    | begin | take | move | row | writeState | forkDebian => rfl
    | _ => cases listed

end DawnShell.Launcher
