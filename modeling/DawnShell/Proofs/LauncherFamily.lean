/-
Module: DawnShell.Proofs.LauncherFamily
Layer: Proofs
Purpose: Debian processes and their supervisors.  A live Debian process keeps its supervisor until the
  supervisor is killed; what a complete record says of it stays true while it lives; a process of the
  delegated control group stays there, and a scan of it misses no such process.
Trusted boundary: none
Main exports: Parent, Supervised, Step.parent_kept, Step.parent_of_birth, Became.identifies, ScannedTo,
  ScannedTo.step, ScannedTo.ends
-/
import DawnShell.Proofs.LauncherLock

namespace DawnShell.Launcher

open Transition

variable {world next : World} {label : Label} {pid parent : Pid} {process after : Process}

/-- A process that is of Debian after a step was so before it. -/
theorem Became.isDebian (became : Became world label pid process after) (live : after.isDebian) :
    process.isDebian := by
  refine ⟨became.alive live.1, ?_⟩
  have kind := kind_eq_debian.mpr live.2
  rw [became.kind] at kind
  exact kind_eq_debian.mp kind

/-! ### Supervisors and their children -/

/-- A live supervisor that may have a live child, and the child. -/
structure Parent (world : World) (pid parent : Pid) (supervisor : Process) (locals : Supervisor) :
    Prop where
  present : world.table parent = some supervisor
  alive : supervisor.alive = true
  role : supervisor.role = .supervisor locals
  phase : locals.phase.hasChild = true
  child : locals.child = pid

/-- The supervisor of a process is alive. -/
def Supervised (world : World) (pid : Pid) : Prop :=
  ∃ parent supervisor locals, Parent world pid parent supervisor locals

/-- A supervisor that is the parent of a Debian process has not come to its exit. -/
theorem Parent.phase_ne_exit {supervisor : Process} {locals : Supervisor}
    (family : Parent world pid parent supervisor locals) : locals.phase ≠ .exit := by
  intro exits
  have phase := family.phase
  rw [exits] at phase
  cases phase

/-- A supervisor that is the parent of a Debian process has the lock file open. -/
theorem Parent.lockFd {supervisor : Process} {locals : Supervisor}
    (family : Parent world pid parent supervisor locals) (sound : LockSound world) :
    supervisor.lockFd = true :=
  sound.keeps parent supervisor locals family.present family.alive family.role family.phase_ne_exit

/-- A supervisor with a child that moves on keeps this child until it has waited for it. -/
theorem Supervisor.Moves.hasChild {table : ProcessTable} {locals later : Supervisor}
    (moves : Supervisor.Moves table pid process locals later)
    (phase : locals.phase.hasChild = true) :
    later.phase.hasChild = true ∧ later.child = locals.child := by
  cases moves with
  | writeFails phases =>
      refine ⟨?_, rfl⟩
      generalize locals.phase = phase at *
      simp only [List.mem_cons, Prod.mk.injEq, List.not_mem_nil, or_false] at phases
      rcases phases with ⟨rfl, rfl⟩ | ⟨rfl, rfl⟩ | ⟨rfl, rfl⟩ | ⟨rfl, rfl⟩ | ⟨rfl, rfl⟩ |
        ⟨rfl, rfl⟩ | ⟨rfl, rfl⟩ <;> first | rfl | cases phase
  | failsEarly phases =>
      generalize locals.phase = before at *
      simp only [List.mem_cons, List.not_mem_nil, or_false] at phases
      rcases phases with rfl | rfl | rfl | rfl | rfl <;> cases phase
  | identity early | helpersReady early | namespaces _ early =>
      rw [early] at phase
      cases phase
  | readTicks | readTicksFails | executed | survives | captures | failsLate | stops =>
      exact ⟨rfl, rfl⟩

/-- Writing its state does not separate a supervisor from its child. -/
theorem hasChild_of_writes {locals later : Supervisor} (writes : locals.writes = some later)
    (phase : locals.phase.hasChild = true) :
    later.phase.hasChild = true ∧ later.child = locals.child := by
  unfold Supervisor.writes at writes
  split at writes <;> cases writes <;> simp_all [SupervisorPhase.hasChild]

/-- The signals of a supervisor reach its child. -/
theorem strikes_child {locals : Supervisor} {table : ProcessTable} (child : locals.child = pid) :
    locals.strikes table pid process = true := by
  unfold Supervisor.strikes
  split <;> simp [compatTargets, Target.hits, child]

/-- Whatever a supervisor with a child does by itself, it is alive afterwards and still has it. -/
theorem RowMoves.hasChild {table : ProcessTable} {locals : Supervisor}
    (moves : RowMoves table pid process after) (alive : process.alive = true)
    (role : process.role = .supervisor locals) (phase : locals.phase.hasChild = true) :
    after.alive = true ∧ ∃ later, after.role = .supervisor later ∧ later.phase.hasChild = true ∧
      later.child = locals.child := by
  cases moves with
  | supervisor same moves =>
      cases role.symm.trans same
      exact ⟨alive, _, rfl, moves.hasChild phase⟩
  | setsid same early | supervisorCloses same early | supervisorExits same early =>
      cases role.symm.trans same
      rw [early] at phase
      cases phase
  | joins other | executes _ _ _ other | systemdSession other => cases role.symm.trans other
  | closesLock child | ends child => exact absurd role (child locals)

/-- A supervisor that is asked to stop is still there and still has its child. -/
theorem Requested.hasChild {locals : Supervisor} (requested : Requested process after)
    (alive : process.alive = true) (role : process.role = .supervisor locals)
    (phase : locals.phase.hasChild = true) :
    after.alive = true ∧ ∃ later, after.role = .supervisor later ∧ later.phase.hasChild = true ∧
      later.child = locals.child := by
  cases requested with
  | noted same =>
      cases role.symm.trans same
      exact ⟨alive, _, rfl, phase, rfl⟩
  | early same early =>
      cases role.symm.trans same
      rcases early with early | early <;> rw [early] at phase <;> cases phase
  | ignored => exact ⟨alive, locals, role, phase, rfl⟩

/-- A child that is not killed keeps its supervisor, unless the supervisor is killed. -/
theorem Step.parent_kept {supervisor : Process} {locals : Supervisor}
    (step : Step world label next) (family : Parent world pid parent supervisor locals)
    (present : world.table pid = some process) (alive : process.alive = true)
    (kind : process.role.kind = .debian) (spared : ¬Kills world label pid process) :
    Kills world label parent supervisor ∨
      ∃ later locals, Parent next pid parent later locals := by
  have different : pid ≠ parent := by
    rintro rfl
    cases present.symm.trans family.present
    simp [family.role] at kind
  obtain ⟨later, there, became⟩ := step.row_persists family.present family.alive
  obtain ⟨found, aliveParent, roleParent, phase, child⟩ := family
  cases became with
  | same => exact .inr ⟨supervisor, locals, there, aliveParent, roleParent, phase, child⟩
  | killed kills => exact .inl kills
  | moved _ moves =>
      obtain ⟨stays, later, role, phase, same⟩ := moves.hasChild aliveParent roleParent phase
      exact .inr ⟨_, later, there, stays, role, phase, same.trans child⟩
  | asked requested =>
      obtain ⟨stays, later, role, phase, same⟩ := requested.hasChild aliveParent roleParent phase
      exact .inr ⟨_, later, there, stays, role, phase, same.trans child⟩
  | leftGroup role | grouped _ _ _ role => cases roleParent.symm.trans role
  | grouping _ role =>
      cases roleParent.symm.trans role
      exact .inr ⟨_, _, there, aliveParent, rfl, rfl, child⟩
  | wrote _ role writes =>
      cases roleParent.symm.trans role
      obtain ⟨phase, same⟩ := hasChild_of_writes writes phase
      exact .inr ⟨_, _, there, aliveParent, rfl, phase, same.trans child⟩
  | forked _ role early =>
      cases roleParent.symm.trans role
      rw [early] at phase
      cases phase
  | killing _ role killed =>
      -- the child would have been killed with it
      exact absurd (.parent found role different (strikes_child (by
        cases roleParent.symm.trans role
        exact child))) spared
  | reaping _ role reaped zombie dead =>
      -- the child would have been dead
      cases roleParent.symm.trans role
      rw [child] at zombie
      cases present.symm.trans zombie
      rw [alive] at dead
      cases dead

/-- A Debian process is born to a supervisor and into its group; its parent is then in the phase behind
the fork and has it as its child. -/
theorem Step.parent_of_birth (step : Step world label next) (born : Born world label pid process)
    (kind : process.role.kind = .debian) :
    ∃ parent supervisor locals, world.table parent = some supervisor ∧ supervisor.alive = true ∧
      supervisor.role = .supervisor locals ∧ locals.phase = .forkChild ∧
      process.group = supervisor.group ∧ ∃ later locals, Parent next pid parent later locals := by
  cases born with
  | supervisor _ _ fresh | helper _ _ fresh => simp [fresh.role] at kind
  | other role => simp [role] at kind
  | @debian parent _ supervisor _ locals there alive role phase large fresh inherits grouped =>
      refine ⟨parent, supervisor, locals, there, alive, role, phase, grouped, ?_⟩
      cases step with
      | forkDebian found alive sameRole phase unused =>
          have different : parent ≠ pid := by
            rintro rfl
            cases unused.symm.trans there
          cases there.symm.trans found
          cases role.symm.trans sameRole
          refine ⟨{ supervisor with role := .supervisor (locals.forked pid) }, locals.forked pid,
            ?_, alive, rfl, ?_, rfl⟩
          · simp [different]
          · unfold Supervisor.forked
            split <;> rfl

/-- After a step no Debian process has a pid of 0 or 1. -/
theorem Step.large_kept (step : Step world label next)
    (large : ∀ pid process, world.table pid = some process → process.isDebian → 1 < pid)
    (present : next.table pid = some after) (live : after.isDebian) : 1 < pid := by
  rcases step.row_cases present with ⟨before, found, became⟩ | born
  · exact large pid before found (became.isDebian live)
  · have kind := kind_eq_debian.mpr live.2
    cases born with
    | supervisor _ _ fresh | helper _ _ fresh => simp [fresh.role] at kind
    | other role => simp [role] at kind
    | debian there alive role phase large => exact large

/-! ### What stays of a Debian process -/

theorem Became.delegated (became : Became world label pid process after)
    (delegated : process.delegated = true) : after.delegated = true := by
  cases became with
  | moved _ moves =>
      cases moves with
      | joins => rfl
      | _ => exact delegated
  | asked requested => cases requested <;> exact delegated
  | same | killed | leftGroup | grouped | grouping | wrote | forked | killing | reaping =>
      exact delegated

/-- What the identity checks look at. -/
def Process.shown (process : Process) : Bool × UInt64 × UInt64 × UInt64 × Namespaces :=
  (process.alive, process.startTicks, process.exeDev, process.exeIno, process.namespaces)

/-- A check of an identity depends only on what a process shows under `/proc`. -/
theorem check_eq_of_shown {state : LauncherState} {checks : List IdentityCheck}
    {check : IdentityCheck} (listed : state.debianChecks = some checks) (member : check ∈ checks)
    (same : after.shown = process.shown) : check after = check process := by
  simp only [Process.shown, Prod.mk.injEq] at same
  obtain ⟨alive, ticks, dev, ino, namespaces⟩ := same
  unfold LauncherState.debianChecks at listed
  split at listed <;> split at listed <;> cases listed <;>
    simp only [compatChecks, initChecks, List.mem_cons, List.not_mem_nil, or_false] at member <;>
    rcases member with rfl | rfl | rfl | rfl | rfl | rfl | rfl | rfl | rfl
  all_goals
    simp [ticksAgree, exeAgrees, namespaceAgrees, optionalNamespaceAgrees, signalable, alive, ticks,
      dev, ino, namespaces]

/-- A process that has executed its program shows the same to the end. -/
theorem Became.shown {mode : LaunchMode} (became : Became world label pid process after)
    (alive : after.alive = true) (role : process.role = .debian mode true) :
    after.role = process.role ∧ after.shown = process.shown := by
  cases became with
  | moved _ moves =>
      cases moves with
      | supervisor other | setsid other | supervisorCloses other | executes _ _ _ other =>
          cases role.symm.trans other
      | supervisorExits | ends => cases alive
      | closesLock | joins | systemdSession => exact ⟨rfl, rfl⟩
  | asked requested =>
      cases requested with
      | noted other => cases role.symm.trans other
      | early => cases alive
      | ignored => exact ⟨rfl, rfl⟩
  | killed => cases alive
  | grouping _ other | wrote _ other | forked _ other | killing _ other | reaping _ other =>
      cases role.symm.trans other
  | same | leftGroup | grouped => exact ⟨rfl, rfl⟩

/-- A record that identifies a process identifies it as long as it lives. -/
theorem Became.identifies {state : LauncherState} (became : Became world label pid process after)
    (alive : after.alive = true) (known : Identifies state pid process) :
    Identifies state pid after := by
  obtain ⟨role, same, checks, listed, agree⟩ := known
  obtain ⟨sameRole, shown⟩ := became.shown alive role
  refine ⟨sameRole.trans role, same, checks, listed, fun check member => ?_⟩
  rw [check_eq_of_shown listed member shown]
  exact agree check member

/-! ### The scan of the delegated control group -/

/-- Every live Debian process is in the delegated control group, and a scan that has found nothing has
not passed it. -/
def ScannedTo (table : ProcessTable) (position : Pid) (found : List Pid) : Prop :=
  ∀ pid process, table pid = some process → process.isDebian →
    process.delegated = true ∧ (found = [] → position ≤ pid)

/-- A scan that goes on has seen all Debian processes below its new position, or has them among what it
found. -/
theorem ScannedTo.step {table : ProcessTable} {capacity : Nat} {position further : Pid}
    {found more : List Pid} (scanned : ScannedTo table position found)
    (large : ∀ pid process, table pid = some process → process.isDebian → 1 < pid)
    (step : ScanStep table capacity position found further more) : ScannedTo table further more := by
  intro pid process present live
  obtain ⟨delegated, ahead⟩ := scanned pid process present live
  refine ⟨delegated, fun nothing => ?_⟩
  cases step with
  | hit => simp at nothing
  | miss room misses =>
      have behind : position ≤ pid := ahead nothing
      -- the process at this position is no live process of the group
      have different : position ≠ pid := by
        rintro rfl
        cases misses with
        | small small => exact absurd (large _ process present live) (Nat.not_lt.mpr small)
        | absent absent => cases absent.symm.trans present
        | apart other there apart =>
            cases present.symm.trans there
            rcases apart with apart | dead
            · rw [delegated] at apart
              cases apart
            · rw [live.1] at dead
              cases dead
      exact Nat.lt_of_le_of_ne behind different

/-- A scan that ends with nothing found, and had room for something, has seen that there is no Debian
process. -/
theorem ScannedTo.ends {table : ProcessTable} {capacity : Nat} {position : Pid}
    (scanned : ScannedTo table position []) (room : 0 < capacity)
    (ends : ScanEnds table capacity position []) (present : table pid = some process) :
    ¬process.isDebian := by
  intro live
  have ahead := (scanned pid process present live).2 rfl
  rcases ends with full | empty
  · exact absurd room (Nat.not_lt.mpr full)
  · cases (empty pid ahead).symm.trans present

/-- A scan is not disturbed by a step that forks no Debian process. -/
theorem ScannedTo.kept {position : Pid} {found : List Pid}
    (scanned : ScannedTo world.table position found) (step : Step world label next)
    (unborn : ∀ pid process, Born world label pid process → process.role.kind ≠ .debian) :
    ScannedTo next.table position found := by
  intro pid after present live
  rcases step.row_cases present with ⟨before, there, became⟩ | born
  · obtain ⟨delegated, ahead⟩ := scanned pid before there (became.isDebian live)
    exact ⟨became.delegated delegated, ahead⟩
  · exact absurd (kind_eq_debian.mpr live.2) (unborn pid after born)

/-! ### A start in compat mode -/

/-- The lock is free when its last holder has given it back and no process has its file open. -/
theorem free_of_closed {description : Nat} (held : world.lock = some description)
    (given : (world.commands description).holds = false)
    (closed : ∀ pid process, world.table pid = some process → process.lockFd = false) :
    world.Free := by
  intro other same
  cases held.symm.trans same
  refine ⟨given, ?_⟩
  rintro ⟨pid, process, present, -, locked, -⟩
  rw [closed pid process present] at locked
  cases locked

/-- The supervisor of a compat launch as its start forks it. -/
def compatSupervisor : Process :=
  { launch := 0, role := .supervisor {}, startTicks := 7, exeDev := 1, exeIno := 9, group := 1,
    session := 1, lockFd := true }

/-- Its record before its service has been forked. -/
def compatRecord : LauncherState :=
  { initializeState .starting with launchMode := .compat, supervisor := ⟨2, 7, 1, 9⟩ }

/-- Its service as it is forked. -/
def compatService : Process :=
  { launch := 0, role := .debian .compat false, startTicks := 8, exeDev := 1, exeIno := 9,
    group := 2, session := 2, lockFd := true }

/-- A supervisor has just forked a compat service. -/
def serviceForked : World where
  table := fun pid =>
    if pid = 2 then
      some { compatSupervisor with
        role := .supervisor
          { phase := .setGroup, state := compatRecord, mode := .compat, child := 3, recorded := true }
        group := 2
        session := 2 }
    else if pid = 3 then some compatService else none
  commands := fun invocation => if invocation = 0 then .start .awaitReady else .absent
  lock := some 0
  file := some compatRecord
  clock := 1
  takenAt := fun invocation => if invocation = 0 then 1 else 0

def NoForceStop (commands : Nat → Command) : Prop :=
  ∀ invocation phase, commands invocation ≠ .forceStop phase

/-- Where no force-stop goes on, a step of another command begins none. -/
theorem NoForceStop.update {commands : Nat → Command} (quiet : NoForceStop commands)
    (invocation : Nat) (command : Command) (other : ∀ phase, command ≠ .forceStop phase) :
    NoForceStop (Function.update commands invocation command) := by
  intro asked phase
  rw [Function.update_apply]
  split
  · exact other phase
  · exact quiet asked phase

/-- The steps of a start, of its supervisor and of what that forks. -/
def Label.ofStart : Label → Bool
  | .begin _ | .take _ | .move _ | .fork .. | .row _ | .writeState _ | .forkDebian .. => true
  | _ => false

/-- A step of a start while no force-stop is going on. -/
def Undisturbed (world : World) (label : Label) : Prop :=
  label.ofStart = true ∧ NoForceStop world.commands

/-- A supervisor has recorded itself and started its helpers. -/
def helpersStarted : World where
  table := fun pid =>
    if pid = 2 then
      some { compatSupervisor with
        role := .supervisor
          { phase := .namespaces
            state := { compatRecord with launchMode := .systemd }
            recorded := true }
        group := 2
        session := 2 }
    else none
  commands := fun invocation => if invocation = 0 then .start .awaitReady else .absent
  lock := some 0
  file := some { compatRecord with launchMode := .systemd }
  clock := 1
  takenAt := fun invocation => if invocation = 0 then 1 else 0

/-- While the helpers are started no force-stop goes on. -/
theorem noForceStop_helpersStarted : NoForceStop helpersStarted.commands := by
  rintro (_ | invocation) phase <;> nofun

/-- A start forks a supervisor, which makes a group of its own, records itself and comes through the
start of its helpers, while no force-stop goes on. -/
theorem start_to_helpers :
    ∃ trace, Run Step World.initial trace helpersStarted ∧ Meets Undisturbed trace := by
  have q0 : NoForceStop World.initial.commands := fun _ _ => nofun
  have q1 := q0.update 0 (.start .tryLock) fun _ => nofun
  have q2 := q1.update 0 (.start .read) fun _ => nofun
  have q3 := q2.update 0 (.start (.scan 0 [])) fun _ => nofun
  have q4 := q3.update 0 (.start .fork) fun _ => nofun
  have q5 := q4.update 0 (.start .closeLock) fun _ => nofun
  have q6 := q5.update 0 (.start .awaitReady) fun _ => nofun
  have r0 : Run Step World.initial [] World.initial ∧ Meets Undisturbed [] := ⟨.start, meets_nil⟩
  have r1 := step_meeting r0 (@Step.begin _ 0 (.start .tryLock) rfl rfl) ⟨rfl, q0⟩
  have r2 := step_meeting r1 (@Step.take _ 0 _ rfl (fun _ held => nomatch held)) ⟨rfl, q1⟩
  have r3 := step_meeting r2 (@Step.move _ 0 _ .startRead) ⟨rfl, q2⟩
  have r4 := step_meeting r3 (@Step.move _ 0 _ (.startScanned (.inr fun _ _ => rfl))) ⟨rfl, q3⟩
  have r5 := step_meeting r4 (@Step.fork _ 0 2 compatSupervisor rfl rfl (by decide)
    ⟨rfl, rfl, rfl⟩ rfl rfl) ⟨rfl, q4⟩
  have r6 := step_meeting r5 (@Step.move _ 0 _ .startClosed) ⟨rfl, q5⟩
  have r7 := step_meeting r6 (@Step.row _ 2 _ _ rfl rfl (.setsid rfl rfl)) ⟨rfl, q6⟩
  have r8 := step_meeting r7 (@Step.row _ 2 _ _ rfl rfl (.supervisor rfl (.identity rfl)))
    ⟨rfl, q6⟩
  have r9 := step_meeting r8 (@Step.writeState _ 2 _ _ _ rfl rfl rfl rfl) ⟨rfl, q6⟩
  have r10 := step_meeting r9 (@Step.row _ 2 _ _ rfl rfl (.supervisor rfl (.helpersReady rfl)))
    ⟨rfl, q6⟩
  refine ⟨_, r10.1.to (World.ext (funext ?_) (funext ?_) rfl rfl rfl (funext ?_)), r10.2⟩
  · rintro (_ | _ | _ | pid) <;> rfl
  · rintro (_ | invocation) <;> rfl
  · rintro (_ | invocation) <;> rfl

/-- The compat variant goes on to the fork of its service. -/
theorem compat_start :
    ∃ trace, Run Step World.initial trace serviceForked ∧ Meets Undisturbed trace := by
  obtain ⟨trace, run, undisturbed⟩ := start_to_helpers
  have calm := noForceStop_helpersStarted
  have r1 := step_meeting ⟨run, undisturbed⟩
    (@Step.row _ 2 _ _ rfl rfl (.supervisor rfl (.namespaces .compat rfl))) ⟨rfl, calm⟩
  have r2 := step_meeting r1 (@Step.writeState _ 2 _ _ _ rfl rfl rfl rfl) ⟨rfl, calm⟩
  have r3 := step_meeting r2 (@Step.forkDebian _ 2 3 _ compatService _ rfl rfl rfl rfl rfl
    (by decide) ⟨rfl, rfl, rfl⟩ rfl rfl rfl) ⟨rfl, calm⟩
  refine ⟨_, r3.1.to (World.ext (funext ?_) rfl rfl rfl rfl rfl), r3.2⟩
  rintro (_ | _ | _ | _ | pid) <;> rfl

/-! ### An orphan that a force-stop sweeps up, and the start after it -/

/-- The init of a systemd launch, which has joined the delegated control group. -/
def joinedInit : Process :=
  { launch := 0, role := .debian .systemd false, startTicks := 8, exeDev := 1, exeIno := 9,
    group := 2, session := 2, delegated := true }

/-- The supervisor of a systemd launch has forked the init, which has joined the control group and is
not on record yet. -/
def initJoined : World where
  table := fun pid =>
    if pid = 2 then
      some { compatSupervisor with
        role := .supervisor
          { phase := .readTicks
            state := { compatRecord with launchMode := .systemd }
            child := 3
            recorded := true }
        group := 2
        session := 2 }
    else if pid = 3 then some joinedInit else none
  commands := helpersStarted.commands
  lock := some 0
  file := some { compatRecord with launchMode := .systemd }
  clock := 1
  takenAt := helpersStarted.takenAt

/-- An undisturbed start in which init executes systemd and leaves the group of its supervisor. -/
theorem systemd_start :
    ∃ trace, Run Step World.initial trace initJoined ∧ Meets Undisturbed trace := by
  obtain ⟨trace, run, undisturbed⟩ := start_to_helpers
  have calm := noForceStop_helpersStarted
  have r1 := step_meeting ⟨run, undisturbed⟩
    (@Step.row _ 2 _ _ rfl rfl (.supervisor rfl (.namespaces .systemd rfl))) ⟨rfl, calm⟩
  have r2 := step_meeting r1 (@Step.writeState _ 2 _ _ _ rfl rfl rfl rfl) ⟨rfl, calm⟩
  have r3 := step_meeting r2 (@Step.forkDebian _ 2 3 _
    { joinedInit with delegated := false, lockFd := true } _ rfl rfl rfl rfl rfl (by decide)
    ⟨rfl, rfl, rfl⟩ rfl rfl rfl) ⟨rfl, calm⟩
  have r4 := step_meeting r3 (@Step.row _ 3 _ _ rfl rfl (.closesLock fun _ => nofun)) ⟨rfl, calm⟩
  have r5 := step_meeting r4 (@Step.row _ 3 _ _ rfl rfl (.joins rfl rfl)) ⟨rfl, calm⟩
  refine ⟨_, r5.1.to (World.ext (funext ?_) rfl rfl rfl rfl rfl), r5.2⟩
  rintro (_ | _ | _ | _ | pid) <;> rfl

/-- What a run around a force-stop, invocation 1, meets step by step: the starts, 0 and 2, run while it is
not going on; the supervisor is killed from outside while its child is in the control group; the
force-stop kills the child when no supervisor is left, and writes when nobody is. -/
inductive Swept (world : World) : Label → Prop where
  | start {label : Label} (undisturbed : Undisturbed world label) : Swept world label
  | strike (joined : ∀ pid process, world.table pid = some process → process.isDebian →
      process.delegated = true) : Swept world (.strike 2)
  | cleans {label : Label}
      (listed : label ∈ [.begin 1, .move 1, .take 1, .unlock 1, .returns 1])
      (command : ∀ phase, world.commands 1 ≠ .start phase) : Swept world label
  | kill (orphaned : ∀ pid process locals, world.table pid = some process →
      process.alive = true → process.role ≠ .supervisor locals) : Swept world (.kill 1 (.process 3))
  | write (gone : ∀ pid process, world.table pid = some process → process.alive = false) :
      Swept world (.write 1)

/-- A force-stop has found the lock free and the orphan in the control group. -/
def orphanFound : World where
  table := fun pid =>
    (initJoined.table pid).map fun process => if pid = 2 then process.dead else process
  commands := fun invocation =>
    if invocation = 0 then .start .awaitReady
    else if invocation = 1 then
      .forceStop (.tail 2 (initializeState .forceStopped) (.kill 0 [3]))
    else .absent
  lock := none
  file := initJoined.file
  clock := 2
  takenAt := fun invocation => if invocation = 0 then 1 else if invocation = 1 then 2 else 0

/-- A service is orphaned by the death of its supervisor, and a sweep strikes it. -/
theorem orphan_found :
    ∃ trace, Run Step World.initial trace orphanFound ∧ Meets Swept trace ∧
      Takes (.strike 2) (fun _ => True) trace := by
  obtain ⟨trace, run, undisturbed⟩ := systemd_start
  have r0 : Run Step World.initial trace initJoined ∧ Meets Swept trace :=
    ⟨run, undisturbed.mono fun _ _ calm => .start calm⟩
  have r1 := step_meeting r0 (@Step.strike _ 2 _ _ rfl rfl rfl) (.strike (by
    rintro (_ | _ | _ | _ | pid) process present live <;> cases present
    · obtain ⟨_, _, role⟩ := live.2
      cases role
    · rfl))
  have r2 := step_meeting r1 (@Step.begin _ 1 (.forceStop .read) rfl rfl) (.cleans (by simp) fun _ => nofun)
  have r3 := step_meeting r2 (@Step.move _ 1 _ .forceRead) (.cleans (by simp) fun _ => nofun)
  -- the zombie still shows its start time, and no executable
  have r4 := step_meeting r3 (@Step.move _ 1 _ .forceCheckSupervisor) (.cleans (by simp) fun _ => nofun)
  have r5 := step_meeting r4 (@Step.move _ 1 _ .forceCheckSupervisor) (.cleans (by simp) fun _ => nofun)
  have r6 := step_meeting r5 (@Step.take _ 1 _ rfl (free_of_closed rfl rfl (by
    rintro (_ | _ | _ | _ | pid) process present <;> cases present <;> rfl)))
    (.cleans (by simp) fun _ => nofun)
  have r7 := step_meeting r6 (@Step.unlock _ 1 _ rfl) (.cleans (by simp) fun _ => nofun)
  have r8 := step_meeting r7 (@Step.move _ 1 _ .tailOrphanKilled) (.cleans (by simp) fun _ => nofun)
  have r9 := step_meeting r8
    (@Step.move _ 1 _ (.tailScan (.miss (by decide) (.small (by decide))))) (.cleans (by simp) fun _ => nofun)
  have r10 := step_meeting r9
    (@Step.move _ 1 _ (.tailScan (.miss (by decide) (.small (by decide))))) (.cleans (by simp) fun _ => nofun)
  have r11 := step_meeting r10
    (@Step.move _ 1 _ (.tailScan (.miss (by decide) (.apart _ rfl (.inr rfl)))))
    (.cleans (by simp) fun _ => nofun)
  have r12 := step_meeting r11
    (@Step.move _ 1 _ (.tailScan (.hit (by decide) (.hit _ rfl rfl (by decide)))))
    (.cleans (by simp) fun _ => nofun)
  have r13 := step_meeting r12 (@Step.move _ 1 _ (.tailScanned (.inr (by
    rintro (_ | _ | _ | _ | pid) far <;> first | rfl | simp at far)))) (.cleans (by simp) fun _ => nofun)
  refine ⟨_, r13.1.to (World.ext (funext ?_) (funext ?_) rfl rfl rfl (funext ?_)), r13.2, ?_⟩
  · rintro (_ | _ | _ | _ | pid) <;> rfl
  · rintro (_ | _ | invocation) <;> rfl
  · rintro (_ | _ | invocation) <;> rfl
  · repeat first
      | exact takes_last trivial
      | apply Takes.append

/-- The force-stop has returned. -/
def orphanSwept : World where
  table := fun pid => (orphanFound.table pid).map Process.dead
  commands := fun invocation =>
    if invocation = 0 then .start .awaitReady
    else if invocation = 1 then .finished 0 else .absent
  lock := none
  file := some (initializeState .forceStopped)
  clock := 2
  takenAt := orphanFound.takenAt

/-- It kills the orphan, finds nobody in the control group and writes its final state. -/
theorem orphan_swept :
    ∃ trace, Run Step World.initial trace orphanSwept ∧ Meets Swept trace ∧
      Takes (.strike 2) (fun _ => True) trace ∧
      Takes (.kill 1 (.process 3)) (fun world => (world.commands 1).cleansSince = some 2) trace := by
  obtain ⟨trace, run, swept, struck⟩ := orphan_found
  have r1 := step_meeting ⟨run, swept⟩ (@Step.kill _ 1 (.process 3) _ rfl) (.kill (by
    rintro (_ | _ | _ | _ | pid) process locals present live role <;> cases present
    · cases live
    · cases role))
  have r2 := step_meeting r1 (@Step.move _ 1 _ .tailKilled) (.cleans (by simp) fun _ => nofun)
  have r3 := step_meeting r2
    (@Step.move _ 1 _ (.tailScan (.miss (by decide) (.small (by decide))))) (.cleans (by simp) fun _ => nofun)
  have r4 := step_meeting r3
    (@Step.move _ 1 _ (.tailScan (.miss (by decide) (.small (by decide))))) (.cleans (by simp) fun _ => nofun)
  have r5 := step_meeting r4
    (@Step.move _ 1 _ (.tailScan (.miss (by decide) (.apart _ rfl (.inr rfl)))))
    (.cleans (by simp) fun _ => nofun)
  have r6 := step_meeting r5
    (@Step.move _ 1 _ (.tailScan (.miss (by decide) (.apart _ rfl (.inr rfl)))))
    (.cleans (by simp) fun _ => nofun)
  have r7 := step_meeting r6 (@Step.move _ 1 _ (.tailScanned (.inr (by
    rintro (_ | _ | _ | _ | pid) far <;> first | rfl | simp at far)))) (.cleans (by simp) fun _ => nofun)
  have r8 := step_meeting r7 (@Step.write _ 1 _ _ rfl) (.write (by
    rintro (_ | _ | _ | _ | pid) process present <;> cases present <;> rfl))
  have r9 := step_meeting r8 (@Step.returns _ 1 _ _ rfl) (.cleans (by simp) fun _ => nofun)
  refine ⟨_, r9.1.to (World.ext (funext ?_) (funext ?_) rfl rfl rfl rfl), r9.2, ?_, ?_⟩
  · rintro (_ | _ | _ | _ | pid) <;> rfl
  · rintro (_ | _ | invocation) <;> rfl
  · iterate 9 apply Takes.append
    exact struck
  · iterate 8 apply Takes.append
    exact takes_last rfl

theorem noForceStop_orphanSwept : NoForceStop orphanSwept.commands := by
  rintro (_ | _ | invocation) phase <;> nofun

/-- The next start finds nobody, and its supervisor records itself; the sweep of the force-stop before
it has killed the orphan. -/
theorem start_after_sweep :
    ∃ trace last, Run Step World.initial trace last ∧ Meets Swept trace ∧
      Takes (.strike 2) (fun _ => True) trace ∧
      Takes (.kill 1 (.process 3)) (fun world => (world.commands 1).cleansSince = some 2) trace ∧
      Takes (.fork 2 4) (fun _ => True) trace ∧ last.lock = some 2 ∧
      last.file = some { initializeState .starting with supervisor := ⟨4, 7, 1, 9⟩ } := by
  obtain ⟨trace, run, swept, struck, killed⟩ := orphan_swept
  have q0 := noForceStop_orphanSwept
  have q1 := q0.update 2 (.start .tryLock) fun _ => nofun
  have q2 := q1.update 2 (.start .read) fun _ => nofun
  have q3 := q2.update 2 (.start (.scan 0 [])) fun _ => nofun
  have q4 := q3.update 2 (.start (.scan 1 [])) fun _ => nofun
  have q5 := q4.update 2 (.start (.scan 2 [])) fun _ => nofun
  have q6 := q5.update 2 (.start (.scan 3 [])) fun _ => nofun
  have q7 := q6.update 2 (.start (.scan 4 [])) fun _ => nofun
  have q8 := q7.update 2 (.start .fork) fun _ => nofun
  have q9 := q8.update 2 (.start .closeLock) fun _ => nofun
  have q10 := q9.update 2 (.start .awaitReady) fun _ => nofun
  have r1 := step_meeting ⟨run, swept⟩ (@Step.begin _ 2 (.start .tryLock) rfl rfl)
    (.start ⟨rfl, q0⟩)
  have r2 := step_meeting r1 (@Step.take _ 2 _ rfl (fun _ held => nomatch held)) (.start ⟨rfl, q1⟩)
  have r3 := step_meeting r2 (@Step.move _ 2 _ .startRead) (.start ⟨rfl, q2⟩)
  have r4 := step_meeting r3
    (@Step.move _ 2 _ (.startScan (.miss (by decide) (.small (by decide))))) (.start ⟨rfl, q3⟩)
  have r5 := step_meeting r4
    (@Step.move _ 2 _ (.startScan (.miss (by decide) (.small (by decide))))) (.start ⟨rfl, q4⟩)
  have r6 := step_meeting r5
    (@Step.move _ 2 _ (.startScan (.miss (by decide) (.apart _ rfl (.inr rfl))))) (.start ⟨rfl, q5⟩)
  have r7 := step_meeting r6
    (@Step.move _ 2 _ (.startScan (.miss (by decide) (.apart _ rfl (.inr rfl))))) (.start ⟨rfl, q6⟩)
  have r8 := step_meeting r7 (@Step.move _ 2 _ (.startScanned (.inr (by
    rintro (_ | _ | _ | _ | pid) far <;> first | rfl | simp at far)))) (.start ⟨rfl, q7⟩)
  have r9 := step_meeting r8 (@Step.fork _ 2 4 { compatSupervisor with launch := 2 } rfl rfl
    (by decide) ⟨rfl, rfl, rfl⟩ rfl rfl) (.start ⟨rfl, q8⟩)
  have r10 := step_meeting r9 (@Step.move _ 2 _ .startClosed) (.start ⟨rfl, q9⟩)
  have r11 := step_meeting r10 (@Step.row _ 4 _ _ rfl rfl (.setsid rfl rfl)) (.start ⟨rfl, q10⟩)
  have r12 := step_meeting r11 (@Step.row _ 4 _ _ rfl rfl (.supervisor rfl (.identity rfl)))
    (.start ⟨rfl, q10⟩)
  have r13 := step_meeting r12 (@Step.writeState _ 4 _ _ _ rfl rfl rfl rfl) (.start ⟨rfl, q10⟩)
  refine ⟨_, _, r13.1, r13.2, ?_, ?_, ?_, rfl, rfl⟩
  · iterate 13 apply Takes.append
    exact struck
  · iterate 13 apply Takes.append
    exact killed
  · iterate 4 apply Takes.append
    exact takes_last trivial

end DawnShell.Launcher
