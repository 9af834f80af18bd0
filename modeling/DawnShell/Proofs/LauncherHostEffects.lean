/-
Module: DawnShell.Proofs.LauncherHostEffects
Layer: Proofs
Purpose: What is left on the host when a launch is over.  A supervisor that goes through its own shutdown
  gives back the interfaces that have stayed as it left them, and waits for a network manager that has
  deleted its rules and removed the FIFO; a group that has been killed undoes nothing.
Trusted boundary: none
Main exports: Host.Undone, Host.HostSound, Host.stop_undoes, Host.force_stop_leaves_effects
-/
import DawnShell.Launcher.HostEffects
import DawnShell.Proofs.ExclusiveUsbRecords
import Mathlib.Data.List.Infix

namespace DawnShell.Launcher.Host

open Transition Readiness Interaction

variable {policy : HostUsbPolicy} {filter : UsbDeviceFilter} {world next : World} {label : Label}

/-- The effects of the launch on the host are undone: an interface whose last attempt to be unbound
succeeded and that has been there without a driver ever since is bound to its driver again, and there is
neither a rule of the network manager nor the FIFO. -/
structure Undone (world : World) : Prop where
  usb : ∀ name driver before after,
    world.scanned = before ++ ⟨.writeControl driver .unbind name, none⟩ :: after →
    Unattempted name after → Stays name after → Stays name world.restored →
    ⟨.writeControl driver .bind name, none⟩ ∈ world.restored
  rules : ∀ family, world.rules family = 0
  fifo : world.fifo = false

/-- Every bind of the restoration succeeds. -/
def BindsSucceed (world : World) : Prop :=
  ∀ driver name failure, ⟨.writeControl driver .bind name, failure⟩ ∈ world.restored → failure = none

/-! ### The launch below -/

/-- Seen without the host, every step is one of the launch or none. -/
theorem Step.launch_step (step : Step policy filter world label next) :
    next.launch = world.launch ∨ ∃ label, Readiness.Step world.launch label next.launch := by
  cases step with
  | launch step => exact .inr ⟨_, step⟩
  | fifoPrepared phase | managerForked phase =>
      exact .inr ⟨_, .supervisor (phase ▸ .prepared)⟩
  | managerStartFails phase => exact .inr ⟨_, .supervisor (phase ▸ .prepareFails)⟩
  | networkReady phase => exact .inr ⟨_, .supervisor (phase ▸ .networkReady)⟩
  | runs phase | runsExclusive phase => exact .inr ⟨_, .supervisor (phase ▸ .runningWritten)⟩
  | closesLock phase => exact .inr ⟨_, .supervisor (phase ▸ .finishes)⟩
  | forceKills => exact .inr ⟨_, .debianEnds⟩
  | manager step => cases step <;> exact .inl rfl
  | scans | restoreSkipped | restores | terminates | awaits | cleans | parentDeath | stops
  | returnsAtOnce | stopReturns | forceReturns => exact .inl rfl

/-- The network manager has been waited for. -/
def served : Phase → Bool
  | .prepare _ | .baseNamespaces | .awaitNetwork _ | .report _ | .ended _ => false
  | _ => true

/-- A supervisor gets behind the wait for its network manager only through the answer that ends this
wait. -/
theorem served_of_moves {launch : Launch} {phase later : Phase}
    (moves : Phase.Moves launch phase later) (after : served later = true) :
    served phase = true ∨ ∃ limit, phase = .awaitNetwork limit ∧ later = .negotiate := by
  cases moves with
  | networkReady => exact .inr ⟨_, rfl, rfl⟩
  | ticksFail => exact .inl rfl
  | prepared | prepareFails | helpersStarted | baseReady | namespacesFail | networkInterrupted
  | networkFails | networkTimesOut | pipeFails | forkFails | finishes | failedWritten => cases after
  | _ => exact .inl rfl

/-- In whatever step, a supervisor is behind the wait for its network manager only if it was there
before or the wait has just ended. -/
theorem served_of_step {launch later : Launch} {label : Readiness.Label}
    (step : Readiness.Step launch label later) (after : served later.phase = true) :
    served launch.phase = true ∨
      ∃ limit, launch.phase = .awaitNetwork limit ∧ later.phase = .negotiate := by
  cases step with
  | pass | reader | pollFails | readFails | shutdownKills | debianEnds => exact .inl after
  | supervisor moves => exact served_of_moves moves after
  | negotiated _ phase | forks phase | kills phase | announces phase | announceBreaks phase
  | announceLost phase =>
      rw [phase]
      exact .inl rfl
  | reports | reportLost => cases after

/-- The preparations of a supervisor are done one after another, and none of them comes back. -/
theorem prepare_of_step {launch later : Launch} {label : Readiness.Label}
    {remaining : List FailureStage} (step : Readiness.Step launch label later)
    (after : later.phase = .prepare remaining) :
    launch.phase = .prepare remaining ∨ ∃ stage, launch.phase = .prepare (stage :: remaining) := by
  cases step with
  | pass | reader | pollFails | readFails | shutdownKills | debianEnds => exact .inl after
  | supervisor moves =>
      simp only at after
      generalize launch.phase = before at moves
      cases moves with
      | prepared =>
          cases after
          exact .inr ⟨_, rfl⟩
      | ticksFail => split at after <;> cases after
      | _ => cases after
  | forks =>
      simp only at after
      split at after <;> cases after
  | negotiated | kills | announces | announceBreaks | announceLost | reports | reportLost =>
      cases after

/-- A supervisor that has left its loop. -/
def leaving : Phase → Bool
  | .finish | .ended _ => true
  | _ => false

/-- A supervisor that has begun to leave goes on leaving. -/
theorem leaving_of_step {launch later : Launch} {label : Readiness.Label}
    (step : Readiness.Step launch label later) (before : leaving launch.phase = true) :
    leaving later.phase = true := by
  cases step with
  | pass | reader | pollFails | readFails | shutdownKills | debianEnds => exact before
  | supervisor moves =>
      generalize launch.phase = phase at moves before
      cases moves with
      | finishes => rfl
      | namespacesFail phases =>
          simp at phases
          rcases phases with rfl | rfl <;> cases before
      | _ => cases before
  | reports | reportLost => rfl
  | negotiated _ phase | forks phase | kills phase | announces phase | announceBreaks phase
  | announceLost phase =>
      rw [phase] at before
      cases before

/-- The stage that a supervisor is going to report. -/
def failing : Phase → Option FailureStage
  | .killChild stage | .writeFailed stage | .report stage => some stage
  | _ => none

/-- A supervisor that is about to report a failure is not going to return 0. -/
theorem failing_of_step {launch later : Launch} {label : Readiness.Label}
    (step : Readiness.Step launch label later)
    (order : ∀ remaining, launch.phase = .prepare remaining → remaining <:+ preparations)
    (before : ∀ stage ∈ failing launch.phase, stage.exitCode ≠ 0) :
    ∀ stage ∈ failing later.phase, stage.exitCode ≠ 0 := by
  cases step with
  | pass | reader | pollFails | readFails | shutdownKills | debianEnds => exact before
  | supervisor moves =>
      generalize launch.phase = phase at moves before order
      cases moves with
      | @prepareFails failed remaining =>
          rintro stage ⟨⟩
          have codes : ∀ stage ∈ preparations, stage.exitCode ≠ 0 := by decide
          exact codes failed ((order _ rfl).subset (.head _))
      | namespacesFail _ failed =>
          rintro stage ⟨⟩
          exact failed
      | networkFails | networkTimesOut | pipeFails | forkFails | execFails | execTimesOut | graceReaps
      | graceFails | graceProbeFails | captureFails =>
          rintro stage ⟨⟩
          decide
      | failedWritten => exact before
      | ticksFail => split <;> nofun
      | _ => nofun
  | kills phase =>
      rw [phase] at before
      exact before
  | forks =>
      simp only
      split <;> nofun
  | negotiated | announces | announceBreaks | announceLost | reports | reportLost => nofun

/-! ### The supervisor and its network manager -/

/-- The phases of a network manager that has reported itself ready. -/
def Manager.serves : Manager → Bool
  | .test | .reconcile _ | .watch | .close _ | .unlink | .exited => true
  | _ => false

/-- Where the supervisor, its network manager and its shutdown are. -/
structure LaunchSound (world : World) : Prop where
  order : ∀ remaining, world.launch.phase = .prepare remaining → remaining <:+ preparations
  started : world.manager ≠ .absent → ∀ remaining, world.launch.phase = .prepare remaining →
    remaining = []
  ready : world.managerReady = true → world.manager.serves = true
  awaited : served world.launch.phase = true → world.managerReady = true
  leaves : world.shutdown ≠ .restore → leaving world.launch.phase = true
  closed : world.holdsLock = false → world.shutdown = .closeLock

/-- Before the first step no preparation is done, no manager is there and the lock is held. -/
theorem launchSound_initial : LaunchSound {} where
  order := by
    rintro remaining ⟨⟩
    exact List.suffix_rfl
  started unstarted := absurd rfl unstarted
  ready := nofun
  awaited := nofun
  leaves changed := absurd rfl changed
  closed := nofun

/-- Among all the parties only the supervisor itself moves on in its preparations. -/
theorem Step.prepare (step : Step policy filter world label next) {remaining : List FailureStage}
    (after : next.launch.phase = .prepare remaining) :
    world.launch.phase = .prepare remaining ∨
      ∃ stage, world.launch.phase = .prepare (stage :: remaining) := by
  rcases step.launch_step with same | ⟨_, step⟩
  · exact .inl (same ▸ after)
  · exact prepare_of_step step after

namespace LaunchSound

/-- What is left of the preparations is always an end of the whole list. -/
theorem order_kept (sound : LaunchSound world) (step : Step policy filter world label next)
    {remaining : List FailureStage} (after : next.launch.phase = .prepare remaining) :
    remaining <:+ preparations := by
  rcases step.prepare after with same | ⟨stage, before⟩
  · exact sound.order remaining same
  · exact (List.suffix_cons stage remaining).trans (sound.order _ before)

/-- A network manager is there because it was, or because the supervisor has just forked it. -/
theorem manager_cases (step : Step policy filter world label next) (there : next.manager ≠ .absent) :
    world.manager ≠ .absent ∨ ∃ remaining,
      world.launch.phase = .prepare (.networkManagerStart :: remaining) ∧
        next.launch.phase = .prepare remaining := by
  cases step with
  | managerForked phase => exact .inr ⟨_, phase, rfl⟩
  | manager step =>
      left
      cases step <;> simp_all
  | forceKills =>
      left
      intro absent
      simp [absent] at there
  | _ => exact .inl there

/-- The network manager is the last preparation. -/
theorem started_kept (sound : LaunchSound world) (step : Step policy filter world label next)
    (there : next.manager ≠ .absent) {remaining : List FailureStage}
    (after : next.launch.phase = .prepare remaining) : remaining = [] := by
  rcases manager_cases step there with before | ⟨rest, phase, same⟩
  · rcases step.prepare after with unchanged | ⟨stage, earlier⟩
    · exact sound.started before remaining unchanged
    · cases sound.started before _ earlier
  · rw [same] at after
    cases after
    have last : ∀ rest ∈ preparations.tails, rest.head? = some .networkManagerStart →
        rest.tail = [] := by decide
    exact last _ ((List.mem_tails _ _).mpr (sound.order _ phase)) rfl

/-- While the supervisor prepares there is no network manager yet, since starting it is the last thing
to be prepared. -/
theorem absent_of_prepare (sound : LaunchSound world) {stage : FailureStage}
    {remaining : List FailureStage} (phase : world.launch.phase = .prepare (stage :: remaining)) :
    world.manager = .absent := by
  by_contra there
  cases sound.started there _ phase

/-- While the supervisor prepares no manager has reported ready. -/
theorem unready_of_prepare (sound : LaunchSound world) {stage : FailureStage}
    {remaining : List FailureStage} (phase : world.launch.phase = .prepare (stage :: remaining)) :
    world.managerReady = false := by
  rw [Bool.eq_false_iff]
  intro ready
  have serves := sound.ready ready
  rw [sound.absent_of_prepare phase] at serves
  cases serves

/-- A manager that has reported ready has its rules installed and serves, until it is told to end;
nothing takes the report back. -/
theorem ready_kept (sound : LaunchSound world) (step : Step policy filter world label next)
    (ready : next.managerReady = true) : next.manager.serves = true := by
  cases step with
  | manager step =>
      cases step with
      | reports => rfl
      | keeps | drops | replaces =>
          simp only
          split <;> rfl
      | goesOn | wakes | leaves | closes | closed | unlinks | orphaned | openFails => rfl
      | guards phase | clears phase | cleared phase | opens phase =>
          have serves := sound.ready ready
          rw [phase] at serves
          cases serves
  | managerForked phase =>
      have unready := sound.unready_of_prepare phase
      rw [show world.managerReady = true from ready] at unready
      cases unready
  | forceKills =>
      have serves := sound.ready ready
      cases manager : world.manager <;> simp_all [Manager.serves]
  | _ => exact sound.ready ready

/-- A supervisor behind the wait has heard its manager report ready, and so has every later phase of the
same supervisor. -/
theorem awaited_kept (sound : LaunchSound world) (step : Step policy filter world label next)
    (after : served next.launch.phase = true) : next.managerReady = true := by
  have kept : world.managerReady = true → next.managerReady = true := by
    intro ready
    cases step with
    | manager step =>
        cases step <;> first | rfl | exact ready
    | _ => exact ready
  rcases step.launch_step with same | ⟨other, moved⟩
  · exact kept (sound.awaited (same ▸ after))
  · rcases served_of_step moved after with before | ⟨limit, before, negotiates⟩
    · exact kept (sound.awaited before)
    · cases step with
      | networkReady _ _ ready => exact ready
      | launch _ apart =>
          rw [before, negotiates] at apart
          cases apart
      | fifoPrepared phase | managerForked phase | managerStartFails phase | runs phase
      | runsExclusive phase | scans phase | restoreSkipped phase | restores phase
      | terminates phase | awaits phase | cleans phase | closesLock phase =>
          rw [before] at phase
          cases phase
      | manager step => cases step <;> cases before.symm.trans negotiates
      | parentDeath | stops | returnsAtOnce | stopReturns | forceKills | forceReturns =>
          cases before.symm.trans negotiates

/-- The supervisor restores the host only once it has begun to leave. -/
theorem leaves_kept (sound : LaunchSound world) (step : Step policy filter world label next)
    (changed : next.shutdown ≠ .restore) : leaving next.launch.phase = true := by
  have before : leaving world.launch.phase = true := by
    cases step with
    | restoreSkipped phase | restores phase | terminates phase | awaits phase | cleans phase
    | closesLock phase =>
        rw [phase]
        rfl
    | manager step =>
        apply sound.leaves
        cases step <;> exact changed
    | _ => exact sound.leaves changed
  rcases step.launch_step with same | ⟨_, moved⟩
  · rw [same]
    exact before
  · exact leaving_of_step moved before

/-- The lock is closed as the last step of the shutdown. -/
theorem closed_kept (sound : LaunchSound world) (step : Step policy filter world label next)
    (closed : next.holdsLock = false) : next.shutdown = .closeLock := by
  cases step with
  | closesLock _ _ shutdown => exact shutdown
  | cleans => rfl
  | restoreSkipped _ _ shutdown | restores _ _ shutdown | terminates _ _ shutdown
  | awaits _ _ shutdown =>
      have before := sound.closed closed
      rw [shutdown] at before
      cases before
  | manager step => cases step <;> exact sound.closed closed
  | _ => exact sound.closed closed

/-- A supervisor that prepares itself is not shutting down. -/
theorem early (sound : LaunchSound world) {remaining : List FailureStage}
    (phase : world.launch.phase = .prepare remaining) :
    ¬(world.shutdown = .cleanup ∨ world.shutdown = .closeLock) := by
  intro late
  have leaves := sound.leaves (by rcases late with late | late <;> simp [late])
  rw [phase] at leaves
  cases leaves

theorem kept (sound : LaunchSound world) (step : Step policy filter world label next) :
    LaunchSound next where
  order _ after := sound.order_kept step after
  started there _ after := sound.started_kept step there after
  ready ready := sound.ready_kept step ready
  awaited after := sound.awaited_kept step after
  leaves changed := sound.leaves_kept step changed
  closed closed := sound.closed_kept step closed

end LaunchSound

/-! ### Rules and the FIFO -/

/-- No rule of the network manager and no FIFO. -/
def Cleaned (world : World) : Prop := (∀ family, world.rules family = 0) ∧ world.fifo = false

/-- The network manager never has more than one rule of a family, and deletes them all on its way
out. -/
structure RulesSound (world : World) : Prop where
  bounded : ∀ family, world.rules family ≤ 1
  closing : ∀ pending, world.manager = .close pending → ∀ family ∉ pending, world.rules family = 0
  unlinking : world.manager = .unlink → ∀ family, world.rules family = 0
  exited : world.managerReady = true → world.manager = .exited → world.killed = false →
    Cleaned world
  done : world.shutdown = .cleanup ∨ world.shutdown = .closeLock →
    world.manager = .exited ∧ Cleaned world

/-- At first the host has no bypass rule of DawnShell. -/
theorem rulesSound_initial : RulesSound {} where
  bounded _ := Nat.zero_le _
  closing := nofun
  unlinking := nofun
  exited := nofun
  done late := by rcases late with late | late <;> cases late

/-- Deleting the bypass rule of one family adds no rule to any. -/
theorem deleteTailscaleBypassRule_le (rules : Family → Nat) (family other : Family) :
    deleteTailscaleBypassRule rules family other ≤ rules other := by
  rw [deleteTailscaleBypassRule, Function.update_apply]
  split
  next same =>
    subst same
    exact Nat.sub_le _ _
  next => exact Nat.le_refl _

/-- Where there is at most one rule of a family, a single deletion leaves none. -/
theorem deleteTailscaleBypassRule_self {rules : Family → Nat} (bounded : ∀ family, rules family ≤ 1)
    (family : Family) : deleteTailscaleBypassRule rules family family = 0 := by
  rw [deleteTailscaleBypassRule, Function.update_self]
  have one := bounded family
  omega

namespace RulesSound

/-- The manager never has more than one rule of a family in place, for it deletes before it adds. -/
theorem bounded_kept (sound : RulesSound world) (step : ManagerStep world next) (family : Family) :
    next.rules family ≤ 1 := by
  cases step with
  | clears | closes | drops =>
      exact (deleteTailscaleBypassRule_le _ _ _).trans (sound.bounded family)
  | @replaces added =>
      simp only [Function.update_apply]
      split
      · rw [deleteTailscaleBypassRule_self sound.bounded]
      · exact sound.bounded family
  | orphaned | guards | cleared | opens | openFails | reports | goesOn | keeps | wakes | leaves
  | closed | unlinks => exact sound.bounded family

/-- A manager that closes has deleted the rules of all families but those it has still to do. -/
theorem closing_kept (sound : RulesSound world) (step : ManagerStep world next)
    {pending : List Family} (closing : next.manager = .close pending) {family : Family}
    (outside : family ∉ pending) : next.rules family = 0 := by
  cases step with
  | leaves =>
      cases closing
      cases family <;> simp at outside
  | @closes deleted rest phase =>
      cases closing
      by_cases same : family = deleted
      · subst same
        exact deleteTailscaleBypassRule_self sound.bounded family
      · have before := sound.closing _ phase family (by simp [same, outside])
        have fewer := deleteTailscaleBypassRule_le world.rules deleted family
        simp only
        omega
  | keeps | drops | replaces =>
      simp only at closing
      split at closing <;> cases closing
  | orphaned | guards | clears | cleared | opens | openFails | reports | goesOn | wakes | closed
  | unlinks => cases closing

/-- When the manager comes to remove its files no rule of any family is left. -/
theorem unlinking_kept (sound : RulesSound world) (step : ManagerStep world next)
    (unlinking : next.manager = .unlink) (family : Family) : next.rules family = 0 := by
  cases step with
  | closed phase => exact sound.closing [] phase family List.not_mem_nil
  | keeps | drops | replaces =>
      simp only at unlinking
      split at unlinking <;> cases unlinking
  | orphaned | guards | clears | cleared | opens | openFails | reports | goesOn | wakes | leaves
  | closes | unlinks => cases unlinking

/-- A manager that had reported ready and exits has cleaned up behind it. -/
theorem exited_kept (sound : RulesSound world) (launch : LaunchSound world)
    (step : ManagerStep world next) (ready : next.managerReady = true)
    (exited : next.manager = .exited) : Cleaned next := by
  cases step with
  | unlinks phase => exact ⟨sound.unlinking phase, rfl⟩
  | orphaned phase | openFails phase =>
      have serves := launch.ready ready
      rw [phase] at serves
      cases serves
  | keeps | drops | replaces =>
      simp only at exited
      split at exited <;> cases exited
  | guards | clears | cleared | opens | reports | goesOn | wakes | leaves | closes | closed =>
      cases exited

/-- A network manager that has exited does nothing. -/
theorem not_exited (step : ManagerStep world next) : world.manager ≠ .exited := by
  intro exited
  cases step <;> simp_all

theorem of_manager (sound : RulesSound world) (launch : LaunchSound world)
    (step : ManagerStep world next) : RulesSound next where
  bounded := sound.bounded_kept step
  closing _ closing _ outside := sound.closing_kept step closing outside
  unlinking unlinking := sound.unlinking_kept step unlinking
  exited ready exited _ := sound.exited_kept launch step ready exited
  done late := by
    have same : next.shutdown = world.shutdown := by cases step <;> rfl
    exact absurd (sound.done (same ▸ late)).1 (not_exited step)

theorem kept (sound : RulesSound world) (launch : LaunchSound world)
    (step : Step policy filter world label next) : RulesSound next := by
  cases step with
  | manager step => exact sound.of_manager launch step
  | launch | networkReady | runs | runsExclusive | scans | closesLock | parentDeath | stops
  | returnsAtOnce | stopReturns | forceReturns =>
      exact ⟨sound.bounded, sound.closing, sound.unlinking, sound.exited, sound.done⟩
  | fifoPrepared phase =>
      have absent := launch.absent_of_prepare phase
      refine ⟨sound.bounded, sound.closing, sound.unlinking, ?_, ?_⟩
      · exact fun _ exited => nomatch absent.symm.trans exited
      · exact fun late => absurd late (launch.early phase)
  | managerForked phase =>
      exact ⟨sound.bounded, nofun, nofun, nofun, fun late => absurd late (launch.early phase)⟩
  | managerStartFails phase =>
      have absent := launch.absent_of_prepare phase
      refine ⟨sound.bounded, sound.closing, sound.unlinking, ?_, ?_⟩
      · exact fun _ exited => nomatch absent.symm.trans exited
      · exact fun late => absurd late (launch.early phase)
  | restoreSkipped | restores | terminates =>
      refine ⟨sound.bounded, sound.closing, sound.unlinking, sound.exited, ?_⟩
      rintro (late | late) <;> cases late
  | awaits phase alive _ ended =>
      refine ⟨sound.bounded, sound.closing, sound.unlinking, sound.exited, fun _ => ⟨ended, ?_⟩⟩
      -- the network manager was ready before the supervisor could come to run
      exact sound.exited (launch.awaited (by rw [phase]; rfl)) ended alive
  | cleans _ _ shutdown =>
      exact ⟨sound.bounded, sound.closing, sound.unlinking, sound.exited,
        fun _ => sound.done (.inl shutdown)⟩
  | forceKills =>
      refine ⟨sound.bounded, ?_, ?_, nofun, ?_⟩
      · intro pending closing
        simp only at closing
        split at closing <;> cases closing
      · intro unlinking
        simp only at unlinking
        split at unlinking <;> cases unlinking
      · intro late
        obtain ⟨exited, cleaned⟩ := sound.done late
        exact ⟨by simp [exited], cleaned⟩

end RulesSound

/-! ### Interfaces -/

/-- What the scans and the restoration of the launch have done to the interfaces. -/
structure UsbSound (policy : HostUsbPolicy) (filter : UsbDeviceFilter) (world : World) : Prop where
  scans : world.shutdown = .restore → Scans filter world.scanned world.usb
  shared : policy ≠ .exclusive → world.scanned = []
  restored : policy = .exclusive → world.shutdown ≠ .restore → ∃ usb last,
    Scans filter world.scanned usb ∧ Interaction.Runs (restoreExclusiveUsb usb) world.restored last

/-- At first nothing has been scanned, unbound or bound. -/
theorem usbSound_initial : UsbSound policy filter {} where
  scans _ := .none
  shared _ := rfl
  restored _ changed := absurd rfl changed

/-- A supervisor that has not left its loop has restored nothing. -/
theorem LaunchSound.unrestored (launch : LaunchSound world) {phase : Phase}
    (here : world.launch.phase = phase) (stays : leaving phase = false) :
    world.shutdown = .restore := by
  by_contra changed
  have leaves := launch.leaves changed
  rw [here, stays] at leaves
  cases leaves

theorem UsbSound.scan (sound : UsbSound policy filter world) (exclusive : policy = .exclusive)
    (unrestored : world.shutdown = .restore) {log : List UsbExchange} {usb : ExclusiveUsbState}
    (run : Interaction.Runs (reconcileExclusiveUsb filter world.usb) log usb)
    (shutdown : next.shutdown = world.shutdown) (scanned : next.scanned = world.scanned ++ log)
    (table : next.usb = usb) : UsbSound policy filter next where
  scans _ := by
    rw [scanned, table]
    exact (sound.scans unrestored).scan run
  shared shared := absurd exclusive shared
  restored _ changed := absurd (shutdown.trans unrestored) changed

theorem UsbSound.kept (sound : UsbSound policy filter world) (launch : LaunchSound world)
    (step : Step policy filter world label next) : UsbSound policy filter next := by
  cases step with
  | runsExclusive phase _ exclusive run =>
      exact sound.scan exclusive (launch.unrestored phase rfl) run rfl rfl rfl
  | scans phase _ exclusive run =>
      exact sound.scan exclusive (launch.unrestored phase rfl) run rfl rfl rfl
  | restoreSkipped _ _ _ shared => exact ⟨nofun, sound.shared, fun exclusive => absurd exclusive shared⟩
  | restores _ _ shutdown _ run =>
      exact ⟨nofun, sound.shared, fun _ _ => ⟨_, _, sound.scans shutdown, run⟩⟩
  | terminates _ _ shutdown | awaits _ _ shutdown | cleans _ _ shutdown =>
      exact ⟨nofun, sound.shared, fun exclusive _ => sound.restored exclusive (by simp [shutdown])⟩
  | manager step => cases step <;> exact ⟨sound.scans, sound.shared, sound.restored⟩
  | launch | fifoPrepared | managerForked | managerStartFails | networkReady | runs | closesLock
  | parentDeath | stops | returnsAtOnce | stopReturns | forceKills | forceReturns =>
      exact ⟨sound.scans, sound.shared, sound.restored⟩

/-! ### The end of a launch -/

/-- A supervisor ends with the status 0 only through its finish or through a failure whose code is 0. -/
theorem ended_of_step {launch later : Launch} {label : Readiness.Label}
    (step : Readiness.Step launch label later) (after : later.phase = .ended 0) :
    launch.phase = .ended 0 ∨ launch.phase = .finish ∨
      ∃ stage ∈ failing launch.phase, stage.exitCode = 0 := by
  cases step with
  | pass | reader | pollFails | readFails | shutdownKills | debianEnds => exact .inl after
  | supervisor moves =>
      simp only at after
      generalize launch.phase = before at moves
      cases moves with
      | finishes => exact .inr (.inl rfl)
      | ticksFail => split at after <;> cases after
      | _ => cases after
  | reports phase | reportLost phase =>
      rw [phase]
      exact .inr (.inr ⟨_, rfl, Phase.ended.inj after⟩)
  | forks =>
      simp only at after
      split at after <;> cases after
  | negotiated | kills | announces | announceBreaks | announceLost => cases after

/-- The process of the supervisor has ended. -/
def hasEnded : Phase → Bool
  | .ended _ | .brokenPipe => true
  | _ => false

/-- A supervisor that has ended stays ended. -/
theorem hasEnded_of_step {launch later : Launch} {label : Readiness.Label}
    (step : Readiness.Step launch label later) (before : hasEnded launch.phase = true) :
    later.phase = launch.phase := by
  cases step with
  | pass | reader | pollFails | readFails | shutdownKills | debianEnds => rfl
  | supervisor moves =>
      generalize launch.phase = phase at moves before
      cases moves with
      | namespacesFail phases =>
          simp at phases
          rcases phases with rfl | rfl <;> cases before
      | _ => cases before
  | negotiated _ phase | forks phase | kills phase | announces phase | announceBreaks phase
  | announceLost phase | reports phase | reportLost phase =>
      rw [phase] at before
      cases before

/-- The supervisor is gone when it has been killed or has come to its end. -/
theorem supervisorGone_iff :
    world.supervisorGone = true ↔ world.killed = true ∨ hasEnded world.launch.phase = true := by
  rw [World.supervisorGone, Bool.or_eq_true]
  exact Iff.rfl

/-- A group that has been killed stays killed. -/
theorem killed_kept (step : Step policy filter world label next) (killed : world.killed = true) :
    next.killed = true := by
  cases step with
  | forceKills => rfl
  | manager step => cases step <;> exact killed
  | _ => exact killed

/-- A supervisor that is no more does not come back. -/
theorem gone_kept (step : Step policy filter world label next) (gone : world.supervisorGone = true) :
    next.supervisorGone = true := by
  rw [supervisorGone_iff] at gone ⊢
  rcases gone with killed | ended
  · exact .inl (killed_kept step killed)
  · right
    rcases step.launch_step with same | ⟨_, moved⟩
    · rw [same]
      exact ended
    · rw [hasEnded_of_step moved ended]
      exact ended

/-- The lock has been given back, and how. -/
structure StopSound (world : World) : Prop where
  fails : ∀ stage ∈ failing world.launch.phase, stage.exitCode ≠ 0
  finished : world.launch.phase = .ended 0 → world.holdsLock = false
  returned : world.stop = .returned → world.lockFree = true

/-- At first nothing has been stopped and the lock is held. -/
theorem stopSound_initial : StopSound {} where
  fails := nofun
  finished := nofun
  returned := nofun

theorem holdsLock_kept (step : Step policy filter world label next) (closed : world.holdsLock = false) :
    next.holdsLock = false := by
  cases step with
  | closesLock => rfl
  | manager step => cases step <;> exact closed
  | _ => exact closed

namespace StopSound

/-- A supervisor that ends with the status 0 has closed its lock. -/
theorem finished_kept (sound : StopSound world) (step : Step policy filter world label next)
    (after : next.launch.phase = .ended 0) : next.holdsLock = false := by
  rcases step.launch_step with same | ⟨_, moved⟩
  · exact holdsLock_kept step (sound.finished (same ▸ after))
  · rcases ended_of_step moved after with before | before | ⟨stage, fails, code⟩
    · exact holdsLock_kept step (sound.finished before)
    · cases step with
      | closesLock => rfl
      | launch _ apart =>
          rw [before, after] at apart
          cases apart
      | fifoPrepared phase | managerForked phase | managerStartFails phase | networkReady phase
      | runs phase | runsExclusive phase => cases before.symm.trans phase
      | manager step => cases step <;> cases before.symm.trans after
      | scans | restoreSkipped | restores | terminates | awaits | cleans | parentDeath | stops
      | returnsAtOnce | stopReturns | forceKills | forceReturns => cases before.symm.trans after
    · exact absurd code (sound.fails stage fails)

/-- A stop that returns has found the lock free. -/
theorem returned_kept (sound : StopSound world) (step : Step policy filter world label next)
    (returned : next.stop = .returned) : next.lockFree = true := by
  have stays (free : world.lockFree = true) : next.lockFree = true := by
    rw [World.lockFree, Bool.or_eq_true, Bool.not_eq_true'] at free ⊢
    exact free.imp (holdsLock_kept step) (gone_kept step)
  cases step with
  | returnsAtOnce _ free | stopReturns _ free | forceReturns _ free => exact free
  | stops | forceKills => cases returned
  | manager step =>
      apply stays
      apply sound.returned
      cases step <;> exact returned
  | _ => exact stays (sound.returned returned)

theorem kept (sound : StopSound world) (launch : LaunchSound world)
    (step : Step policy filter world label next) : StopSound next where
  fails := by
    rcases step.launch_step with same | ⟨_, moved⟩
    · rw [same]
      exact sound.fails
    · exact failing_of_step moved launch.order sound.fails
  finished after := sound.finished_kept step after
  returned returned := sound.returned_kept step returned

end StopSound

/-! ### Every run -/

structure HostSound (policy : HostUsbPolicy) (filter : UsbDeviceFilter) (world : World) : Prop where
  launch : LaunchSound world
  rules : RulesSound world
  usb : UsbSound policy filter world
  stop : StopSound world

/-- All the invariants hold of the world in which a supervisor begins. -/
theorem hostSound_initial : HostSound policy filter {} :=
  ⟨launchSound_initial, rulesSound_initial, usbSound_initial, stopSound_initial⟩

/-- Every step of every party keeps the four invariants; the one about the launch is what the others
rest on. -/
theorem HostSound.kept (sound : HostSound policy filter world)
    (step : Step policy filter world label next) : HostSound policy filter next where
  launch := sound.launch.kept step
  rules := sound.rules.kept sound.launch step
  usb := sound.usb.kept sound.launch step
  stop := sound.stop.kept sound.launch step

/-- In every state that a run reaches all the invariants hold. -/
theorem hostSound_of_run {trace : List (World × Label)} {last : World}
    (run : Run (Step policy filter) {} trace last) : HostSound policy filter last := by
  have always : Meets (fun _ _ => True) trace := fun _ _ => trivial
  exact run.invariant always hostSound_initial fun _ _ _ sound _ step => sound.kept step

/-- Once the lock is closed and unless a bind has failed, an interface that the scan unbound for the
last time and that stays without a driver has been bound to its old one again. -/
theorem HostSound.restores (sound : HostSound policy filter world) (closed : world.holdsLock = false)
    (succeed : BindsSucceed world) {name driver : Text} {before after : List UsbExchange}
    (scanned : world.scanned = before ++ ⟨.writeControl driver .unbind name, none⟩ :: after)
    (unattempted : Unattempted name after) (stays : Stays name after)
    (stayed : Stays name world.restored) :
    ⟨.writeControl driver .bind name, none⟩ ∈ world.restored := by
  have exclusive : policy = .exclusive := by
    by_contra shared
    have nothing := sound.usb.shared shared
    rw [scanned] at nothing
    simp at nothing
  have late : world.shutdown ≠ .restore := by
    rw [sound.launch.closed closed]
    nofun
  obtain ⟨usb, last, scans, run⟩ := sound.usb.restored exclusive late
  rw [scanned] at scans
  obtain ⟨failure, bound⟩ := mem_bindsOf.mp (restored_of_stays scans unattempted stays run stayed)
  rw [succeed driver name failure bound] at bound
  exact bound

/-- A supervisor that has closed the lock at the end of its own shutdown has undone everything. -/
theorem HostSound.undone (sound : HostSound policy filter world) (closed : world.holdsLock = false)
    (succeed : BindsSucceed world) : Undone world := by
  have late := sound.launch.closed closed
  have cleaned := (sound.rules.done (.inr late)).2
  exact ⟨fun _ _ _ _ => sound.restores closed succeed, cleaned.1, cleaned.2⟩

/-- The supervisor has ended before it came to its loop. -/
def World.startFailed (world : World) : Bool :=
  match world.launch.phase with
  | .ended code => code != 0
  | .brokenPipe => true
  | _ => false

/-- When a stop has returned, and neither a force-stop nor the failure of its own start has ended the
supervisor, everything that the launch has done to the host is undone. -/
theorem stop_undoes {trace : List (World × Label)} {last : World}
    (run : Run (Step policy filter) {} trace last) (returned : last.stop = .returned)
    (spared : last.killed = false) (started : last.startFailed = false)
    (succeed : BindsSucceed last) : Undone last := by
  have sound := hostSound_of_run run
  apply sound.undone _ succeed
  have free := sound.stop.returned returned
  rw [World.lockFree, Bool.or_eq_true, Bool.not_eq_true'] at free
  rcases free with closed | gone
  · exact closed
  · apply sound.stop.finished
    rw [supervisorGone_iff, spared] at gone
    rw [World.startFailed] at started
    cases phase : last.launch.phase with
    | ended code =>
        rw [phase] at started
        simp only [bne_eq_false_iff_eq] at started
        rw [started]
    | brokenPipe =>
        rw [phase] at started
        cases started
    | _ =>
        rw [phase] at gone
        rcases gone with gone | gone <;> cases gone

/-! ### A keyboard -/

def keyboardFilter : UsbDeviceFilter := [⟨0x046d, 0xc31c⟩]

/-- A launch that has taken the keyboard and routes around the tunnel. -/
def keyboardWorld : World :=
  { launch := { now := 3000, content := some .started, phase := .loop false, debian := true }
    manager := .watch
    managerReady := true
    fifo := true
    rules := fun family => if family = .v4 then 1 else 0
    usb := keyboardState
    scanned := keyboardScan }

/-- With one keyboard attached the supervisor comes to run along this trace. -/
theorem keyboard_launch :
    ∃ trace, Run (Step .exclusive keyboardFilter) {} trace keyboardWorld := by
  have r0 : Run (Step .exclusive keyboardFilter) {} [] {} := .start
  have r1 := r0.step (.launch (.supervisor .prepared) rfl fun _ => rfl)
  have r2 := r1.step (.launch (.supervisor .prepared) rfl fun _ => rfl)
  have r3 := r2.step (.launch (.supervisor .prepared) rfl fun _ => rfl)
  have r4 := r3.step (.launch (.supervisor .prepared) rfl fun _ => rfl)
  have r5 := r4.step (.launch (.supervisor .prepared) rfl fun _ => rfl)
  have r6 := r5.step (.fifoPrepared rfl rfl)
  have r7 := r6.step (.managerForked rfl rfl)
  have r8 := r7.step (.launch (.supervisor .helpersStarted) rfl fun _ => rfl)
  have r9 := r8.step (.launch (.supervisor .baseReady) rfl fun _ => rfl)
  have m0 := r9.step (.manager (.guards rfl rfl))
  have m1 := m0.step (.manager (.clears rfl))
  have m2 := m1.step (.manager (.clears rfl))
  have m3 := m2.step (.manager (.cleared rfl))
  have m4 := m3.step (.manager (.opens rfl))
  have m5 := m4.step (.manager (.reports rfl))
  have m6 := m5.step (.manager (.goesOn rfl rfl rfl))
  have m7 := m6.step (.manager (.replaces rfl))
  have m8 := m7.step (.manager (.keeps rfl))
  have s0 := m8.step (.networkReady rfl rfl rfl)
  have s1 := s0.step (.launch (.negotiated .systemd rfl) rfl fun _ => rfl)
  have s2 := s1.step (.launch (.supervisor .modeWritten) rfl fun _ => rfl)
  have s3 := s2.step (.launch (.supervisor .piped) rfl fun _ => rfl)
  have s4 := s3.step (.launch (.forks rfl) rfl fun _ => rfl)
  have s5 := s4.step (.launch (.supervisor .ticksRead) rfl fun _ => rfl)
  have s6 := s5.step (.launch (.supervisor .childWritten) rfl fun _ => rfl)
  have s7 := s6.step (.launch (.supervisor .executed) rfl fun _ => rfl)
  have s8 := s7.step (.launch (.pass 3000) rfl nofun)
  have s9 := s8.step (.launch (.supervisor (.graceOver (by decide))) rfl fun _ => rfl)
  have s10 := s9.step (.launch (.supervisor .graceProbed) rfl fun _ => rfl)
  have s11 := s10.step (.launch (.supervisor (.captures rfl)) rfl fun _ => rfl)
  have s12 := s11.step (.runsExclusive rfl rfl rfl (runs_of_replay keyboard_scan_runs))
  have s13 := s12.step (.launch (.announces rfl nofun) rfl fun _ => rfl)
  have s14 := s13.step (.launch (.supervisor .closes) rfl fun _ => rfl)
  refine ⟨_, s14.to (congrArg (fun rules => { keyboardWorld with rules }) ?_)⟩
  funext family
  cases family <;> rfl

/-- The restoration, when the mouse has been unplugged. -/
def keyboardRestore : List UsbExchange :=
  [ ⟨.lstatInterface mouseInterface, some enoent⟩,
    ⟨.lstatInterface keyboardInterface, none⟩,
    ⟨.readDriverLink keyboardInterface, none⟩,
    ⟨.writeControl keyboardDriver .bind keyboardInterface, none⟩ ]

/-- Along this log the restoration binds the keyboard again and passes over the mouse, which is no
longer there. -/
theorem keyboard_restore_runs :
    (restoreExclusiveUsb keyboardState).replay keyboardRestore = some {} := rfl

/-- The launch is stopped: the keyboard is given back, and neither the rule nor the FIFO is left. -/
theorem stop_undoes_keyboard :
    ∃ trace last, Run (Step .exclusive keyboardFilter) {} trace last ∧ last.stop = .returned ∧
      last.scanned = keyboardScan ∧ last.restored = keyboardRestore ∧ Undone last := by
  obtain ⟨trace, run⟩ := keyboard_launch
  have r0 := run.step (.stops rfl rfl)
  have r1 := r0.step (.launch (.supervisor .stops) rfl fun _ => rfl)
  have r2 := r1.step (.launch .debianEnds rfl nofun)
  have r3 := r2.step (.launch (.supervisor (.reaps rfl)) rfl fun _ => rfl)
  have r4 := r3.step (.restores rfl rfl rfl rfl (runs_of_replay keyboard_restore_runs))
  have r5 := r4.step (.terminates rfl rfl rfl)
  have r6 := r5.step (.manager (.wakes rfl))
  have r7 := r6.step (.manager (.leaves rfl (.inl rfl)))
  have r8 := r7.step (.manager (.closes rfl))
  have r9 := r8.step (.manager (.closes rfl))
  have r10 := r9.step (.manager (.closed rfl))
  have r11 := r10.step (.manager (.unlinks rfl))
  have r12 := r11.step (.awaits rfl rfl rfl rfl)
  have r13 := r12.step (.cleans rfl rfl rfl)
  have r14 := r13.step (.closesLock rfl rfl rfl)
  have r15 := r14.step (.stopReturns rfl rfl)
  have succeed : ∀ driver name failure,
      ⟨.writeControl driver .bind name, failure⟩ ∈ keyboardRestore → failure = none := by
    intro driver name failure bound
    simp [keyboardRestore] at bound
    exact bound.2
  exact ⟨_, _, r15, rfl, rfl, rfl, stop_undoes r15 rfl rfl rfl succeed⟩

/-- The same launch is ended by a force-stop, which leaves the keyboard without a driver, the rule and the
FIFO. -/
theorem force_stop_leaves_effects :
    ¬∀ policy filter trace last, Run (Step policy filter) {} trace last → last.stop = .returned →
      BindsSucceed last → Undone last := by
  intro undoes
  obtain ⟨trace, run⟩ := keyboard_launch
  have r0 := run.step (.forceKills rfl rfl)
  have r1 := r0.step (.forceReturns rfl rfl)
  have undone := undoes _ _ _ _ r1 rfl nofun
  have removed := undone.fifo
  cases removed

end DawnShell.Launcher.Host
