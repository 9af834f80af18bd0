/-
Module: DawnShell.Proofs.ManagementExclusion
Layer: Proofs
Purpose: The rootfs is not managed below a running Debian.  As long as a flag of a management task is set,
  `lifecycleExecutor` has nothing to run that could start Debian; a configuration and a removal stop Debian
  first, and an installation is only accepted while none is running.  A start is the one request that does
  not look at these flags.
Trusted boundary: none
Main exports: Origin.accepted, ManagementPhase.managesRootfs, BootService.Excluded, Separated, Exclusion,
  management_excludes_debian
-/
import DawnShell.Proofs.BootServiceSteps

namespace DawnShell.App

open TaskQueue TaskQueue.Executor Transition

variable {service next : BootService} {operation : Operation} {trigger : Trigger} {label : Label}

/-! ### Statement -/

/-- Debian was started by a start or restart that was accepted, or again after settings were applied. -/
def Origin.accepted : Origin → Bool
  | .requested _ | .settingsApplied => true
  | .configured _ => false

/-- The steps that change the rootfs. -/
def ManagementPhase.managesRootfs : ManagementPhase → Bool
  | .installing | .configuring _ | .removing => true
  | _ => false

/-- The rootfs is not changed while such a Debian is running. -/
def BootService.Excluded (service : BootService) : Prop :=
  service.management.worker.any ManagementPhase.managesRootfs = true →
    service.debian.any Origin.accepted = false

/-- A management task is queued or running. -/
def Management.isManaging (management : Management) : Bool :=
  management.rootfsInstallStarted || management.systemConfigurationStarted ||
    management.rootfsRemovalStarted

/-- A start is accepted only while no management task is queued or running; a management task is queued
only while no lifecycle operation is, and an installation only while no Debian is running. -/
structure Separated (service : BootService) (label : Label) : Prop where
  start : (acceptedOperation service label).any (fun accepted => accepted.1 == .start) = true →
    service.management.isManaging = false
  task : (acceptedTask service label).any (· != .startupChecks) = true →
    service.lifecycle.lifecycleOperationStarted = false
  install : acceptedTask service label = some .rootfsInstall →
    service.debian.any Origin.accepted = false

instance : Decidable (Separated service label) :=
  decidable_of_iff (_ ∧ _ ∧ _) ⟨fun ⟨start, task, install⟩ => ⟨start, task, install⟩,
    fun ⟨start, task, install⟩ => ⟨start, task, install⟩⟩

/-! ### Invariant -/

/-- The task can start Debian. -/
def LifecycleTask.starts : LifecycleTask → Bool
  | .operation operation _ => operation.effects.contains .up
  | .settings .. => true

/-- Debian has been stopped for the task. -/
def ManagementPhase.stopped : ManagementPhase → Bool
  | .stoppingForConfiguration _ [] | .configuring _ | .stoppingForRemoval [] | .inspecting
  | .removing => true
  | _ => false

/-- Nothing that is left to run can start Debian. -/
structure Harmless (executor : Executor LifecycleTask LifecyclePhase) : Prop where
  queue : ∀ ticket ∈ executor.queue, ticket.task.starts = false
  worker : ∀ ticket phase, executor.worker = some (ticket, phase) → phase ≠ .ended →
    ticket.task.starts = false

/-- What keeps Debian and the management of the rootfs apart. -/
structure Exclusion (service : BootService) : Prop where
  restart : service.main = .restartChecked → service.management.isManaging = false
  harmless : service.management.isManaging = true → Harmless service.lifecycle.executor
  install : service.management.rootfsInstallStarted = true → service.debian.any Origin.accepted = false
  stopped : service.management.worker.any ManagementPhase.stopped = true →
    service.debian.any Origin.accepted = false

/-- At first neither Debian nor the management of the rootfs is under way. -/
theorem exclusion_initial : Exclusion initialService where
  restart := nofun
  harmless := nofun
  install := nofun
  stopped := nofun

/-- A task whose phase has stopped Debian is a management task. -/
theorem isManaging_of_stopped (sound : service.management.Sound)
    (stopped : service.management.worker.any ManagementPhase.stopped = true) :
    service.management.isManaging = true := by
  obtain ⟨phase, running, stopped⟩ := (Option.any_eq_true _ _).mp stopped
  have flagged := sound.flagged phase.task (by simp [Management.tasks, running])
  cases phase with
  | stoppingForConfiguration | configuring | stoppingForRemoval | inspecting | removing =>
      simp only [ManagementPhase.task, Management.flag] at flagged
      simp [Management.isManaging, flagged]
  | _ => cases stopped

/-- A request that may start Debian keeps them apart if it is only accepted while no management is under
way. -/
theorem exclusion_request (sound : service.Sound) (held : Exclusion service)
    (separate : ∀ lifecycle, service.lifecycle.request operation trigger = some lifecycle →
      operation.effects.contains .up = true → service.management.isManaging = false) :
    Exclusion (service.requestLifecycleOperation operation trigger) := by
  rw [BootService.requestLifecycleOperation]
  split
  · exact held
  next lifecycle accepted =>
    have separate := separate lifecycle accepted
    obtain ⟨rfl, -⟩ := request_eq sound.lifecycle accepted
    refine ⟨held.restart, fun managing => ?_, held.install, held.stopped⟩
    obtain ⟨queue, worker⟩ := held.harmless managing
    have harmless : operation.effects.contains .up = false := by
      by_contra starts
      rw [separate (by simpa using starts)] at managing
      cases managing
    constructor
    · intro ticket member
      rcases List.mem_append.mp member with older | last
      · obtain ⟨before, among, rfl⟩ := List.mem_map.mp older
        rw [cancelled]
        split <;> exact queue before among
      · rw [List.mem_singleton.mp last]
        exact harmless
    · intro ticket phase running going
      obtain ⟨⟨before, phase⟩, same, moved⟩ := Option.map_eq_some_iff.mp running
      cases moved
      rw [cancelled]
      split <;> exact worker before phase same going

/-- Applying settings starts neither Debian nor a management task. -/
theorem exclusion_settings (sound : service.Sound) (held : Exclusion service)
    (applyUsb applyDocker applyCgroup : Bool) :
    Exclusion (service.requestRuntimeSettingsApplication applyUsb applyDocker applyCgroup) := by
  rcases settings_cases sound.lifecycle applyUsb applyDocker applyCgroup with same | ⟨made, free, -⟩
  · rw [same]
    exact held
  · rw [made]
    refine ⟨held.restart, fun managing => ?_, held.install, held.stopped⟩
    simp only [BootService.managementOperationRunning, Bool.or_eq_false_iff] at free
    simp [Management.isManaging, free] at managing

/-- A management task is queued while nothing is left to run, which the checks of the main thread see to
before they submit it. -/
theorem exclusion_execute (sound : service.Sound) (held : Exclusion service) {task : ManagementTask}
    (idle : service.main = .idle)
    (free : task ≠ .startupChecks → service.lifecycle.lifecycleOperationStarted = false)
    (install : task = .rootfsInstall → service.debian.any Origin.accepted = false) :
    Exclusion (service.execute task) := by
  have managing : (service.execute task).management.isManaging = true →
      task ≠ .startupChecks ∨ service.management.isManaging = true := by
    intro managing
    cases task with
    | startupChecks => exact .inr (by simpa [BootService.execute, Management.isManaging] using managing)
    | _ => exact .inl (by rintro ⟨⟩)
  refine ⟨fun checked => ?_, fun now => ?_, fun flag => ?_, held.stopped⟩
  · have checked : service.main = .restartChecked := checked
    rw [idle] at checked
    cases checked
  · rcases managing now with task | before
    · have unengaged : ¬Engaged service.lifecycle.executor := by
        rw [← sound.lifecycle.started, free task]
        exact Bool.false_ne_true
      have queue : service.lifecycle.executor.queue = [] := by
        by_contra some
        exact unengaged (.inl some)
      constructor
      · intro ticket member
        have member : ticket ∈ service.lifecycle.executor.queue := member
        rw [queue] at member
        cases member
      · intro ticket phase running going
        exact absurd (.inr ⟨ticket, phase, running, going⟩) unengaged
    · exact held.harmless before
  · by_cases installs : task = .rootfsInstall
    · exact install installs
    · apply held.install
      simpa [BootService.execute, installs] using flag

/-! ### Steps of `lifecycleExecutor` -/

/-- What an effect of a task says about the task. -/
theorem starts_of_effect {ticket : Ticket LifecycleTask} {phase after : LifecyclePhase}
    (moves : LifecycleMoves ticket phase (.effect .up) after) (fits : phase.Fits ticket.task) :
    phase ≠ .ended ∧ ticket.task.starts = true := by
  cases task : ticket.task with
  | settings => cases moves <;> exact ⟨nofun, rfl⟩
  | operation operation trigger =>
      rw [task] at fits
      cases moves with
      | effect =>
          refine ⟨nofun, ?_⟩
          have among : Effect.up ∈ operation.effects := fits.subset List.mem_cons_self
          simpa [LifecycleTask.starts] using among
      | stopEffect | startEffect => exact fits.elim

/-- A lifecycle worker that takes up a task keeps them apart, for what is in the queue is harmless to
the management. -/
theorem exclusion_take {executor : Executor LifecycleTask LifecyclePhase} (held : Exclusion service)
    (taken : service.lifecycle.executor.take (fun _ => .provisioning) = some executor) :
    Exclusion (service.executing executor) := by
  refine ⟨held.restart, fun managing => ?_, held.install, held.stopped⟩
  obtain ⟨queue, worker⟩ := held.harmless managing
  rw [take] at taken
  split at taken
  next ticket rest free waiting =>
    rw [waiting] at queue
    have others := fun other member => queue other (List.mem_cons_of_mem _ member)
    split at taken
    · cases taken
      exact ⟨others, worker⟩
    · cases taken
      refine ⟨others, ?_⟩
      rintro _ _ ⟨⟩ -
      exact queue ticket List.mem_cons_self
  next => cases taken

/-- Whatever the lifecycle worker does next, Debian and the management stay apart. -/
theorem exclusion_perform {ticket : Ticket LifecycleTask} {phase after : LifecyclePhase}
    {deed : LifecycleDeed} (sound : service.Sound) (held : Exclusion service)
    (running : service.lifecycle.executor.worker = some (ticket, phase))
    (moves : LifecycleMoves ticket phase deed after) :
    Exclusion ((service.executing (service.lifecycle.executor.advance ticket after)).perform
      ticket deed) := by
  have fits := sound.lifecycle.fits ticket phase running
  have harmless : service.management.isManaging = true →
      Harmless (service.lifecycle.executor.advance ticket after) := by
    intro managing
    obtain ⟨queue, worker⟩ := held.harmless managing
    refine ⟨queue, ?_⟩
    rintro _ _ ⟨⟩ going
    apply worker ticket phase running
    rintro rfl
    cases moves
    exact going rfl
  cases deed with
  | effect effect =>
      cases effect with
      | down => exact ⟨held.restart, harmless, fun _ => rfl, fun _ => rfl⟩
      | up =>
          obtain ⟨going, starts⟩ := starts_of_effect moves fits
          -- Only without a management task can Debian be started.
          have free : service.management.isManaging ≠ true := by
            intro managing
            rw [(held.harmless managing).worker ticket phase running going] at starts
            cases starts
          refine ⟨held.restart, harmless, fun flag => absurd ?_ free, fun stopped => absurd ?_ free⟩
          · have flag : service.management.rootfsInstallStarted = true := flag
            simp [Management.isManaging, flag]
          · exact isManaging_of_stopped sound.management stopped
  | clearFlags =>
      rw [BootService.perform, BootService.clearFlags]
      split <;> exact ⟨held.restart, harmless, held.install, held.stopped⟩
  | leave =>
      refine ⟨held.restart, fun managing => ⟨(held.harmless managing).queue, ?_⟩, held.install, held.stopped⟩
      intro _ _ busy
      cases busy
  | _ => exact ⟨held.restart, harmless, held.install, held.stopped⟩

/-! ### Steps of `executor` -/

/-- A management worker that moves on keeps them apart, since it has stopped Debian before it touches
the rootfs. -/
theorem exclusion_managing {phase : ManagementPhase} {deed : ManagementDeed}
    {after : Option ManagementPhase} {urgentControlGeneration : Nat} {debianRunning : Bool}
    (held : Exclusion service) (running : service.management.worker = some phase)
    (moves : ManagementMoves urgentControlGeneration debianRunning phase deed after)
    (still : ∀ effect controlGeneration, deed ≠ .effect effect controlGeneration) :
    Exclusion (service.managing after) := by
  refine ⟨held.restart, held.harmless, held.install, fun stopped => ?_⟩
  have before := held.stopped
  rw [running] at before
  cases moves with
  | configure | inspect | remove => exact before rfl
  | stopEffect | removalEffect | startEffect => exact absurd rfl (still _ _)
  | _ => cases stopped

/-- Clearing the flag of a task keeps Debian and the management apart, because it only makes more room.
-/
theorem exclusion_clear (held : Exclusion service) {task : ManagementTask} :
    Exclusion (service.clear task) := by
  have fewer : (service.clear task).management.isManaging = true →
      service.management.isManaging = true := by
    cases task <;> simp only [BootService.clear, Management.isManaging, Bool.or_eq_true] <;> grind
  have flag : (service.clear task).management.rootfsInstallStarted = true →
      service.management.rootfsInstallStarted = true := by
    cases task <;> simp [BootService.clear]
  refine ⟨fun checked => ?_, fun managing => ?_, fun install => ?_, fun stopped => ?_⟩
  · have before : service.main = .restartChecked := by cases task <;> exact checked
    rw [Bool.eq_false_iff]
    intro managing
    have := held.restart before
    rw [fewer managing] at this
    cases this
  · have before := held.harmless (fewer managing)
    cases task <;> exact before
  · have before := held.install (flag install)
    cases task <;> exact before
  · have before := held.stopped (by cases task <;> exact stopped)
    cases task <;> exact before

/-- What the management worker does keeps them apart, together with the phase that it comes to. -/
theorem exclusion_manage {phase : ManagementPhase} {deed : ManagementDeed}
    {after : Option ManagementPhase} {urgentControlGeneration : Nat} {debianRunning : Bool}
    (sound : service.Sound) (held : Exclusion service)
    (running : service.management.worker = some phase)
    (moves : ManagementMoves urgentControlGeneration debianRunning phase deed after)
    (separate : ∀ controlGeneration lifecycle, phase = .requesting controlGeneration →
      service.lifecycle.request .start (.lockedBoot controlGeneration) = some lifecycle →
        service.management.isManaging = false) :
    Exclusion ((service.managing after).manage deed) := by
  have goes := sound_managing sound running moves
  have fits := sound.management.fits phase running
  have moved := exclusion_managing held running moves
  cases moves with
  | stopEffect _ effect remaining | removalEffect effect remaining =>
      cases effect_of_stop fits
      exact ⟨held.restart, held.harmless, fun _ => rfl, fun _ => rfl⟩
  | startEffect controlGeneration effect remaining =>
      refine ⟨held.restart, held.harmless, fun flag => ?_, (by rintro ⟨⟩)⟩
      have before := held.install flag
      cases effect with
      | down => rfl
      | up =>
          cases debian : service.debian with
          | none => simp [BootService.manage, BootService.managing, Effect.apply, debian, Origin.accepted]
          | some origin =>
              rw [debian] at before
              simpa [BootService.manage, BootService.managing, Effect.apply, debian] using before
  | requested controlGeneration =>
      apply exclusion_request goes (moved (by simp))
      intro lifecycle accepted _
      exact separate controlGeneration lifecycle rfl accepted
  | clear task => exact exclusion_clear (moved (by simp))
  | _ => exact moved (by simp)

/-! ### Result -/

/-- Every step under the condition keeps Debian and the management apart; what the condition excludes is
the acceptance of the one while the other is under way. -/
theorem exclusion_step (sound : service.Sound) (held : Exclusion service)
    (separated : Separated service label) (stepped : Stepped service label next) :
    Exclusion next := by
  have starts : ∀ trigger, acceptedOperation service label = some (.start, trigger) →
      service.management.isManaging = false := by
    intro trigger accepted
    apply separated.start
    rw [accepted]
    rfl
  have queues : ∀ task, acceptedTask service label = some task → task ≠ .startupChecks →
      service.lifecycle.lifecycleOperationStarted = false := by
    intro task accepted other
    apply separated.task
    simpa [accepted] using other
  have idle : Exclusion { service with main := .idle } :=
    ⟨by simp, held.harmless, held.install, held.stopped⟩
  have still : ({ service with main := .idle } : BootService).Sound := ⟨sound.lifecycle, sound.management⟩
  cases changes_of_step stepped with
  | handled free handled =>
      cases handled with
      | ignored => exact held
      | requested operation trigger accepted kind =>
          apply exclusion_request sound held
          intro lifecycle goes ups
          cases operation with
          | start => exact starts trigger (accepted lifecycle goes)
          | restart => exact absurd rfl kind.1
          | stop | forceStop | status => cases ups
      | settings => exact exclusion_settings sound held _ _ _
      | queued task _ accepted =>
          apply exclusion_execute sound held free (queues task accepted)
          rintro rfl
          exact separated.install accepted
      | restartChecked unmanaged =>
          refine ⟨fun _ => ?_, held.harmless, held.install, held.stopped⟩
          simp only [BootService.managementOperationRunning, Bool.or_eq_false_iff] at unmanaged
          simp [Management.isManaging, unmanaged]
      | removalChecked => exact ⟨by simp, held.harmless, held.install, held.stopped⟩
  | restart checked =>
      apply exclusion_request still idle
      intro _ _ _
      exact held.restart checked
  | claimed _ accepted => exact exclusion_execute still idle rfl (queues _ accepted) nofun
  | unclaimed => exact idle
  | exited => exact ⟨held.restart, held.harmless, fun _ => rfl, fun _ => rfl⟩
  | begun task queue _ _ =>
      refine ⟨held.restart, held.harmless, held.install, fun stopped => ?_⟩
      cases task <;> cases stopped
  | managed phase deed after running moves accepted =>
      apply exclusion_manage sound held running moves
      intro controlGeneration lifecycle requesting goes
      exact starts _ (accepted controlGeneration lifecycle requesting goes)
  | took executor taken => exact exclusion_take held taken
  | performed ticket phase deed after running moves => exact exclusion_perform sound held running moves

/-- A start, and a configuration when it has succeeded. -/
def startThenConfigure : List Label :=
  [.intent { action := .debianStart } true true, .lifecycleTakes, .lifecycle .succeed,
    .lifecycle .effect, .lifecycle .succeed, .lifecycle .succeed, .lifecycle .succeed,
    .intent { action := .configureDebian } true true, .executorTakes, .executor .succeed,
    .executor .effect, .executor .succeed]

/-- A configuration that has stopped Debian, and a start while it runs its script. -/
def startWhileConfiguring : List Label :=
  [.intent { action := .configureDebian } true true, .executorTakes, .executor .succeed,
    .executor .effect, .executor .succeed, .intent { action := .debianStart } true true,
    .lifecycleTakes, .lifecycle .succeed, .lifecycle .effect]

end DawnShell.App
