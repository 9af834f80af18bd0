/-
Module: DawnShell.Proofs.BusyFlags
Layer: Proofs
Purpose: No flag of the boot service stays set when nothing is left to run.  A set flag has a task that
  will clear it.  The one exception are the Docker settings, whose flag is cleared by the task alone: when
  a stop cancels the task before it begins, nobody clears it.
Trusted boundary: none
Main exports: BootService.Idle, DockerBegun, FlagsHeld, flags_never_leak
-/
import DawnShell.Proofs.BootServiceSteps

namespace DawnShell.App

open TaskQueue TaskQueue.Executor Transition

variable {service next : BootService} {operation : Operation} {trigger : Trigger} {label : Label}

/-! ### Statement -/

/-- Both executors are idle and no task is queued. -/
structure BootService.Idle (service : BootService) : Prop where
  executor : service.management.tasks = []
  lifecycleExecutor : service.lifecycle.executor.tickets = []

instance : Decidable service.Idle :=
  decidable_of_iff (service.management.tasks = [] ∧ service.lifecycle.executor.tickets = [])
    ⟨fun idle => ⟨idle.1, idle.2⟩, fun idle => ⟨idle.1, idle.2⟩⟩

/-- No stop is accepted while a task with Docker settings waits to begin. -/
def DockerBegun (service : BootService) (label : Label) : Prop :=
  acceptsStop service label = true → ∀ ticket ∈ service.lifecycle.executor.queue,
    ticket.cancelled = false → ticket.task.appliesDocker = false

instance : Decidable (DockerBegun service label) :=
  inferInstanceAs (Decidable (_ → _))

/-! ### Invariant -/

/-- A task is left that will clear the flag of the Docker settings. -/
def ClearsDocker (executor : Executor LifecycleTask LifecyclePhase) : Prop :=
  (∃ ticket ∈ executor.queue, ticket.cancelled = false ∧ ticket.task.appliesDocker = true) ∨
    ∃ ticket phase, executor.worker = some (ticket, phase) ∧ ticket.task.appliesDocker = true ∧
      phase ≠ .ending ∧ phase ≠ .ended

/-- Every flag that is set has a task that will clear it. -/
structure FlagsHeld (service : BootService) : Prop where
  docker : service.dockerPolicyStarted = true → ClearsDocker service.lifecycle.executor
  restart : service.main = .restartChecked → service.dockerPolicyStarted = false
  management : ∀ task, task ≠ .startupChecks → service.management.flag task = true →
    task ∈ service.management.tasks

/-- A request that cancels no task with Docker settings keeps a task for each flag: what it cancels
carries no flag, and what it submits sets none. -/
theorem flagsHeld_request (sound : service.Sound) (held : FlagsHeld service)
    (spares : ∀ lifecycle, service.lifecycle.request operation trigger = some lifecycle →
      service.dockerPolicyStarted = true → operation.urgent = true →
      ∀ ticket ∈ service.lifecycle.executor.queue, ticket.cancelled = false →
        ticket.task.appliesDocker = false) :
    FlagsHeld (service.requestLifecycleOperation operation trigger) := by
  rw [BootService.requestLifecycleOperation]
  split
  · exact held
  next lifecycle accepted =>
    obtain ⟨same, urgent⟩ := request_eq sound.lifecycle accepted
    refine ⟨fun flag => ?_, held.restart, held.management⟩
    rcases held.docker flag with ⟨ticket, member, going, docker⟩ | ⟨ticket, phase, running, docker, early⟩
    · have some : service.lifecycle.executor.tickets ≠ [] :=
        List.ne_nil_of_mem (List.mem_append_right _ member)
      rw [spares _ accepted flag (urgent some) ticket member going] at docker
      cases docker
    · -- A task that runs goes on, cancelled or not.
      refine .inr ⟨cancelled service.lifecycle.lifecycleRequestId ticket, phase, ?_, ?_, early⟩
      · simp [same, Lifecycle.enqueue, submit, cancel, running]
      · rw [cancelled]
        split <;> exact docker

/-- A request to apply settings sets the Docker flag together with the task that is going to clear it.
-/
theorem flagsHeld_settings (sound : service.Sound) (held : FlagsHeld service)
    (idle : service.main = .idle) (applyUsb applyDocker applyCgroup : Bool) :
    FlagsHeld (service.requestRuntimeSettingsApplication applyUsb applyDocker applyCgroup) := by
  rcases settings_cases sound.lifecycle applyUsb applyDocker applyCgroup with same | ⟨made, free, _⟩
  · rw [same]
    exact held
  · rw [made]
    refine ⟨fun flag => .inl ?_, fun checked => ?_, held.management⟩
    · have unset : service.dockerPolicyStarted = false := by
        simp only [BootService.managementOperationRunning, Bool.or_eq_false_iff] at free
        exact free.2
      have docker : applyDocker = true := by simpa [unset] using flag
      exact ⟨_, List.mem_append_right _ (List.mem_singleton_self _), rfl, docker⟩
    · rw [idle] at checked
      cases checked

/-- A worker that takes up a task does so before anything in it could be cancelled, so that the flag
still has its task. -/
theorem flagsHeld_take {executor : Executor LifecycleTask LifecyclePhase} (held : FlagsHeld service)
    (taken : service.lifecycle.executor.take (fun _ => .provisioning) = some executor) :
    FlagsHeld (service.executing executor) := by
  refine ⟨fun flag => ?_, held.restart, held.management⟩
  have clears := held.docker flag
  rw [take] at taken
  split at taken
  next ticket rest free waiting =>
    have waits : ∃ other ∈ ticket :: rest, other.cancelled = false ∧ other.task.appliesDocker = true := by
      rcases clears with waits | ⟨_, _, running, _⟩
      · rwa [waiting] at waits
      · rw [free] at running
        cases running
    obtain ⟨other, member, going, docker⟩ := waits
    split at taken
    next dropped =>
      cases taken
      rcases List.mem_cons.mp member with rfl | behind
      · rw [dropped] at going
        cases going
      · exact .inl ⟨other, behind, going, docker⟩
    next =>
      cases taken
      rcases List.mem_cons.mp member with rfl | behind
      · exact .inr ⟨other, .provisioning, rfl, docker, (by rintro ⟨⟩), (by rintro ⟨⟩)⟩
      · exact .inl ⟨other, behind, going, docker⟩
  next => cases taken

/-- A task with Docker settings clears the flag before it comes to its last block. -/
theorem LifecycleMoves.docker {ticket : Ticket LifecycleTask} {phase after : LifecyclePhase}
    {deed : LifecycleDeed} (moves : LifecycleMoves ticket phase deed after)
    (fits : phase.Fits ticket.task) (docker : ticket.task.appliesDocker = true) :
    deed = .clearDocker ∨ phase = .ending ∨ phase = .ended ∨ (after ≠ .ending ∧ after ≠ .ended) := by
  cases moves with
  | clearDocker => exact .inl rfl
  | clearFlags => exact .inr (.inl rfl)
  | leave => exact .inr (.inr (.inl rfl))
  | unprepared task =>
      rw [task] at docker
      cases docker
  | complete | failed =>
      cases task : ticket.task <;> rw [task] at fits docker
      · cases docker
      · exact fits.elim
  | _ => exact .inr (.inr (.inr ⟨nofun, nofun⟩))

/-- Whatever the lifecycle worker does next, a flag that is set afterwards still has a task that will
clear it. -/
theorem flagsHeld_perform {ticket : Ticket LifecycleTask} {phase after : LifecyclePhase}
    {deed : LifecycleDeed} (sound : service.Sound) (held : FlagsHeld service)
    (running : service.lifecycle.executor.worker = some (ticket, phase))
    (moves : LifecycleMoves ticket phase deed after) :
    FlagsHeld ((service.executing (service.lifecycle.executor.advance ticket after)).perform
      ticket deed) := by
  have fits := sound.lifecycle.fits ticket phase running
  -- Whoever will clear the flag has not done so in this step.
  have clears : deed ≠ .clearDocker → service.dockerPolicyStarted = true →
      ClearsDocker (service.lifecycle.executor.advance ticket after) := by
    intro other flag
    rcases held.docker flag with waits | ⟨_, _, same, docker, early⟩
    · exact .inl waits
    · rw [running] at same
      cases same
      rcases moves.docker fits docker with now | now | now | later
      · exact absurd now other
      · exact absurd now early.1
      · exact absurd now early.2
      · exact .inr ⟨ticket, after, rfl, docker, later⟩
  cases deed with
  | clearDocker =>
      refine ⟨fun flag => ?_, fun checked => ?_, held.management⟩
      · obtain ⟨flag, spared⟩ := Bool.and_eq_true_iff.mp flag
        rcases held.docker flag with waits | ⟨_, _, same, docker, _⟩
        · exact .inl waits
        · rw [running] at same
          cases same
          simp [docker] at spared
      · simp [BootService.perform, BootService.executing, held.restart checked]
  | clearFlags =>
      rw [BootService.perform, BootService.clearFlags]
      split <;> exact ⟨clears (by rintro ⟨⟩), held.restart, held.management⟩
  | leave =>
      refine ⟨fun flag => ?_, held.restart, held.management⟩
      rcases held.docker flag with waits | ⟨_, _, same, _, early⟩
      · exact .inl waits
      · rw [running] at same
        cases same
        cases moves
        exact absurd rfl early.2
  | _ => exact ⟨clears (by rintro ⟨⟩), held.restart, held.management⟩

/-- The flag of a task of `executor` is cleared when the task is over; until then the task is in the
queue or with the worker. -/
theorem management_held {phase : ManagementPhase} {deed : ManagementDeed}
    {after : Option ManagementPhase} {debianRunning : Bool} {urgentControlGeneration : Nat}
    (held : FlagsHeld service) (running : service.management.worker = some phase)
    (moves : ManagementMoves urgentControlGeneration debianRunning phase deed after) :
    ∀ task, task ≠ .startupChecks →
      ((service.managing after).manage deed).management.flag task = true →
      task ∈ ((service.managing after).manage deed).management.tasks := by
  intro task other flag
  have tasks : service.management.tasks = phase.task :: service.management.queue := by
    simp [Management.tasks, running]
  cases moves with
  | requested =>
      rw [BootService.manage, requestLifecycleOperation_management] at flag ⊢
      have member := held.management task other flag
      rw [tasks] at member
      exact (List.mem_cons.mp member).resolve_left other
  | abandoned =>
      have member := held.management task other flag
      rw [tasks] at member
      exact (List.mem_cons.mp member).resolve_left other
  | clear cleared =>
      have apart : task ≠ cleared := by
        intro same
        subst same
        cases task with
        | startupChecks => exact other rfl
        | _ => cases flag
      have before : service.management.flag task = true := by
        cases cleared <;> cases task <;> first | exact flag | exact absurd rfl apart
      have member := held.management task other before
      rw [tasks] at member
      have queued := (List.mem_cons.mp member).resolve_left apart
      cases cleared <;> exact queued
  | _ =>
      have member := held.management task other flag
      rw [tasks] at member
      exact member

/-- Every step under the condition keeps a task for each flag that is set: the only step that could lose
one is a cancellation of settings that have not begun. -/
theorem flagsHeld_step (sound : service.Sound) (held : FlagsHeld service)
    (begun : DockerBegun service label) (stepped : Stepped service label next) : FlagsHeld next := by
  have queued : ∀ {service : BootService} {task : ManagementTask}, FlagsHeld service →
      FlagsHeld (service.execute task) := by
    intro service task held
    refine ⟨held.docker, held.restart, fun other apart flag => ?_⟩
    have tasks : (service.execute task).management.tasks = service.management.tasks ++ [task] := by
      simp [BootService.execute, Management.tasks]
    rw [tasks, List.mem_append, List.mem_singleton]
    have before : service.management.flag other = true ∨ task = other := by
      cases other <;> simpa [BootService.execute, Management.flag] using flag
    exact before.imp (held.management other apart) Eq.symm
  have idle : FlagsHeld { service with main := .idle } := ⟨held.docker, by simp, held.management⟩
  cases changes_of_step stepped with
  | handled free handled =>
      cases handled with
      | ignored => exact held
      | requested operation trigger accepted kind =>
          apply flagsHeld_request sound held
          intro lifecycle goes _ urgent
          apply begun
          rw [acceptsStop, accepted lifecycle goes]
          cases operation with
          | stop | forceStop => rfl
          | restart => exact absurd rfl kind.1
          | start | status => cases urgent
      | settings => exact flagsHeld_settings sound held free _ _ _
      | queued => exact queued held
      | restartChecked free =>
          refine ⟨held.docker, fun _ => ?_, held.management⟩
          simp only [BootService.managementOperationRunning, Bool.or_eq_false_iff] at free
          exact free.2
      | removalChecked => exact ⟨held.docker, by simp, held.management⟩
  | restart checked =>
      have unset := held.restart checked
      have before : ({ service with main := .idle } : BootService).Sound :=
        ⟨sound.lifecycle, sound.management⟩
      apply flagsHeld_request before idle
      intro lifecycle _ flag
      exact absurd flag (by simp [unset])
  | claimed => exact queued idle
  | unclaimed => exact idle
  | exited => exact ⟨held.docker, held.restart, held.management⟩
  | begun task queue free waiting =>
      refine ⟨held.docker, held.restart, fun other apart flag => ?_⟩
      have member := held.management other apart flag
      simpa [Management.tasks, free, waiting] using member
  | managed phase deed after running moves =>
      have management := management_held held running moves
      cases deed with
      | requestStart controlGeneration =>
          rw [BootService.manage, requestLifecycleOperation_management] at management
          have before : FlagsHeld (service.managing after) := ⟨held.docker, held.restart, management⟩
          apply flagsHeld_request (sound_managing sound running moves) before
          intro _ _ _ urgent
          cases urgent
      | clear task => cases task <;> exact ⟨held.docker, held.restart, management⟩
      | _ => exact ⟨held.docker, held.restart, management⟩
  | took executor taken => exact flagsHeld_take held taken
  | performed ticket phase deed after running moves => exact flagsHeld_perform sound held running moves

/-! ### Result -/

/-- No flag is set when the service is created. -/
theorem flagsHeld_initial : FlagsHeld initialService where
  docker := nofun
  restart := nofun
  management task other flag := by
    cases task <;> cases flag

/-- In a run in which no stop is accepted while Docker settings wait, no flag is left set when both
executors are idle, and nothing is rejected as busy. -/
theorem flags_never_leak {trace : List (BootService × Label)} {last : BootService}
    (run : Run Stepped initialService trace last) (meets : Meets DockerBegun trace) (idle : last.Idle) :
    last.lifecycle.lifecycleOperationStarted = false ∧ last.dockerPolicyStarted = false ∧
      last.lifecycle.activeLifecycleOperation = none ∧ last.managementOperationRunning = false ∧
      last.lifecycle.isBusy = false := by
  obtain ⟨sound, held⟩ : last.Sound ∧ FlagsHeld last := by
    apply run.invariant meets ⟨sound_initial, flagsHeld_initial⟩
    intro service label next ⟨sound, held⟩ begun stepped
    exact ⟨sound_step sound stepped, flagsHeld_step sound held begun stepped⟩
  have queue : last.lifecycle.executor.queue = [] := (List.append_eq_nil_iff.mp idle.lifecycleExecutor).2
  have worker : last.lifecycle.executor.worker = none := by
    simpa using (List.append_eq_nil_iff.mp idle.lifecycleExecutor).1
  have started : last.lifecycle.lifecycleOperationStarted = false := by
    rw [Bool.eq_false_iff, Ne, sound.lifecycle.started]
    simp [Engaged, queue, worker]
  have docker : last.dockerPolicyStarted = false := by
    by_contra set
    rcases held.docker (by simpa using set) with ⟨_, member, _⟩ | ⟨_, _, running, _⟩
    · rw [queue] at member
      cases member
    · rw [worker] at running
      cases running
  have unset : ∀ task, task ≠ .startupChecks → last.management.flag task = false := by
    intro task other
    by_contra set
    have member := held.management task other (by simpa using set)
    rw [idle.executor] at member
    cases member
  refine ⟨started, docker, sound.lifecycle.active started, ?_, ?_⟩
  · have install := unset .rootfsInstall (by rintro ⟨⟩)
    have configuration := unset .systemConfiguration (by rintro ⟨⟩)
    have removal := unset .rootfsRemoval (by rintro ⟨⟩)
    simp only [Management.flag] at install configuration removal
    simp [BootService.managementOperationRunning, install, configuration, removal, docker]
  · rw [Bool.eq_false_iff, Ne, isBusy_iff sound.lifecycle]
    exact not_not.mpr idle.lifecycleExecutor

/-- An intent of an enabled service with an unlocked user. -/
def unlockedIntent (intent : Intent) : Label := .intent intent true true

/-- A stop cancels a start that waits, and a force-stop interrupts Docker settings that have begun. -/
def interruptDocker : List Label :=
  [ unlockedIntent { action := .debianStart }, unlockedIntent { action := .debianStop },
    .lifecycleTakes, .lifecycleTakes, .lifecycle .succeed, .lifecycle .effect, .lifecycle .succeed,
    .lifecycle .succeed, .lifecycle .succeed,
    unlockedIntent { action := .applyRuntimeSettings, applyDocker := true }, .lifecycleTakes,
    .lifecycle .succeed, unlockedIntent { action := .debianForceStop }, .lifecycle .fail,
    .lifecycle .succeed, .lifecycle .succeed, .lifecycle .succeed, .lifecycle .succeed,
    .lifecycleTakes, .lifecycle .succeed, .lifecycle .effect, .lifecycle .succeed,
    .lifecycle .succeed, .lifecycle .succeed ]

/-- Docker settings that a stop cancels before they begin. -/
def cancelDocker : List Label :=
  [unlockedIntent { action := .applyRuntimeSettings, applyDocker := true },
    unlockedIntent { action := .debianStop }, .lifecycleTakes, .lifecycleTakes, .lifecycle .succeed,
    .lifecycle .effect, .lifecycle .succeed, .lifecycle .succeed, .lifecycle .succeed]

/-- The stop and the force-stop of that run both complete, and no flag is left when the service is idle
again. -/
theorem flags_never_leak_docker_interrupted : ∃ reached,
    follow step interruptDocker ([], initialService) = some reached ∧
      reached.2.stops = [⟨2, 1, true⟩, ⟨4, 3, true⟩] ∧
      reached.2.lifecycle.lifecycleOperationStarted = false ∧ reached.2.dockerPolicyStarted = false ∧
      reached.2.lifecycle.activeLifecycleOperation = none ∧
      reached.2.managementOperationRunning = false ∧ reached.2.lifecycle.isBusy = false := by
  have meets : (follow step interruptDocker ([], initialService)).any (fun reached =>
      decide (Meets DockerBegun reached.1) && decide reached.2.Idle &&
        decide (reached.2.stops = [⟨2, 1, true⟩, ⟨4, 3, true⟩])) = true := by decide +kernel
  obtain ⟨reached, followed, holds⟩ := (Option.any_eq_true _ _).mp meets
  simp only [Bool.and_eq_true, decide_eq_true_eq] at holds
  obtain ⟨⟨begun, idle⟩, stops⟩ := holds
  exact ⟨reached, followed, stops, flags_never_leak (run_of_follow .start followed) begun idle⟩

/-- The flag stays set when a stop cancels the settings before they begin, because the `finally` that
clears it is never entered. -/
theorem docker_flag_leaks : ¬∀ (trace : List (BootService × Label)) (last : BootService),
    Run Stepped initialService trace last → last.Idle →
      last.lifecycle.lifecycleOperationStarted = false ∧ last.dockerPolicyStarted = false ∧
        last.lifecycle.activeLifecycleOperation = none := by
  intro cleared
  have leaks : (follow step cancelDocker ([], initialService)).any (fun reached =>
      decide reached.2.Idle && reached.2.dockerPolicyStarted) = true := by decide
  obtain ⟨reached, followed, holds⟩ := (Option.any_eq_true _ _).mp leaks
  simp only [Bool.and_eq_true, decide_eq_true_eq] at holds
  have unset := (cleared reached.1 reached.2 (run_of_follow .start followed) holds.1).2.1
  rw [holds.2] at unset
  cases unset

end DawnShell.App
