/-
Module: DawnShell.Proofs.BootServiceSteps
Layer: Proofs
Purpose: What a step of the boot service can do, and what always holds of the two executors.  The flag of
  the lifecycle operations is set exactly while `lifecycleExecutor` has something to run, and the tasks of
  `executor` are different ones whose flags are set.
Trusted boundary: none
Main exports: Engaged, Lifecycle.Sound, Lifecycle.Sound.request, Lifecycle.Sound.step, Management.Sound,
  Management.Sound.step, acceptedOperation, onStartCommand_cases
-/
import DawnShell.App.BootService
import DawnShell.Lib.Transition

namespace DawnShell.App

open TaskQueue TaskQueue.Executor Transition

variable {service next : BootService} {lifecycle : Lifecycle} {operation : Operation} {trigger : Trigger}
  {ticket : Ticket LifecycleTask} {phase : LifecyclePhase} {progress : Progress}

/-! ### The tasks of `lifecycleExecutor` -/

/-- The phases of a task.  What an operation has still to do is an end of all that it does. -/
def LifecyclePhase.Fits : LifecycleTask → LifecyclePhase → Prop
  | _, .provisioning | _, .ending | _, .ended => True
  | .operation operation _, .running remaining => remaining <:+ operation.effects
  | .settings .., .stoppingForSettings remaining => remaining <:+ Operation.stop.effects
  | .settings .., .startingAgain remaining => remaining <:+ Operation.start.effects
  | .settings .., .applying _ | .settings .., .finishing _ | .settings .., .clearingDocker => True
  | _, _ => False

/-- All that a stop does is to take Debian down. -/
theorem effect_of_stop {effect : Effect} {remaining : List Effect}
    (fits : effect :: remaining <:+ Operation.stop.effects) : effect = .down :=
  List.mem_singleton.mp (fits.subset List.mem_cons_self)

/-- Something is left to run before the flags can be cleared. -/
def Engaged (executor : Executor LifecycleTask LifecyclePhase) : Prop :=
  executor.queue ≠ [] ∨ ∃ ticket phase, executor.worker = some (ticket, phase) ∧ phase ≠ .ended

/-- What always holds of the lifecycle operations. -/
structure Lifecycle.Sound (lifecycle : Lifecycle) : Prop where
  serial : lifecycle.executor.Serial lifecycle.lifecycleRequestId
  future : lifecycle.lifecycleFuture = some lifecycle.lifecycleRequestId ∨
    lifecycle.lifecycleFuture = none ∧ lifecycle.executor.tickets = []
  started : lifecycle.lifecycleOperationStarted = true ↔ Engaged lifecycle.executor
  active : lifecycle.lifecycleOperationStarted = false → lifecycle.activeLifecycleOperation = none
  fits : ∀ ticket phase, lifecycle.executor.worker = some (ticket, phase) → phase.Fits ticket.task

/-- The lifecycle is busy exactly while there is a ticket that is not yet done. -/
theorem isBusy_iff (sound : lifecycle.Sound) :
    lifecycle.isBusy = true ↔ lifecycle.executor.tickets ≠ [] := by
  rcases sound.future with future | ⟨future, none⟩
  · simp [Lifecycle.isBusy, future, ← isDone_iff sound.serial]
  · simp [Lifecycle.isBusy, future, none]

/-- A request that is accepted cancels the latest task, unless that is done. -/
theorem request_eq (sound : lifecycle.Sound) {after : Lifecycle}
    (accepted : lifecycle.request operation trigger = some after) :
    after = { lifecycle with
      executor := lifecycle.executor.cancel lifecycle.lifecycleRequestId }.enqueue
        (.operation operation trigger) (some operation) operation.urgent ∧
      (lifecycle.executor.tickets ≠ [] → operation.urgent = true) := by
  rw [Lifecycle.request] at accepted
  split at accepted
  next busy =>
    have some := (isBusy_iff sound).mp busy
    split at accepted
    · cases accepted
    next goes =>
      have urgent : operation.urgent = true := by
        simp only [Lifecycle.yields, Bool.or_eq_true, Bool.not_eq_true', not_or, Bool.not_eq_false]
          at goes
        exact goes.1
      rcases sound.future with future | ⟨_, none⟩
      · cases accepted
        rw [Lifecycle.cancel, future]
        exact ⟨rfl, fun _ => urgent⟩
      · exact absurd none some
  next free =>
    have none : lifecycle.executor.tickets = [] := by
      by_contra some
      exact free ((isBusy_iff sound).mpr some)
    cases accepted
    rw [cancel_of_empty none]
    exact ⟨rfl, fun some => absurd none some⟩

/-- A submission behind a latest task that has been cancelled or is done. -/
theorem Lifecycle.Sound.enqueue (sound : lifecycle.Sound) {task : LifecycleTask}
    {active : Option Operation} {urgent : Bool} :
    ({ lifecycle with
      executor := lifecycle.executor.cancel lifecycle.lifecycleRequestId }.enqueue
        task active urgent).Sound where
  serial := serial_submit sound.serial
  future := .inl rfl
  started := by simp [Lifecycle.enqueue, Engaged, submit]
  active := nofun
  fits ticket phase running := by
    obtain ⟨⟨before, phase⟩, same, moved⟩ := Option.map_eq_some_iff.mp running
    cases moved
    have fits := sound.fits before phase same
    rw [cancelled]
    split <;> exact fits

/-- A request that is accepted keeps the lifecycle in order. -/
theorem Lifecycle.Sound.request (sound : lifecycle.Sound) {after : Lifecycle}
    (accepted : lifecycle.request operation trigger = some after) : after.Sound := by
  rw [(request_eq sound accepted).1]
  exact sound.enqueue

/-- Settings are only accepted when nothing is left. -/
theorem Lifecycle.Sound.enqueue_settings (sound : lifecycle.Sound)
    (none : lifecycle.executor.tickets = []) {task : LifecycleTask} {active : Option Operation}
    {urgent : Bool} : (lifecycle.enqueue task active urgent).Sound := by
  have sound : ({ lifecycle with
      executor := lifecycle.executor.cancel lifecycle.lifecycleRequestId }.enqueue
        task active urgent).Sound := sound.enqueue
  rwa [cancel_of_empty none] at sound

/-- A worker that takes up the next ticket keeps the lifecycle in order: the tickets stay in the order
in which they were submitted. -/
theorem Lifecycle.Sound.take (sound : lifecycle.Sound) {executor : Executor LifecycleTask LifecyclePhase}
    (taken : lifecycle.executor.take (fun _ => .provisioning) = some executor) :
    ({ lifecycle with executor } : Lifecycle).Sound := by
  have serial := serial_take sound.serial taken
  rw [Executor.take] at taken
  split at taken
  next ticket rest free waiting =>
    have before : lifecycle.lifecycleOperationStarted = true :=
      sound.started.mpr (.inl (by simp [waiting]))
    have front : lifecycle.executor.tickets = ticket :: rest := by rw [tickets_of_free free, waiting]
    have future : lifecycle.lifecycleFuture = some lifecycle.lifecycleRequestId := by
      rcases sound.future with future | ⟨_, none⟩
      · exact future
      · simp [front] at none
    split at taken
    next dropped =>
      cases taken
      -- The latest task is not cancelled, and so it is not the one that is dropped.
      have others : rest ≠ [] := by
        rintro rfl
        obtain ⟨last, member, same⟩ := sound.serial.pending (by simp [front])
        have going := (sound.serial.current last member).2.mpr same
        rw [front, List.mem_singleton] at member
        rw [member, dropped] at going
        cases going
      exact
        { serial, future := .inl future
          started := ⟨fun _ => .inl others, fun _ => before⟩
          active := sound.active
          fits := sound.fits }
    next =>
      cases taken
      exact
        { serial, future := .inl future
          started := ⟨fun _ => .inr ⟨ticket, .provisioning, rfl, (by rintro ⟨⟩)⟩, fun _ => before⟩
          active := sound.active
          fits := by
            rintro _ _ ⟨⟩
            cases ticket.task <;> trivial }
  next => cases taken

/-! ### Steps of `lifecycleExecutor` -/

/-- What the steps of a task do and where they lead. -/
inductive LifecycleMoves (ticket : Ticket LifecycleTask) :
    LifecyclePhase → LifecycleDeed → LifecyclePhase → Prop where
  | prepared {operation : Operation} {trigger : Trigger}
      (task : ticket.task = .operation operation trigger) :
      LifecycleMoves ticket .provisioning .nothing (.running operation.effects)
  | unprepared {operation : Operation} {trigger : Trigger}
      (task : ticket.task = .operation operation trigger) :
      LifecycleMoves ticket .provisioning .nothing .ending
  | stop {applyUsb applyDocker applyCgroup : Bool}
      (task : ticket.task = .settings applyUsb applyDocker applyCgroup) :
      LifecycleMoves ticket .provisioning .nothing (.stoppingForSettings Operation.stop.effects)
  | apply {applyUsb applyDocker applyCgroup : Bool}
      (task : ticket.task = .settings applyUsb applyDocker applyCgroup) :
      LifecycleMoves ticket .provisioning .nothing (.applying false)
  | finish {applyUsb applyDocker applyCgroup : Bool}
      (task : ticket.task = .settings applyUsb applyDocker applyCgroup) :
      LifecycleMoves ticket .provisioning .nothing (.finishing false)
  | effect (effect : Effect) (remaining : List Effect) :
      LifecycleMoves ticket (.running (effect :: remaining)) (.effect effect) (.running remaining)
  | complete : LifecycleMoves ticket (.running []) .complete .ending
  | failed (remaining : List Effect) : LifecycleMoves ticket (.running remaining) .nothing .ending
  | stopEffect (effect : Effect) (remaining : List Effect) :
      LifecycleMoves ticket (.stoppingForSettings (effect :: remaining)) (.effect effect)
        (.stoppingForSettings remaining)
  | stopped : LifecycleMoves ticket (.stoppingForSettings []) .nothing (.applying true)
  | notStopped (remaining : List Effect) :
      LifecycleMoves ticket (.stoppingForSettings remaining) .nothing (.finishing true)
  | applied (wasRunning : Bool) :
      LifecycleMoves ticket (.applying wasRunning) .nothing (.finishing wasRunning)
  | startAgain (going : ticket.cancelled = false) :
      LifecycleMoves ticket (.finishing true) .nothing (.startingAgain Operation.start.effects)
  | stay (wasRunning : Bool) : LifecycleMoves ticket (.finishing wasRunning) .nothing .clearingDocker
  | startEffect (effect : Effect) (remaining : List Effect) :
      LifecycleMoves ticket (.startingAgain (effect :: remaining)) (.effect effect)
        (.startingAgain remaining)
  | startedAgain (remaining : List Effect) :
      LifecycleMoves ticket (.startingAgain remaining) .nothing .clearingDocker
  | clearDocker : LifecycleMoves ticket .clearingDocker .clearDocker .ending
  | clearFlags : LifecycleMoves ticket .ending .clearFlags .ended
  | leave : LifecycleMoves ticket .ended .leave .ended

/-- Every move of the lifecycle worker is one of those that the relation lists. -/
theorem lifecycleMoves_of_move {running : Bool} {deed : LifecycleDeed} {after : LifecyclePhase}
    (moved : lifecycleMove ticket running phase progress = some (deed, after)) :
    LifecycleMoves ticket phase deed after := by
  obtain ⟨id, task, cancelled⟩ := ticket
  cases phase with
  | provisioning =>
      cases task with
      | operation =>
          cases progress <;> cases moved
          · exact .prepared rfl
          · exact .unprepared rfl
      | settings =>
          cases progress with
          | effect => cases moved
          | succeed =>
              cases running <;> cases moved
              · exact .apply rfl
              · exact .stop rfl
          | skip =>
              cases moved
              exact .apply rfl
          | fail =>
              cases moved
              exact .finish rfl
  | running remaining | stoppingForSettings remaining | startingAgain remaining =>
      cases remaining <;> cases progress <;> cases moved <;> constructor
  | finishing wasRunning =>
      cases progress <;> cases wasRunning <;> cases cancelled <;> cases moved
      · exact .stay _
      · exact .stay _
      · exact .startAgain rfl
      · exact .stay _
  | _ => cases progress <;> cases moved <;> constructor

/-- After a move the phase of the worker still fits its task, so that a stop is never found in a phase
of a start. -/
theorem LifecycleMoves.fits {deed : LifecycleDeed} {after : LifecyclePhase}
    (moves : LifecycleMoves ticket phase deed after) (fits : phase.Fits ticket.task) :
    after.Fits ticket.task := by
  cases moves with
  | prepared task =>
      rw [task]
      exact List.suffix_refl _
  | stop task =>
      rw [task]
      exact List.suffix_refl _
  | apply task | finish task =>
      rw [task]
      trivial
  | unprepared | complete | failed | clearDocker | clearFlags | leave =>
      cases ticket.task <;> trivial
  | effect effect remaining =>
      cases task : ticket.task <;> rw [task] at fits
      · exact (List.suffix_cons effect remaining).trans fits
      · exact fits.elim
  | stopEffect effect remaining | startEffect effect remaining =>
      cases task : ticket.task <;> rw [task] at fits
      · exact fits.elim
      · exact (List.suffix_cons effect remaining).trans fits
  | startAgain =>
      cases task : ticket.task <;> rw [task] at fits
      · exact fits.elim
      · exact List.suffix_refl _
  | stopped | notStopped | applied | stay | startedAgain =>
      cases task : ticket.task <;> rw [task] at fits
      · exact fits.elim
      · trivial

/-- The steps of a task before its flags are cleared. -/
theorem Lifecycle.Sound.advance (sound : lifecycle.Sound) {after : LifecyclePhase}
    (running : lifecycle.executor.worker = some (ticket, phase)) (fits : after.Fits ticket.task)
    (before : phase ≠ .ended) (later : after ≠ .ended) :
    ({ lifecycle with executor := lifecycle.executor.advance ticket after } : Lifecycle).Sound where
  serial := sound.serial.of_tickets (tickets_advance running after)
  future := by
    rw [tickets_advance running]
    exact sound.future
  started := by
    rw [sound.started]
    exact iff_of_true (.inr ⟨ticket, phase, running, before⟩) (.inr ⟨ticket, after, rfl, later⟩)
  active := sound.active
  fits := by
    rintro _ _ ⟨⟩
    exact fits

/-- The flags are cleared by the latest task, behind which none is left; an older task leaves them to
the one that was accepted after it. -/
theorem Lifecycle.Sound.clearFlags (sound : service.lifecycle.Sound)
    (running : service.lifecycle.executor.worker = some (ticket, .ending)) :
    ((service.executing (service.lifecycle.executor.advance ticket .ended)).clearFlags
      ticket.id).lifecycle.Sound := by
  have last := sound.serial.last running
  have serial := sound.serial.of_tickets (tickets_advance running LifecyclePhase.ended)
  have future : service.lifecycle.lifecycleFuture = some service.lifecycle.lifecycleRequestId := by
    rcases sound.future with future | ⟨_, none⟩
    · exact future
    · simp [tickets_of_worker running] at none
  have fits : ∀ other phase, (service.lifecycle.executor.advance ticket .ended).worker =
      some (other, phase) → phase.Fits other.task := by
    rintro _ _ ⟨⟩
    cases ticket.task <;> trivial
  have ended : ∀ other phase, (service.lifecycle.executor.advance ticket .ended).worker =
      some (other, phase) → phase = .ended := by
    rintro _ _ ⟨⟩
    rfl
  rw [BootService.clearFlags]
  split
  next same =>
    have none : service.lifecycle.executor.queue = [] := last.mp same.symm
    refine ⟨serial, .inl future, ?_, fun _ => rfl, fits⟩
    -- Nothing is left, and no flag is set.
    refine iff_of_false (by simp) ?_
    rintro (some | ⟨other, phase, worker, going⟩)
    · exact some none
    · exact going (ended other phase worker)
  next apart =>
    have some : service.lifecycle.executor.queue ≠ [] := fun none => apart (last.mpr none).symm
    have started := sound.started.mpr (.inr ⟨ticket, .ending, running, nofun⟩)
    exact ⟨serial, .inl future, iff_of_true started (.inl some), sound.active, fits⟩

/-- A worker that leaves at its end keeps the lifecycle in order, and the next ticket of the queue can
be taken up. -/
theorem Lifecycle.Sound.leave (sound : lifecycle.Sound)
    (running : lifecycle.executor.worker = some (ticket, .ended)) :
    ({ lifecycle with executor := lifecycle.executor.release } : Lifecycle).Sound where
  serial := serial_release sound.serial running
  future := by
    rcases sound.future with future | ⟨_, none⟩
    · exact .inl future
    · simp [tickets_of_worker running] at none
  started := by
    rw [sound.started]
    constructor
    · rintro (some | ⟨other, phase, same, going⟩)
      · exact .inl some
      · rw [running] at same
        cases same
        exact absurd rfl going
    · rintro (some | ⟨_, _, none, _⟩)
      · exact .inl some
      · cases none
  active := sound.active
  fits := nofun

/-- Every step of a task of `lifecycleExecutor`. -/
theorem Lifecycle.Sound.perform {deed : LifecycleDeed} {after : LifecyclePhase}
    (sound : service.lifecycle.Sound)
    (running : service.lifecycle.executor.worker = some (ticket, phase))
    (moves : LifecycleMoves ticket phase deed after) :
    ((service.executing (service.lifecycle.executor.advance ticket after)).perform
      ticket deed).lifecycle.Sound := by
  have fits := moves.fits (sound.fits ticket phase running)
  cases moves with
  | clearFlags => exact sound.clearFlags running
  | leave => exact sound.leave running
  | _ => exact sound.advance running fits nofun nofun

/-! ### The tasks of `executor` -/

/-- The task of a phase. -/
def ManagementPhase.task : ManagementPhase → ManagementTask
  | .checking _ | .requesting _ => .startupChecks
  | .provisioningInstall | .installing => .rootfsInstall
  | .provisioningConfiguration _ | .stoppingForConfiguration .. | .configuring _
  | .startingConfigured .. => .systemConfiguration
  | .lookingForRootfs | .stoppingForRemoval _ | .inspecting | .removing => .rootfsRemoval
  | .ending task => task

/-- The flag of a task. -/
def Management.flag (management : Management) : ManagementTask → Bool
  | .startupChecks => management.startupChecksStarted
  | .rootfsInstall => management.rootfsInstallStarted
  | .systemConfiguration => management.systemConfigurationStarted
  | .rootfsRemoval => management.rootfsRemovalStarted

/-- The tasks that are not over. -/
def Management.tasks (management : Management) : List ManagementTask :=
  (management.worker.map ManagementPhase.task).toList ++ management.queue

/-- What an operation has still to do is an end of all that it does. -/
def ManagementPhase.Fits : ManagementPhase → Prop
  | .stoppingForConfiguration _ remaining | .stoppingForRemoval remaining =>
      remaining <:+ Operation.stop.effects
  | .startingConfigured _ remaining => remaining <:+ Operation.start.effects
  | _ => True

/-- What always holds of the management of the rootfs. -/
structure Management.Sound (management : Management) : Prop where
  different : management.tasks.Nodup
  flagged : ∀ task ∈ management.tasks, management.flag task = true
  fits : ∀ phase, management.worker = some phase → phase.Fits

/-- What the steps of a task do and where they lead. -/
inductive ManagementMoves (urgentControlGeneration : Nat) (debianRunning : Bool) :
    ManagementPhase → ManagementDeed → Option ManagementPhase → Prop where
  | unchanged (controlGeneration : Nat) (same : urgentControlGeneration = controlGeneration) :
      ManagementMoves urgentControlGeneration debianRunning (.checking controlGeneration) .nothing
        (some (.requesting controlGeneration))
  | abandoned (controlGeneration : Nat) :
      ManagementMoves urgentControlGeneration debianRunning (.checking controlGeneration) .nothing none
  | requested (controlGeneration : Nat) :
      ManagementMoves urgentControlGeneration debianRunning (.requesting controlGeneration)
        (.requestStart controlGeneration) none
  | install : ManagementMoves urgentControlGeneration debianRunning .provisioningInstall .nothing
      (some .installing)
  | stop (controlGeneration : Nat) :
      ManagementMoves urgentControlGeneration debianRunning
        (.provisioningConfiguration controlGeneration) .nothing
        (some (.stoppingForConfiguration controlGeneration Operation.stop.effects))
  | stopEffect (controlGeneration : Nat) (effect : Effect) (remaining : List Effect) :
      ManagementMoves urgentControlGeneration debianRunning
        (.stoppingForConfiguration controlGeneration (effect :: remaining))
        (.effect effect controlGeneration)
        (some (.stoppingForConfiguration controlGeneration remaining))
  | configure (controlGeneration : Nat) :
      ManagementMoves urgentControlGeneration debianRunning
        (.stoppingForConfiguration controlGeneration []) .nothing (some (.configuring controlGeneration))
  | start (controlGeneration : Nat) (same : urgentControlGeneration = controlGeneration) :
      ManagementMoves urgentControlGeneration debianRunning (.configuring controlGeneration) .nothing
        (some (.startingConfigured controlGeneration Operation.start.effects))
  | startEffect (controlGeneration : Nat) (effect : Effect) (remaining : List Effect) :
      ManagementMoves urgentControlGeneration debianRunning
        (.startingConfigured controlGeneration (effect :: remaining)) (.effect effect controlGeneration)
        (some (.startingConfigured controlGeneration remaining))
  | found : ManagementMoves urgentControlGeneration debianRunning .lookingForRootfs .nothing
      (some (.stoppingForRemoval Operation.stop.effects))
  | removalEffect (effect : Effect) (remaining : List Effect) :
      ManagementMoves urgentControlGeneration debianRunning (.stoppingForRemoval (effect :: remaining))
        (.effect effect 0) (some (.stoppingForRemoval remaining))
  | inspect : ManagementMoves urgentControlGeneration debianRunning (.stoppingForRemoval []) .nothing
      (some .inspecting)
  | remove (stopped : debianRunning = false) :
      ManagementMoves urgentControlGeneration debianRunning .inspecting .nothing (some .removing)
  | finish {phase : ManagementPhase} :
      ManagementMoves urgentControlGeneration debianRunning phase .nothing (some (.ending phase.task))
  | clear (task : ManagementTask) :
      ManagementMoves urgentControlGeneration debianRunning (.ending task) (.clear task) none

section Management

variable {management : Management} {urgentControlGeneration : Nat} {debianRunning : Bool}
  {phase : ManagementPhase} {deed : ManagementDeed} {after : Option ManagementPhase}
  {task : ManagementTask}

/-- Every move of the management worker is one of those that the relation lists. -/
theorem managementMoves_of_move
    (moved : managementMove urgentControlGeneration debianRunning phase progress = some (deed, after)) :
    ManagementMoves urgentControlGeneration debianRunning phase deed after := by
  cases phase with
  | checking controlGeneration | configuring controlGeneration =>
      cases progress <;> simp only [managementMove, reduceCtorEq] at moved
      · split at moved
        next same =>
          cases moved
          constructor
          exact same
        next =>
          cases moved
          constructor
      · cases moved
        constructor
  | stoppingForConfiguration _ remaining | startingConfigured _ remaining
  | stoppingForRemoval remaining =>
      cases remaining <;> cases progress <;> cases moved
      all_goals first | exact .finish | constructor
  | inspecting =>
      cases progress <;> cases debianRunning <;> cases moved
      · exact .remove rfl
      · exact .finish
      · exact .finish
      · exact .finish
  | provisioningInstall | provisioningConfiguration | lookingForRootfs =>
      cases progress <;> cases moved
      all_goals first | exact .finish | constructor
  | installing | removing =>
      cases progress <;> cases moved <;> exact .finish
  | requesting | ending =>
      cases progress <;> cases moved
      constructor

/-- After a move the phase of the management worker is still one that can be. -/
theorem ManagementMoves.fits
    (moves : ManagementMoves urgentControlGeneration debianRunning phase deed after)
    (fits : phase.Fits) : ∀ later, after = some later → later.Fits := by
  rintro later same
  cases moves with
  | stop | start | found =>
      cases same
      exact List.suffix_refl _
  | stopEffect _ effect remaining | startEffect _ effect remaining | removalEffect effect remaining =>
      cases same
      exact (List.suffix_cons effect remaining).trans fits
  | abandoned | requested | clear => cases same
  | _ =>
      cases same
      trivial

theorem ManagementMoves.task_eq
    (moves : ManagementMoves urgentControlGeneration debianRunning phase deed after) :
    ∀ later, after = some later → later.task = phase.task := by
  intro later same
  cases moves <;> cases same <;> rfl

/-- A management worker that moves on keeps its flags in order: no task is there twice, and each that is
there has its flag set. -/
theorem Management.Sound.managing (sound : management.Sound) (running : management.worker = some phase)
    (moves : ManagementMoves urgentControlGeneration debianRunning phase deed after) :
    ({ management with worker := after } : Management).Sound := by
  have tasks : management.tasks = phase.task :: management.queue := by
    simp [Management.tasks, running]
  have fits := moves.fits (sound.fits phase running)
  cases after with
  | none =>
      have different := sound.different
      rw [tasks] at different
      exact
        { different := (List.nodup_cons.mp different).2
          flagged := fun task member =>
            sound.flagged task (tasks ▸ List.mem_cons_of_mem _ member)
          fits := nofun }
  | some later =>
      have same : ({ management with worker := some later } : Management).tasks = management.tasks := by
        rw [tasks, ← moves.task_eq later rfl]
        rfl
      exact
        { different := same ▸ sound.different
          flagged := fun task member => sound.flagged task (same ▸ member)
          fits := fun phase running => fits phase running }

/-- The flag of a task that is gone may be set to false. -/
theorem Management.Sound.clear (sound : service.management.Sound)
    (gone : task ∉ service.management.tasks) : (service.clear task).management.Sound := by
  have tasks : (service.clear task).management.tasks = service.management.tasks := by
    cases task <;> rfl
  have worker : (service.clear task).management.worker = service.management.worker := by
    cases task <;> rfl
  have flags : ∀ other, other ≠ task →
      (service.clear task).management.flag other = service.management.flag other := by
    intro other apart
    cases task <;> cases other <;> first | rfl | exact absurd rfl apart
  exact
    { different := tasks ▸ sound.different
      flagged := by
        intro other member
        rw [tasks] at member
        rw [flags other fun same => gone (same ▸ member)]
        exact sound.flagged other member
      fits := fun phase running => sound.fits phase (worker ▸ running) }

/-- A task is queued when its flag was not set, which is the check that keeps two tasks of one kind
apart. -/
theorem Management.Sound.execute (sound : service.management.Sound)
    (free : service.management.flag task = false) : (service.execute task).management.Sound := by
  have tasks : (service.execute task).management.tasks = service.management.tasks ++ [task] := by
    simp [BootService.execute, Management.tasks]
  have flags : ∀ other, (service.execute task).management.flag other =
      (service.management.flag other || task == other) := by
    intro other
    cases other <;> rfl
  have apart : task ∉ service.management.tasks := by
    intro member
    rw [sound.flagged task member] at free
    cases free
  exact
    { different := by
        rw [tasks, List.nodup_append]
        refine ⟨sound.different, by simp, ?_⟩
        rintro one member other last rfl
        exact apart (List.mem_singleton.mp last ▸ member)
      flagged := by
        intro other member
        rw [tasks, List.mem_append, List.mem_singleton] at member
        rw [flags, Bool.or_eq_true, beq_iff_eq]
        exact member.imp (sound.flagged other) Eq.symm
      fits := sound.fits }

end Management

/-! ### Steps of the service -/

/-- What a rejected request leaves as it is. -/
theorem requestLifecycleOperation_management :
    (service.requestLifecycleOperation operation trigger).management = service.management := by
  rw [BootService.requestLifecycleOperation]
  cases service.lifecycle.request operation trigger <;> rfl

/-- What the management worker does keeps its flags in order, together with the phase that it comes to.
-/
theorem Management.Sound.manage {deed : ManagementDeed} {after : Option ManagementPhase}
    {phase : ManagementPhase} {urgentControlGeneration : Nat} {debianRunning : Bool}
    (sound : service.management.Sound) (running : service.management.worker = some phase)
    (moves : ManagementMoves urgentControlGeneration debianRunning phase deed after) :
    ((service.managing after).manage deed).management.Sound := by
  have managing : (service.managing after).management.Sound := sound.managing running moves
  cases moves with
  | requested =>
      rw [BootService.manage, requestLifecycleOperation_management]
      exact managing
  | clear task =>
      have different := sound.different
      simp only [Management.tasks, running, Option.map_some, Option.toList_some, List.cons_append,
        List.nil_append] at different
      exact managing.clear (List.nodup_cons.mp different).1
  | _ => exact managing

/-- The operation that `requestLifecycleOperation` accepts in a step. -/
def acceptedOperation (service : BootService) : Label → Option (Operation × Trigger)
  | .intent intent enabled userUnlocked =>
      if !enabled && !intent.action.disabledControlAllowed then none
      else
        match intent.action with
        | .start => if userUnlocked then accepts .start .bootCompletedUnlocked else none
        | .debianRestart => none
        | action => action.lifecycleOperation.bind (accepts · .appButton)
  | .submitRestart => accepts .restart .appButton
  | .executor _ =>
      match service.management.worker with
      | some (.requesting controlGeneration) => accepts .start (.lockedBoot controlGeneration)
      | _ => none
  | _ => none
where
  accepts (operation : Operation) (trigger : Trigger) : Option (Operation × Trigger) :=
    if (service.lifecycle.request operation trigger).isSome then some (operation, trigger) else none

/-- A stop is accepted in a step. -/
def acceptsStop (service : BootService) (label : Label) : Bool :=
  (acceptedOperation service label).any fun accepted =>
    accepted.1 == .stop || accepted.1 == .forceStop

/-- The task that is queued for `executor` in a step. -/
def acceptedTask (service : BootService) : Label → Option ManagementTask
  | .intent intent enabled userUnlocked =>
      if !enabled && !intent.action.disabledControlAllowed then none
      else
        match intent.action with
        | .start => if userUnlocked then none else accepts .startupChecks
        | .installDebian => if userUnlocked then accepts .rootfsInstall else none
        | .configureDebian => if userUnlocked then accepts .systemConfiguration else none
        | _ => none
  | .claimRemoval => accepts .rootfsRemoval
  | _ => none
where
  accepts (task : ManagementTask) : Option ManagementTask :=
    if service.management.flag task then none else some task

/-- What the main thread can do with an intent. -/
inductive Handled (service : BootService) (label : Label) : BootService → Prop where
  | ignored : Handled service label service
  | requested (operation : Operation) (trigger : Trigger)
      (accepted : ∀ lifecycle, service.lifecycle.request operation trigger = some lifecycle →
        acceptedOperation service label = some (operation, trigger))
      (kind : operation ≠ .restart ∧ ∀ controlGeneration, trigger ≠ .lockedBoot controlGeneration) :
      Handled service label (service.requestLifecycleOperation operation trigger)
  | settings (applyUsb applyDocker applyCgroup : Bool) :
      Handled service label
        (service.requestRuntimeSettingsApplication applyUsb applyDocker applyCgroup)
  | queued (task : ManagementTask) (free : service.management.flag task = false)
      (accepted : acceptedTask service label = some task) :
      Handled service label (service.execute task)
  | restartChecked (free : service.managementOperationRunning = false) :
      Handled service label { service with main := .restartChecked }
  | removalChecked : Handled service label { service with main := .removalChecked }

/-- Every intent is handled in one of the ways that the relation lists, which says all that an intent
can change; later proofs split on these ways alone. -/
theorem onStartCommand_handled (service : BootService) (intent : Intent) (enabled userUnlocked : Bool) :
    Handled service (.intent intent enabled userUnlocked)
      (service.onStartCommand intent enabled userUnlocked) := by
  have accepts : ∀ {operation : Operation} {trigger : Trigger} {lifecycle : Lifecycle},
      service.lifecycle.request operation trigger = some lifecycle →
        acceptedOperation.accepts service operation trigger = some (operation, trigger) := by
    intro operation trigger lifecycle accepted
    rw [acceptedOperation.accepts, accepted]
    rfl
  have queues : ∀ {task : ManagementTask}, service.management.flag task = false →
      acceptedTask.accepts service task = some task := by
    intro task free
    rw [acceptedTask.accepts, free]
    rfl
  obtain ⟨action, applyUsb, applyDocker, applyCgroup⟩ := intent
  unfold BootService.onStartCommand
  split
  · exact .ignored
  next allowed =>
    cases action with
    | start =>
        cases userUnlocked with
        | true =>
            refine .requested .start .bootCompletedUnlocked (fun lifecycle accepted => ?_) ⟨nofun, nofun⟩
            rw [acceptedOperation, if_neg allowed]
            exact accepts accepted
        | false =>
            simp only [Bool.false_eq_true, if_false]
            split
            · exact .ignored
            next free =>
              have free := Bool.eq_false_iff.mpr free
              refine .queued .startupChecks free ?_
              rw [acceptedTask, if_neg allowed]
              exact queues free
    | startCodecBridge | other => exact .ignored
    | installDebian | configureDebian =>
        cases userUnlocked with
        | false => exact .ignored
        | true =>
            simp only [Bool.not_true, Bool.false_or]
            split
            · exact .ignored
            next free =>
              have free := Bool.eq_false_iff.mpr free
              refine .queued _ free ?_
              rw [acceptedTask, if_neg allowed]
              exact queues free
    | debianStart | debianStatus | debianStop | debianForceStop =>
        refine .requested _ .appButton (fun lifecycle accepted => ?_) ⟨nofun, nofun⟩
        rw [acceptedOperation, if_neg allowed]
        exact accepts accepted
    | debianRestart =>
        cases free : service.managementOperationRunning with
        | true => exact .ignored
        | false => exact .restartChecked free
    | removeDebianRootfs =>
        cases userUnlocked with
        | false => exact .ignored
        | true =>
            simp only [Bool.not_true, Bool.false_eq_true, if_false]
            split
            · exact .ignored
            · exact .removalChecked
    | applyRuntimeSettings =>
        cases userUnlocked with
        | false => exact .ignored
        | true => exact .settings applyUsb applyDocker applyCgroup

/-- What a step can do. -/
inductive Changes (service : BootService) (label : Label) : BootService → Prop where
  | handled {next : BootService} (idle : service.main = .idle) (handled : Handled service label next) :
      Changes service label next
  | restart (checked : service.main = .restartChecked)
      (accepted : ∀ lifecycle, service.lifecycle.request .restart .appButton = some lifecycle →
        acceptedOperation service label = some (.restart, .appButton)) :
      Changes service label
        ({ service with main := .idle }.requestLifecycleOperation .restart .appButton)
  | claimed (free : service.management.flag .rootfsRemoval = false)
      (accepted : acceptedTask service label = some .rootfsRemoval) :
      Changes service label ({ service with main := .idle }.execute .rootfsRemoval)
  | unclaimed : Changes service label { service with main := .idle }
  | begun (task : ManagementTask) (queue : List ManagementTask) (free : service.management.worker = none)
      (waiting : service.management.queue = task :: queue) :
      Changes service label
        { service with
          management :=
            { service.management with
              queue
              worker := some (task.begin service.lifecycle.urgentControlGeneration) } }
  | managed (phase : ManagementPhase) (deed : ManagementDeed) (after : Option ManagementPhase)
      (running : service.management.worker = some phase)
      (moves : ManagementMoves service.lifecycle.urgentControlGeneration service.debian.isSome
        phase deed after)
      (accepted : ∀ controlGeneration lifecycle, phase = .requesting controlGeneration →
        service.lifecycle.request .start (.lockedBoot controlGeneration) = some lifecycle →
        acceptedOperation service label = some (.start, .lockedBoot controlGeneration)) :
      Changes service label ((service.managing after).manage deed)
  | took (executor : Executor LifecycleTask LifecyclePhase)
      (taken : service.lifecycle.executor.take (fun _ => .provisioning) = some executor) :
      Changes service label (service.executing executor)
  | performed (ticket : Ticket LifecycleTask) (phase : LifecyclePhase) (deed : LifecycleDeed)
      (after : LifecyclePhase) (running : service.lifecycle.executor.worker = some (ticket, phase))
      (moves : LifecycleMoves ticket phase deed after)
      (acts : ∃ progress, label = .lifecycle progress ∧
        lifecycleMove ticket service.debian.isSome phase progress = some (deed, after)) :
      Changes service label
        ((service.executing (service.lifecycle.executor.advance ticket after)).perform ticket deed)
  | exited : Changes service label { service with debian := none }

/-- Every step of the service is one of the changes that the invariants are proved for. -/
theorem changes_of_step {label : Label} (stepped : Stepped service label next) :
    Changes service label next := by
  cases label with
  | intent intent enabled userUnlocked =>
      obtain ⟨idle, moved⟩ := Option.ite_none_right_eq_some.mp stepped
      cases moved
      exact .handled idle (onStartCommand_handled service intent enabled userUnlocked)
  | submitRestart =>
      obtain ⟨checked, moved⟩ := Option.ite_none_right_eq_some.mp stepped
      cases moved
      refine .restart checked fun lifecycle accepted => ?_
      rw [acceptedOperation, acceptedOperation.accepts, accepted]
      rfl
  | claimRemoval =>
      obtain ⟨_, moved⟩ := Option.ite_none_right_eq_some.mp stepped
      cases moved
      rw [BootService.claimRemoval]
      split
      · exact .unclaimed
      next free =>
        have free : service.management.flag .rootfsRemoval = false := Bool.eq_false_iff.mpr free
        refine .claimed free ?_
        rw [acceptedTask, acceptedTask.accepts, free]
        rfl
  | executorTakes =>
      rw [Stepped, step] at stepped
      split at stepped
      next task queue free waiting =>
        cases stepped
        exact .begun task queue free waiting
      next => cases stepped
  | executor progress =>
      obtain ⟨phase, running, rest⟩ := Option.bind_eq_some_iff.mp stepped
      obtain ⟨⟨deed, after⟩, moved, made⟩ := Option.bind_eq_some_iff.mp rest
      cases made
      refine .managed phase deed after running (managementMoves_of_move moved) ?_
      rintro controlGeneration lifecycle rfl accepted
      rw [acceptedOperation, running]
      simp only
      rw [acceptedOperation.accepts, accepted]
      rfl
  | lifecycleTakes =>
      obtain ⟨executor, taken, made⟩ := Option.bind_eq_some_iff.mp stepped
      cases made
      exact .took executor taken
  | lifecycle progress =>
      obtain ⟨⟨ticket, phase⟩, running, rest⟩ := Option.bind_eq_some_iff.mp stepped
      obtain ⟨⟨deed, after⟩, moved, made⟩ := Option.bind_eq_some_iff.mp rest
      cases made
      exact .performed ticket phase deed after running (lifecycleMoves_of_move moved)
        ⟨progress, rfl, moved⟩
  | debianExits =>
      obtain ⟨_, moved⟩ := Option.ite_none_right_eq_some.mp stepped
      cases moved
      exact .exited

/-! ### What always holds -/

/-- What always holds of the two executors. -/
structure BootService.Sound (service : BootService) : Prop where
  lifecycle : service.lifecycle.Sound
  management : service.management.Sound

/-- What a task that `executor` takes does at first. -/
@[simp] theorem begin_task (task : ManagementTask) (controlGeneration : Nat) :
    (task.begin controlGeneration).task = task := by
  cases task <;> rfl

/-- The service is in order when it is created. -/
theorem sound_initial : initialService.Sound where
  lifecycle :=
    { serial := serial_empty 0
      future := .inr ⟨rfl, rfl⟩
      started := iff_of_false (by decide) (by simp [Engaged, initialService])
      active := fun _ => rfl
      fits := nofun }
  management :=
    { different := .nil
      flagged := nofun
      fits := nofun }

/-- A move of the management worker keeps the whole service in order. -/
theorem sound_managing {phase : ManagementPhase} {deed : ManagementDeed} {after : Option ManagementPhase}
    {urgentControlGeneration : Nat} {debianRunning : Bool} (sound : service.Sound)
    (running : service.management.worker = some phase)
    (moves : ManagementMoves urgentControlGeneration debianRunning phase deed after) :
    (service.managing after).Sound :=
  ⟨sound.lifecycle, sound.management.managing running moves⟩

/-- A lifecycle request keeps the service in order, whether it is accepted or refused. -/
theorem sound_request (sound : service.Sound) :
    (service.requestLifecycleOperation operation trigger).Sound where
  lifecycle := by
    rw [BootService.requestLifecycleOperation]
    split
    · exact sound.lifecycle
    next accepted => exact sound.lifecycle.request accepted
  management := by
    rw [requestLifecycleOperation_management]
    exact sound.management

/-- Settings are accepted when no management operation is running and no task is left. -/
theorem settings_cases (sound : service.lifecycle.Sound) (applyUsb applyDocker applyCgroup : Bool) :
    service.requestRuntimeSettingsApplication applyUsb applyDocker applyCgroup = service ∨
      service.requestRuntimeSettingsApplication applyUsb applyDocker applyCgroup =
        { service with
          lifecycle := service.lifecycle.enqueue (.settings applyUsb applyDocker applyCgroup) none true
          dockerPolicyStarted := service.dockerPolicyStarted || applyDocker } ∧
        service.managementOperationRunning = false ∧ service.lifecycle.executor.tickets = [] := by
  rw [BootService.requestRuntimeSettingsApplication]
  split
  · exact .inl rfl
  split
  · exact .inl rfl
  next free =>
    rw [Bool.or_eq_true, not_or, Bool.not_eq_true] at free
    refine .inr ⟨rfl, free.1, ?_⟩
    by_contra some
    exact free.2 ((isBusy_iff sound).mpr some)

/-- A request to apply settings keeps the service in order, whatever is to be applied. -/
theorem sound_settings (sound : service.Sound) (applyUsb applyDocker applyCgroup : Bool) :
    (service.requestRuntimeSettingsApplication applyUsb applyDocker applyCgroup).Sound := by
  rcases settings_cases sound.lifecycle applyUsb applyDocker applyCgroup with same | ⟨made, _, none⟩
  · rw [same]
    exact sound
  · rw [made]
    exact ⟨sound.lifecycle.enqueue_settings none, sound.management⟩

/-- Every step keeps the service in order, whether it is an intent, a step of a worker or a failure.
Each case is one of the lemmas above. -/
theorem sound_step {label : Label} (sound : service.Sound) (stepped : Stepped service label next) :
    next.Sound := by
  cases changes_of_step stepped with
  | handled _ handled =>
      cases handled with
      | ignored => exact sound
      | requested => exact sound_request sound
      | settings => exact sound_settings sound _ _ _
      | queued task free => exact ⟨sound.lifecycle, sound.management.execute free⟩
      | restartChecked | removalChecked => exact ⟨sound.lifecycle, sound.management⟩
  | restart => exact sound_request ⟨sound.lifecycle, sound.management⟩
  | claimed free => exact ⟨sound.lifecycle, sound.management.execute free⟩
  | unclaimed | exited => exact ⟨sound.lifecycle, sound.management⟩
  | begun task queue free waiting =>
      refine ⟨sound.lifecycle, ?_⟩
      have tasks : service.management.tasks = task :: queue := by
        simp [Management.tasks, free, waiting]
      exact
        { different := by
            have different := sound.management.different
            rw [tasks] at different
            simpa [Management.tasks] using different
          flagged := by
            intro other member
            apply sound.management.flagged other
            rw [tasks]
            simpa [Management.tasks] using member
          fits := by
            rintro _ ⟨⟩
            cases task <;> trivial }
  | managed phase deed after running moves =>
      refine ⟨?_, sound.management.manage running moves⟩
      cases deed with
      | requestStart =>
          exact (sound_request (sound_managing sound running moves)).lifecycle
      | clear task => cases task <;> exact sound.lifecycle
      | _ => exact sound.lifecycle
  | took executor taken => exact ⟨sound.lifecycle.take taken, sound.management⟩
  | performed ticket phase deed after running moves =>
      refine ⟨sound.lifecycle.perform running moves, ?_⟩
      cases deed with
      | clearFlags =>
          rw [BootService.perform, BootService.clearFlags]
          split <;> exact sound.management
      | _ => exact sound.management

end DawnShell.App
