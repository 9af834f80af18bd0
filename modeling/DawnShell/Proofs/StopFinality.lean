/-
Module: DawnShell.Proofs.StopFinality
Layer: Proofs
Purpose: A stop that has been accepted and has succeeded is final.  An automatic start compares the
  generation it began with before it acts; what it has compared stays true as long as no stop is accepted
  until it has acted.  Behind the stop, `lifecycleExecutor` runs only what was submitted later, and a
  command that was left to itself before has nothing more to start.
Trusted boundary: none
Main exports: Origin.automatic, BootService.Final, StartsSettled, StopsAlone, StopsHeld, SystemHeld,
  stop_is_final
-/
import DawnShell.App.RootCommands
import DawnShell.Proofs.BootServiceSteps

namespace DawnShell.App

open TaskQueue TaskQueue.Executor Transition

variable {service next : BootService} {operation : Operation} {trigger : Trigger} {label : Label}

/-! ### Statement -/

/-- The generation at which the task began that has started Debian automatically. -/
def Origin.automatic : Origin → Option Nat
  | .requested (.lockedBoot controlGeneration) => some controlGeneration
  | .configured controlGeneration => some controlGeneration
  | _ => none

/-- A Debian that was started automatically comes from a task that began after every stop which has
succeeded and which no explicit start has followed. -/
def BootService.Final (service : BootService) : Prop :=
  ∀ stop ∈ service.stops, stop.completed = true → ∀ controlGeneration,
    service.debian.bind Origin.automatic = some controlGeneration →
      stop.controlGeneration ≤ controlGeneration

/-- The generation of an automatic start that has been compared and has not acted yet. -/
def ManagementPhase.starting : ManagementPhase → Option Nat
  | .requesting controlGeneration => some controlGeneration
  | .startingConfigured controlGeneration (_ :: _) => some controlGeneration
  | _ => none

/-- No stop is accepted between the comparison of an automatic start and what it does: the request of the
startup checks, or the start of Debian at the end of a configuration. -/
def StartsSettled (service : BootService) (label : Label) : Prop :=
  acceptsStop service label = true →
    service.management.worker.bind ManagementPhase.starting = none

instance : Decidable (StartsSettled service label) :=
  inferInstanceAs (Decidable (_ → _))

/-- A command has still to start Debian automatically. -/
def RootCommand.startsAutomatically (command : RootCommand) : Bool :=
  command.origin.automatic.isSome && command.remaining.contains .up

/-- Moreover no command of an automatic start that was left to itself has still to start Debian when the
command of a stop takes Debian down. -/
def StopsAlone (system : BootSystem) : SystemLabel → Prop
  | .service label => StartsSettled system.service label ∧
      (stopActs system.service label = true →
        ∀ command ∈ system.abandoned, command.startsAutomatically = false)
  | _ => True

instance {system : BootSystem} : (label : SystemLabel) → Decidable (StopsAlone system label)
  | .service _ => inferInstanceAs (Decidable (_ ∧ _))
  | .executorAbandons | .lifecycleAbandons | .abandonedActs _ | .abandonedEnds _ =>
      inferInstanceAs (Decidable True)

/-! ### Invariant -/

/-- The task of a stop, which nothing triggers automatically. -/
def LifecycleTask.IsStop (task : LifecycleTask) : Prop :=
  ∃ operation trigger, task = .operation operation trigger ∧
    (operation = .stop ∨ operation = .forceStop) ∧
    ∀ controlGeneration, trigger ≠ .lockedBoot controlGeneration

/-- The stop has succeeded, or its command has done all that it had to do. -/
def BootService.Reached (service : BootService) (stop : AcceptedStop) : Prop :=
  stop.completed = true ∨ ∃ ticket, service.lifecycle.executor.worker = some (ticket, .running []) ∧
    ticket.id = stop.requestId

/-- What holds of the stops that have been accepted. -/
structure StopsHeld (service : BootService) : Prop where
  bounded : ∀ stop ∈ service.stops,
    stop.controlGeneration ≤ service.lifecycle.urgentControlGeneration ∧
      stop.requestId ≤ service.lifecycle.lifecycleRequestId
  compared : ∀ controlGeneration,
    service.management.worker.bind ManagementPhase.starting = some controlGeneration →
      ∀ stop ∈ service.stops, stop.controlGeneration ≤ controlGeneration
  submitted : ∀ ticket ∈ service.lifecycle.executor.tickets, ∀ operation controlGeneration,
    ticket.task = .operation operation (.lockedBoot controlGeneration) →
      ∀ stop ∈ service.stops, stop.requestId < ticket.id → stop.controlGeneration ≤ controlGeneration
  kind : ∀ stop ∈ service.stops, ∀ ticket ∈ service.lifecycle.executor.tickets,
    ticket.id = stop.requestId → ticket.task.IsStop
  passed : ∀ stop ∈ service.stops, stop.completed = true →
    ∀ ticket ∈ service.lifecycle.executor.tickets, stop.requestId ≤ ticket.id
  down : ∀ stop ∈ service.stops, service.Reached stop →
    ∀ controlGeneration, service.debian.bind Origin.automatic = some controlGeneration →
      stop.controlGeneration ≤ controlGeneration

/-- Before any request there is no stop to be held. -/
theorem stopsHeld_initial : StopsHeld initialService where
  bounded := nofun
  compared := nofun
  submitted := nofun
  kind := nofun
  passed := nofun
  down := nofun

/-- A stop that begins with a submission has not been reached, and the submission reaches no other. -/
theorem reached_enqueue (sound : service.Sound) {task : LifecycleTask} {active : Option Operation}
    {urgent : Bool} {stops : List AcceptedStop}
    (known : ∀ stop ∈ stops, stop ∈ service.stops ∨
      stop = ⟨service.lifecycle.lifecycleRequestId + 1, service.lifecycle.urgentControlGeneration + 1,
        false⟩)
    (stop : AcceptedStop) (member : stop ∈ stops)
    (reached : BootService.Reached
      { service with
        lifecycle := { service.lifecycle with
          executor := service.lifecycle.executor.cancel service.lifecycle.lifecycleRequestId }.enqueue
            task active urgent
        stops := stops } stop) :
    stop ∈ service.stops ∧ service.Reached stop := by
  have running : ∀ ticket, (service.lifecycle.executor.cancel service.lifecycle.lifecycleRequestId).worker =
      some (ticket, .running []) → ∃ before, service.lifecycle.executor.worker =
        some (before, .running []) ∧ ticket.id = before.id := by
    intro ticket running
    obtain ⟨⟨before, phase⟩, worker, moved⟩ := Option.map_eq_some_iff.mp running
    cases moved
    refine ⟨before, worker, ?_⟩
    rw [cancelled]
    split <;> rfl
  rcases known stop member with old | rfl
  · refine ⟨old, reached.imp_right ?_⟩
    rintro ⟨ticket, worker, id⟩
    obtain ⟨before, there, same⟩ := running ticket worker
    exact ⟨before, there, same.symm.trans id⟩
  · rcases reached with completed | ⟨ticket, worker, id⟩
    · cases completed
    · obtain ⟨before, there, same⟩ := running ticket worker
      have among : before ∈ service.lifecycle.executor.tickets := by simp [tickets_of_worker there]
      have bound := (sound.lifecycle.serial.current before among).1
      rw [← same, id] at bound
      exact absurd bound (by simp)

/-- A task that is submitted, together with a stop that begins in this step or none. -/
theorem stopsHeld_enqueue (sound : service.Sound) (held : StopsHeld service) {task : LifecycleTask}
    {active : Option Operation} {urgent : Bool} {stops : List AcceptedStop}
    (known : ∀ stop ∈ stops, stop ∈ service.stops ∨
      (stop = ⟨service.lifecycle.lifecycleRequestId + 1,
          service.lifecycle.urgentControlGeneration + 1, false⟩ ∧
        urgent = true ∧ task.IsStop ∧
        service.management.worker.bind ManagementPhase.starting = none))
    (automatic : ∀ operation controlGeneration,
      task = .operation operation (.lockedBoot controlGeneration) →
        ∀ stop ∈ service.stops, stop.controlGeneration ≤ controlGeneration) :
    StopsHeld
      { service with
        lifecycle := { service.lifecycle with
          executor := service.lifecycle.executor.cancel service.lifecycle.lifecycleRequestId }.enqueue
            task active urgent
        stops := stops } where
  bounded stop member := by
    rcases known stop member with old | ⟨rfl, rfl, -⟩
    · obtain ⟨generation, request⟩ := held.bounded stop old
      refine ⟨Nat.le_trans generation ?_, Nat.le_succ_of_le request⟩
      simp only [Lifecycle.enqueue]
      split
      · exact Nat.le_succ _
      · exact Nat.le_refl _
    · exact ⟨Nat.le_refl _, Nat.le_refl _⟩
  compared controlGeneration starting stop member := by
    rcases known stop member with old | ⟨-, -, -, none⟩
    · exact held.compared controlGeneration starting stop old
    · rw [none] at starting
      cases starting
  submitted ticket among operation controlGeneration same stop member before := by
    have bound := fun ticket among => (sound.lifecycle.serial.current ticket among).1
    rcases mem_submit_cancel among with ⟨older, among, id, kind⟩ | rfl
    · rcases known stop member with old | ⟨rfl, -⟩
      · exact held.submitted older among operation controlGeneration (kind ▸ same) stop old (id ▸ before)
      · -- The stop that begins now has the latest ticket.
        have := bound older among
        rw [id] at before
        exact absurd before (by simp; omega)
    · rcases known stop member with old | ⟨rfl, -⟩
      · exact automatic operation controlGeneration same stop old
      · exact absurd before (Nat.lt_irrefl _)
  kind stop member ticket among same := by
    rcases mem_submit_cancel among with ⟨older, among, id, kind⟩ | rfl
    · rw [kind]
      rcases known stop member with old | ⟨rfl, -⟩
      · exact held.kind stop old older among (id ▸ same)
      · have := (sound.lifecycle.serial.current older among).1
        rw [id] at same
        exact absurd same (by simp; omega)
    · rcases known stop member with old | ⟨-, -, isStop, -⟩
      · have := (held.bounded stop old).2
        exact absurd same (by simp; omega)
      · exact isStop
  passed stop member completed ticket among := by
    rcases known stop member with old | ⟨rfl, -⟩
    · rcases mem_submit_cancel among with ⟨older, among, id, -⟩ | rfl
      · exact id ▸ held.passed stop old completed older among
      · exact Nat.le_succ_of_le (held.bounded stop old).2
    · cases completed
  down stop member reached := by
    obtain ⟨old, before⟩ := reached_enqueue sound
      (fun stop member => (known stop member).imp_right And.left) stop member reached
    exact held.down stop old before

/-- An operation that is requested keeps the stops in force: an automatic start comes with a generation
that no stop has passed, and no such start is between its comparison and its act when a stop comes. -/
theorem stopsHeld_request (sound : service.Sound) (held : StopsHeld service)
    (starts : ∀ controlGeneration, trigger = .lockedBoot controlGeneration → operation = .start ∧
      ∀ stop ∈ service.stops, stop.controlGeneration ≤ controlGeneration)
    (settled : ∀ lifecycle, service.lifecycle.request operation trigger = some lifecycle →
      operation = .stop ∨ operation = .forceStop →
        service.management.worker.bind ManagementPhase.starting = none) :
    StopsHeld (service.requestLifecycleOperation operation trigger) := by
  rw [BootService.requestLifecycleOperation]
  split
  · exact held
  next lifecycle accepted =>
    have settled := settled lifecycle accepted
    obtain ⟨rfl, -⟩ := request_eq sound.lifecycle accepted
    apply stopsHeld_enqueue sound held
    · intro stop member
      have explicit : operation = .stop ∨ operation = .forceStop →
          ∀ controlGeneration, trigger ≠ .lockedBoot controlGeneration := by
        rintro (rfl | rfl) controlGeneration same <;> cases (starts controlGeneration same).1
      cases operation with
      | stop | forceStop =>
          rcases List.mem_append.mp member with old | new
          · exact .inl old
          · have isStop := explicit (by simp)
            have settled := settled (by simp)
            exact .inr ⟨List.mem_singleton.mp new, rfl, ⟨_, trigger, rfl, by simp, isStop⟩, settled⟩
      | restart => cases member
      | start =>
          simp only [stopsAfter] at member
          split at member
          · cases member
          · exact .inl member
      | status => exact .inl member
    · intro other controlGeneration same
      cases same
      exact (starts controlGeneration rfl).2

/-- Applying settings asks for no start, so that the stops that were accepted stay in force. -/
theorem stopsHeld_settings (sound : service.Sound) (held : StopsHeld service)
    (applyUsb applyDocker applyCgroup : Bool) :
    StopsHeld (service.requestRuntimeSettingsApplication applyUsb applyDocker applyCgroup) := by
  rcases settings_cases sound.lifecycle applyUsb applyDocker applyCgroup with same | ⟨made, -, empty⟩
  · rw [same]
    exact held
  · have enqueued : StopsHeld
        { service with
          lifecycle := { service.lifecycle with
            executor := service.lifecycle.executor.cancel service.lifecycle.lifecycleRequestId }.enqueue
              (.settings applyUsb applyDocker applyCgroup) none true
          stops := service.stops } :=
      stopsHeld_enqueue sound held (fun stop member => .inl member) nofun
    rw [made]
    rw [cancel_of_empty empty] at enqueued
    exact ⟨enqueued.bounded, enqueued.compared, enqueued.submitted, enqueued.kind, enqueued.passed,
      enqueued.down⟩

/-! ### Steps of `lifecycleExecutor` -/

/-- Steps that change neither Debian nor the stops, and leave no more tickets. -/
theorem StopsHeld.executing (held : StopsHeld service)
    {executor : Executor LifecycleTask LifecyclePhase}
    (fewer : ∀ ticket ∈ executor.tickets, ticket ∈ service.lifecycle.executor.tickets)
    (undone : ∀ ticket, executor.worker = some (ticket, .running []) → ¬ticket.task.IsStop) :
    StopsHeld (service.executing executor) where
  bounded := held.bounded
  compared := held.compared
  submitted ticket among := held.submitted ticket (fewer ticket among)
  kind stop member ticket among := held.kind stop member ticket (fewer ticket among)
  passed stop member completed ticket among :=
    held.passed stop member completed ticket (fewer ticket among)
  down stop member reached := by
    rcases reached with completed | ⟨ticket, running, id⟩
    · exact held.down stop member (.inl completed)
    · have running : executor.worker = some (ticket, .running []) := running
      have first := fewer ticket (by simp [tickets_of_worker running])
      exact absurd (held.kind stop member ticket first id) (undone ticket running)

/-- A task that is taken has not begun to run. -/
theorem not_running_of_take {executor : Executor LifecycleTask LifecyclePhase}
    {ticket : Ticket LifecycleTask} {remaining : List Effect}
    (taken : service.lifecycle.executor.take (fun _ => .provisioning) = some executor) :
    executor.worker ≠ some (ticket, .running remaining) := by
  intro running
  rw [take] at taken
  split at taken
  next free _ =>
    split at taken
    · cases taken
      rw [free] at running
      cases running
    · cases taken
      cases running
  next => cases taken

/-- A worker that takes up a task changes nothing about the stops that were accepted. -/
theorem stopsHeld_take {executor : Executor LifecycleTask LifecyclePhase} (held : StopsHeld service)
    (taken : service.lifecycle.executor.take (fun _ => .provisioning) = some executor) :
    StopsHeld (service.executing executor) :=
  held.executing (fun _ among => mem_of_take taken among)
    fun _ running => absurd running (not_running_of_take taken)

/-- An automatic start that is not over was submitted behind every stop that has succeeded, and so it
began behind it. -/
theorem generation_of_ticket {ticket : Ticket LifecycleTask} (held : StopsHeld service)
    (among : ticket ∈ service.lifecycle.executor.tickets) {stop : AcceptedStop}
    (member : stop ∈ service.stops) (completed : stop.completed = true) {controlGeneration : Nat}
    (automatic : ticket.task.origin.automatic = some controlGeneration) :
    stop.controlGeneration ≤ controlGeneration := by
  cases task : ticket.task with
  | settings =>
      rw [task] at automatic
      cases automatic
  | operation operation trigger =>
      rw [task] at automatic
      cases trigger with
      | appButton | bootCompletedUnlocked => cases automatic
      | lockedBoot generation =>
          cases automatic
          -- The ticket is not that of the stop, and so it was submitted later.
          have apart : ticket.id ≠ stop.requestId := by
            intro same
            obtain ⟨_, _, kind, _, explicit⟩ := held.kind stop member ticket among same
            rw [task] at kind
            cases kind
            exact explicit _ rfl
          have behind := held.passed stop member completed ticket among
          exact held.submitted ticket among operation controlGeneration task stop member
            (Nat.lt_of_le_of_ne behind apart.symm)

/-- What is known when a command has done something to Debian. -/
theorem automatic_of_effect {effect : Effect} {origin : Origin} {debian : Option Origin}
    {controlGeneration : Nat}
    (automatic : (effect.apply origin debian).bind Origin.automatic = some controlGeneration) :
    debian.bind Origin.automatic = some controlGeneration ∨
      effect = .up ∧ origin.automatic = some controlGeneration := by
  cases effect with
  | down => cases automatic
  | up =>
      cases debian with
      | some other => exact .inl automatic
      | none => exact .inr ⟨rfl, automatic⟩

/-- What is known when a task of `lifecycleExecutor` has done something to Debian. -/
theorem down_of_effect {ticket : Ticket LifecycleTask} {effect : Effect} {phase : LifecyclePhase}
    (held : StopsHeld service) (running : service.lifecycle.executor.worker = some (ticket, phase))
    (stop : AcceptedStop) (member : stop ∈ service.stops) (completed : stop.completed = true)
    (controlGeneration : Nat)
    (automatic : (effect.apply ticket.task.origin service.debian).bind Origin.automatic =
      some controlGeneration) : stop.controlGeneration ≤ controlGeneration := by
  have first : ticket ∈ service.lifecycle.executor.tickets := by simp [tickets_of_worker running]
  rcases automatic_of_effect automatic with before | ⟨-, now⟩
  · exact held.down stop member (.inl completed) controlGeneration before
  · exact generation_of_ticket held first member completed now

/-- The last thing that a stop does to Debian. -/
theorem down_of_stop {ticket : Ticket LifecycleTask} {effect : Effect} (sound : service.Sound)
    (running : service.lifecycle.executor.worker = some (ticket, .running [effect]))
    (isStop : ticket.task.IsStop) : effect = .down := by
  obtain ⟨operation, trigger, task, kind, -⟩ := isStop
  have fits := sound.lifecycle.fits ticket _ running
  rw [task] at fits
  rcases kind with rfl | rfl <;> exact effect_of_stop fits

/-- What a command does on the system keeps the stops, since a start behind one is not in the queue. -/
theorem stopsHeld_effect {ticket : Ticket LifecycleTask} {effect : Effect} {phase after : LifecyclePhase}
    (sound : service.Sound) (held : StopsHeld service)
    (running : service.lifecycle.executor.worker = some (ticket, phase))
    (moves : LifecycleMoves ticket phase (.effect effect) after) :
    StopsHeld ((service.executing (service.lifecycle.executor.advance ticket after)).perform
      ticket (.effect effect)) := by
  have same := tickets_advance running after
  have first : ticket ∈ service.lifecycle.executor.tickets := by simp [tickets_of_worker running]
  exact
    { bounded := held.bounded
      compared := held.compared
      submitted := fun ticket among => held.submitted ticket (same ▸ among)
      kind := fun stop member ticket among => held.kind stop member ticket (same ▸ among)
      passed := fun stop member completed ticket among =>
        held.passed stop member completed ticket (same ▸ among)
      down := by
        rintro stop member (completed | ⟨other, worker, id⟩) controlGeneration automatic
        · exact down_of_effect held running stop member completed controlGeneration automatic
        · cases worker
          cases moves with
          | effect =>
              cases down_of_stop sound running (held.kind stop member ticket first id)
              cases automatic }

/-- A task that is completed leaves the queue to those that came later; if it is a stop, it has then
been reached with nothing older behind it. -/
theorem stopsHeld_complete {ticket : Ticket LifecycleTask} (sound : service.Sound)
    (held : StopsHeld service)
    (running : service.lifecycle.executor.worker = some (ticket, .running [])) :
    StopsHeld ((service.executing (service.lifecycle.executor.advance ticket .ending)).perform
      ticket .complete) := by
  have same := tickets_advance running LifecyclePhase.ending
  -- A stop afterwards is one before, completed or not.
  have before : ∀ stop ∈ (service.complete ticket.id).stops, ∃ older ∈ service.stops,
      stop.requestId = older.requestId ∧ stop.controlGeneration = older.controlGeneration ∧
        (stop.completed = true → older.completed = true ∨ ticket.id = older.requestId) := by
    intro stop member
    obtain ⟨older, among, rfl⟩ := List.mem_map.mp member
    refine ⟨older, among, ?_⟩
    split
    next id => exact ⟨rfl, rfl, fun _ => .inr id.symm⟩
    next => exact ⟨rfl, rfl, .inl⟩
  refine ⟨fun stop member => ?_, fun controlGeneration starting stop member => ?_,
    fun other among operation controlGeneration task stop member later => ?_,
    fun stop member other among id => ?_, fun stop member completed other among => ?_,
    fun stop member reached controlGeneration automatic => ?_⟩
  all_goals obtain ⟨older, among', id', generation, completed'⟩ := before stop member
  · rw [generation, id']
    exact held.bounded older among'
  · rw [generation]
    exact held.compared controlGeneration starting older among'
  · rw [generation]
    exact held.submitted other (same ▸ among) operation controlGeneration task older among'
      (id' ▸ later)
  · exact held.kind older among' other (same ▸ among) (id.trans id')
  · rw [id']
    rcases completed' completed with done | now
    · exact held.passed older among' done other (same ▸ among)
    · exact now ▸ sound.lifecycle.serial.first running other (same ▸ among)
  · rw [generation]
    apply held.down older among' ?_ controlGeneration automatic
    rcases reached with completed | ⟨_, worker, _⟩
    · exact (completed' completed).imp_right fun now => ⟨ticket, running, now⟩
    · cases worker

/-- Whatever the lifecycle worker does next, the stops stay in force: what it brings up is asked for by
a task that no stop has passed. -/
theorem stopsHeld_perform {ticket : Ticket LifecycleTask} {phase after : LifecyclePhase}
    {deed : LifecycleDeed} (sound : service.Sound) (held : StopsHeld service)
    (running : service.lifecycle.executor.worker = some (ticket, phase))
    (moves : LifecycleMoves ticket phase deed after) :
    StopsHeld ((service.executing (service.lifecycle.executor.advance ticket after)).perform
      ticket deed) := by
  have same := tickets_advance running after
  have goes : (after = .running [] → ¬ticket.task.IsStop) →
      StopsHeld (service.executing (service.lifecycle.executor.advance ticket after)) := by
    intro undone
    apply held.executing fun other among => same ▸ among
    rintro _ ⟨⟩
    exact undone rfl
  cases moves with
  | effect | stopEffect | startEffect => exact stopsHeld_effect sound held running (by constructor)
  | complete => exact stopsHeld_complete sound held running
  | prepared task =>
      apply goes
      rintro ends ⟨operation, trigger, same, kind, -⟩
      rw [task] at same
      cases same
      rcases kind with rfl | rfl <;> cases ends
  | clearDocker =>
      have held := goes (by rintro ⟨⟩)
      exact ⟨held.bounded, held.compared, held.submitted, held.kind, held.passed, held.down⟩
  | clearFlags =>
      have held := goes (by rintro ⟨⟩)
      rw [BootService.perform, BootService.clearFlags]
      split <;>
        exact ⟨held.bounded, held.compared, held.submitted, held.kind, held.passed, held.down⟩
  | leave =>
      have fewer : ∀ other ∈ service.lifecycle.executor.release.tickets,
          other ∈ service.lifecycle.executor.tickets := by
        intro other among
        rw [tickets_of_worker running]
        exact List.mem_cons_of_mem _ among
      refine held.executing fewer ?_
      intro _ idle
      cases idle
  | _ => exact goes (by rintro ⟨⟩)

/-! ### Steps of `executor` -/

/-- A step of `executor` that only changes where it is. -/
theorem StopsHeld.managing (held : StopsHeld service) {after : Option ManagementPhase}
    (compared : ∀ controlGeneration, after.bind ManagementPhase.starting = some controlGeneration →
      ∀ stop ∈ service.stops, stop.controlGeneration ≤ controlGeneration) :
    StopsHeld (service.managing after) where
  bounded := held.bounded
  compared := compared
  submitted := held.submitted
  kind := held.kind
  passed := held.passed
  down := held.down

/-- What is known of the generation of an automatic start: from its comparison to what follows it, no
stop is newer than that generation. -/
theorem compared_after {phase : ManagementPhase} {deed : ManagementDeed}
    {after : Option ManagementPhase} {debianRunning : Bool} (held : StopsHeld service)
    (running : service.management.worker = some phase)
    (moves : ManagementMoves service.lifecycle.urgentControlGeneration debianRunning phase deed after) :
    ∀ controlGeneration, after.bind ManagementPhase.starting = some controlGeneration →
      ∀ stop ∈ service.stops, stop.controlGeneration ≤ controlGeneration := by
  intro controlGeneration starting stop member
  cases moves with
  | unchanged generation same | start generation same =>
      cases starting
      exact same ▸ (held.bounded stop member).1
  | startEffect generation effect remaining =>
      cases remaining with
      | nil => cases starting
      | cons =>
          cases starting
          apply held.compared controlGeneration ?_ stop member
          rw [running]
          rfl
  | _ => cases starting

/-- Whatever the management worker does next, the stops stay in force: its own start is behind the
comparison that it has just made. -/
theorem stopsHeld_manage {phase : ManagementPhase} {deed : ManagementDeed}
    {after : Option ManagementPhase} {debianRunning : Bool} (sound : service.Sound)
    (held : StopsHeld service) (running : service.management.worker = some phase)
    (moves : ManagementMoves service.lifecycle.urgentControlGeneration debianRunning phase deed after) :
    StopsHeld ((service.managing after).manage deed) := by
  have before := held.managing (compared_after held running moves)
  have goes := sound_managing sound running moves
  have fits := sound.management.fits phase running
  -- Taking Debian down leaves nothing to show.
  have downs : ∀ controlGeneration,
      StopsHeld ((service.managing after).manage (.effect .down controlGeneration)) := fun _ =>
    ⟨before.bounded, before.compared, before.submitted, before.kind, before.passed,
      fun _ _ _ _ automatic => nomatch automatic⟩
  have started := held.compared
  rw [running] at started
  cases moves with
  | stopEffect _ effect remaining | removalEffect effect remaining =>
      cases effect_of_stop fits
      exact downs _
  | startEffect controlGeneration effect remaining =>
      cases effect with
      | down => exact downs _
      | up =>
          refine ⟨before.bounded, before.compared, before.submitted, before.kind, before.passed, ?_⟩
          intro stop member reached generation automatic
          have automatic : (Effect.up.apply (.configured controlGeneration) service.debian).bind
              Origin.automatic = some generation := automatic
          rcases automatic_of_effect automatic with already | ⟨-, now⟩
          · exact held.down stop member reached generation already
          · cases now
            exact started controlGeneration rfl stop member
  | requested controlGeneration =>
      apply stopsHeld_request goes before
      · rintro _ ⟨⟩
        exact ⟨rfl, started controlGeneration rfl⟩
      · intro _ _ kind
        simp at kind
  | clear task =>
      cases task <;>
        exact ⟨before.bounded, before.compared, before.submitted, before.kind, before.passed, before.down⟩
  | _ => exact before

/-! ### Result -/

/-- One step of any party keeps the stops in force when the starts have settled. -/
theorem stopsHeld_step (sound : service.Sound) (held : StopsHeld service)
    (settled : StartsSettled service label) (stepped : Stepped service label next) :
    StopsHeld next := by
  have idle : StopsHeld { service with main := .idle } :=
    ⟨held.bounded, held.compared, held.submitted, held.kind, held.passed, held.down⟩
  cases changes_of_step stepped with
  | handled _ handled =>
      cases handled with
      | ignored => exact held
      | requested operation trigger accepted kind =>
          apply stopsHeld_request sound held
          · intro controlGeneration same
            exact absurd same (kind.2 controlGeneration)
          · intro lifecycle goes isStop
            apply settled
            rw [acceptsStop, accepted lifecycle goes]
            rcases isStop with rfl | rfl <;> rfl
      | settings => exact stopsHeld_settings sound held _ _ _
      | queued | restartChecked | removalChecked =>
          exact ⟨held.bounded, held.compared, held.submitted, held.kind, held.passed, held.down⟩
  | restart =>
      have before : ({ service with main := .idle } : BootService).Sound :=
        ⟨sound.lifecycle, sound.management⟩
      apply stopsHeld_request before idle
      · nofun
      · intro _ _ kind
        simp at kind
  | claimed =>
      exact ⟨idle.bounded, idle.compared, idle.submitted, idle.kind, idle.passed, idle.down⟩
  | unclaimed => exact idle
  | exited =>
      exact ⟨held.bounded, held.compared, held.submitted, held.kind, held.passed,
        fun _ _ _ _ automatic => nomatch automatic⟩
  | begun task queue free waiting =>
      refine ⟨held.bounded, ?_, held.submitted, held.kind, held.passed, held.down⟩
      intro controlGeneration starting
      cases task <;> cases starting
  | managed phase deed after running moves => exact stopsHeld_manage sound held running moves
  | took executor taken => exact stopsHeld_take held taken
  | performed ticket phase deed after running moves acts => exact stopsHeld_perform sound held running moves

/-! ### Stops that are reached -/

/-- A stop that was reached behind a request was reached before it, for a request only submits and never
acts. -/
theorem reached_request (sound : service.Sound) (stop : AcceptedStop)
    (member : stop ∈ (service.requestLifecycleOperation operation trigger).stops)
    (reached : (service.requestLifecycleOperation operation trigger).Reached stop) :
    stop ∈ service.stops ∧ service.Reached stop := by
  rw [BootService.requestLifecycleOperation] at member reached
  cases accepted : service.lifecycle.request operation trigger with
  | none =>
      rw [accepted] at member reached
      exact ⟨member, reached⟩
  | some lifecycle =>
      rw [accepted] at member reached
      obtain ⟨rfl, -⟩ := request_eq sound.lifecycle accepted
      refine reached_enqueue sound (fun stop member => ?_) stop member reached
      cases operation with
      | stop | forceStop => exact (List.mem_append.mp member).imp_right List.mem_singleton.mp
      | restart => cases member
      | start =>
          simp only [stopsAfter] at member
          split at member
          · cases member
          · exact .inl member
      | status => exact .inl member

/-- A step of `lifecycleExecutor` reaches a stop when its command acts, and at no other step is one
reached that was not reached before. -/
theorem reached_perform {ticket : Ticket LifecycleTask} {phase after : LifecyclePhase}
    {deed : LifecycleDeed} (held : StopsHeld service)
    (running : service.lifecycle.executor.worker = some (ticket, phase))
    (moves : LifecycleMoves ticket phase deed after)
    (acts : ∃ progress, label = .lifecycle progress ∧
      lifecycleMove ticket service.debian.isSome phase progress = some (deed, after))
    (stop : AcceptedStop)
    (member : stop ∈ ((service.executing (service.lifecycle.executor.advance ticket after)).perform
      ticket deed).stops)
    (reached : ((service.executing (service.lifecycle.executor.advance ticket after)).perform
      ticket deed).Reached stop) :
    stopActs service label = true ∨ ∃ before ∈ service.stops, service.Reached before ∧
      before.controlGeneration = stop.controlGeneration := by
  have first : ticket ∈ service.lifecycle.executor.tickets := by simp [tickets_of_worker running]
  -- Whatever else a step does, it leaves the stops that had succeeded.
  have same : stop ∈ service.stops → stop.completed = true → ∃ before ∈ service.stops,
      service.Reached before ∧ before.controlGeneration = stop.controlGeneration :=
    fun member completed => ⟨stop, member, .inl completed, rfl⟩
  cases moves with
  | effect effect remaining =>
      rcases reached with completed | ⟨other, worker, id⟩
      · exact .inr (same member completed)
      · left
        cases worker
        obtain ⟨progress, rfl, moved⟩ := acts
        obtain ⟨operation, trigger, task, kind, -⟩ := held.kind stop member ticket first id
        have acted : progress = .effect := by
          cases progress <;> first | rfl | cases moved
        obtain ⟨number, work, cancelled⟩ := ticket
        cases task
        rw [acted, stopActs, running]
        rcases kind with rfl | rfl <;> rfl
  | complete =>
      right
      obtain ⟨older, among, rfl⟩ := List.mem_map.mp member
      have generation : (if older.requestId = ticket.id then { older with completed := true }
          else older).controlGeneration = older.controlGeneration := by
        split <;> rfl
      refine ⟨older, among, ?_, generation.symm⟩
      rcases reached with completed | ⟨_, worker, _⟩
      · split at completed
        next id => exact .inr ⟨ticket, running, id.symm⟩
        next => exact .inl completed
      · cases worker
  | clearFlags =>
      right
      rw [BootService.perform, BootService.clearFlags] at member reached
      split at reached
      next latest =>
        rw [if_pos latest] at member
        rcases reached with completed | ⟨_, worker, _⟩
        · exact same member completed
        · cases worker
      next latest =>
        rw [if_neg latest] at member
        rcases reached with completed | ⟨_, worker, _⟩
        · exact same member completed
        · cases worker
  | prepared task =>
      right
      rcases reached with completed | ⟨other, worker, id⟩
      · exact same member completed
      · obtain ⟨rfl, ends⟩ : ticket = other ∧ LifecyclePhase.running _ = .running [] :=
          Prod.mk.inj (Option.some.inj worker)
        obtain ⟨operation, trigger, kind, isStop, -⟩ := held.kind stop member ticket first id
        rw [task] at kind
        cases kind
        rcases isStop with rfl | rfl <;> cases ends
  | _ =>
      right
      rcases reached with completed | ⟨_, worker, _⟩
      · exact same member completed
      · cases worker

/-- A stop that a step of the service reaches was reached before, or its command acts in this step. -/
theorem reached_step (sound : service.Sound) (held : StopsHeld service)
    (stepped : Stepped service label next) (stop : AcceptedStop) (member : stop ∈ next.stops)
    (reached : next.Reached stop) :
    stopActs service label = true ∨ ∃ before ∈ service.stops, service.Reached before ∧
      before.controlGeneration = stop.controlGeneration := by
  have unchanged : stop ∈ service.stops ∧ service.Reached stop →
      stopActs service label = true ∨ ∃ before ∈ service.stops, service.Reached before ∧
        before.controlGeneration = stop.controlGeneration :=
    fun known => .inr ⟨stop, known.1, known.2, rfl⟩
  cases changes_of_step stepped with
  | handled _ handled =>
      cases handled with
      | requested => exact unchanged (reached_request sound stop member reached)
      | settings =>
          rcases settings_cases sound.lifecycle _ _ _ with same | ⟨made, -, -⟩
          · rw [same] at member reached
            exact unchanged ⟨member, reached⟩
          · rw [made] at member reached
            exact unchanged ⟨member, reached⟩
      | _ => exact unchanged ⟨member, reached⟩
  | restart =>
      have idle : ({ service with main := .idle } : BootService).Sound :=
        ⟨sound.lifecycle, sound.management⟩
      exact unchanged (reached_request idle stop member reached)
  | managed phase deed after running moves =>
      cases deed with
      | requestStart =>
          exact unchanged (reached_request (sound_managing sound running moves) stop member reached)
      | clear task => cases task <;> exact unchanged ⟨member, reached⟩
      | _ => exact unchanged ⟨member, reached⟩
  | took executor taken =>
      rcases reached with completed | ⟨ticket, worker, _⟩
      · exact unchanged ⟨member, .inl completed⟩
      · exact absurd worker (not_running_of_take taken)
  | performed ticket phase deed after running moves acts =>
      exact reached_perform held running moves acts stop member reached
  | _ => exact unchanged ⟨member, reached⟩

/-! ### Commands that are left to themselves -/

/-- What always holds of the service and of the commands that nobody waits for. -/
structure SystemHeld (system : BootSystem) : Prop where
  sound : system.service.Sound
  held : StopsHeld system.service
  starts : ∀ command ∈ system.abandoned, .up ∈ command.remaining → ∀ controlGeneration,
    command.origin.automatic = some controlGeneration → ∀ stop ∈ system.service.stops,
      system.service.Reached stop → stop.controlGeneration ≤ controlGeneration

section System

variable {system following : BootSystem} {command : RootCommand}

/-- At first no command is under way and nothing has been stopped. -/
theorem systemHeld_initial : SystemHeld {} where
  sound := sound_initial
  held := stopsHeld_initial
  starts := nofun

/-- A command that is left to itself is as new as the stops that have been reached. -/
theorem SystemHeld.abandon (held : SystemHeld system)
    (starts : .up ∈ command.remaining → ∀ controlGeneration,
      command.origin.automatic = some controlGeneration → ∀ stop ∈ system.service.stops,
        system.service.Reached stop → stop.controlGeneration ≤ controlGeneration) :
    SystemHeld (system.abandon command) where
  sound := held.sound
  held := held.held
  starts other member := by
    rcases List.mem_append.mp member with before | now
    · exact held.starts other before
    · cases List.mem_singleton.mp now
      exact starts

/-- The command that `executor` waits for starts Debian only at the end of a configuration, which has
compared the generations. -/
theorem generation_of_executor {phase : ManagementPhase} (sound : service.Sound)
    (held : StopsHeld service) (running : service.management.worker = some phase)
    (waits : phase.command = some command) (up : .up ∈ command.remaining) {controlGeneration : Nat}
    (automatic : command.origin.automatic = some controlGeneration) (stop : AcceptedStop)
    (member : stop ∈ service.stops) : stop.controlGeneration ≤ controlGeneration := by
  have fits := sound.management.fits phase running
  have compared := held.compared controlGeneration
  rw [running] at compared
  cases phase with
  | stoppingForConfiguration _ remaining | stoppingForRemoval remaining =>
      cases waits
      cases List.mem_singleton.mp (fits.subset up)
  | startingConfigured _ remaining =>
      cases waits
      cases automatic
      cases remaining with
      | nil => cases up
      | cons effect remaining => exact compared rfl stop member
  | _ => cases waits

/-- The command that `lifecycleExecutor` waits for starts Debian automatically only when it was requested
behind every stop that has been reached. -/
theorem generation_of_lifecycle {ticket : Ticket LifecycleTask} {phase : LifecyclePhase}
    (held : StopsHeld service) (running : service.lifecycle.executor.worker = some (ticket, phase))
    (waits : phase.command ticket.task = some command) (up : .up ∈ command.remaining)
    {controlGeneration : Nat} (automatic : command.origin.automatic = some controlGeneration)
    (stop : AcceptedStop) (member : stop ∈ service.stops) (reached : service.Reached stop) :
    stop.controlGeneration ≤ controlGeneration := by
  have first : ticket ∈ service.lifecycle.executor.tickets := by simp [tickets_of_worker running]
  have origin : command.origin = ticket.task.origin := by
    cases phase <;> cases waits <;> rfl
  rcases reached with completed | ⟨other, worker, _⟩
  · exact generation_of_ticket held first member completed (origin ▸ automatic)
  · -- The command of a stop that has been reached has nothing more to do.
    rw [running] at worker
    cases worker
    cases waits
    cases up

/-- A command that nobody waits for does the next thing to Debian. If it is a start, the invariant says
that its generation is not older than any stop that has been reached. -/
theorem SystemHeld.act (held : SystemHeld system) {index : Nat} {origin : Origin} {effect : Effect}
    {remaining : List Effect} (here : system.abandoned[index]? = some ⟨origin, effect :: remaining⟩) :
    SystemHeld { system.act origin effect with
      abandoned := system.abandoned.set index ⟨origin, remaining⟩ } where
  sound := ⟨held.sound.lifecycle, held.sound.management⟩
  held :=
    { bounded := held.held.bounded
      compared := held.held.compared
      submitted := held.held.submitted
      kind := held.held.kind
      passed := held.held.passed
      down := by
        intro stop member reached controlGeneration automatic
        rcases automatic_of_effect automatic with already | ⟨rfl, now⟩
        · exact held.held.down stop member reached controlGeneration already
        · exact held.starts _ (List.mem_of_getElem? here) List.mem_cons_self controlGeneration now stop
            member reached }
  starts command member up controlGeneration automatic stop := by
    rcases List.mem_or_eq_of_mem_set member with before | rfl
    · exact held.starts command before up controlGeneration automatic stop
    · exact held.starts _ (List.mem_of_getElem? here) (List.mem_cons_of_mem _ up) controlGeneration
        automatic stop

/-- One step of the service or of a root process keeps the stops in force, when it is alone as the
condition asks. -/
theorem systemHeld_step {label : SystemLabel} (held : SystemHeld system) (alone : StopsAlone system label)
    (stepped : SystemStepped system label following) : SystemHeld following := by
  cases label with
  | service label =>
      obtain ⟨service, moved, rfl⟩ := Option.map_eq_some_iff.mp stepped
      obtain ⟨settled, quiet⟩ := alone
      refine ⟨sound_step held.sound moved, stopsHeld_step held.sound held.held settled moved, ?_⟩
      intro command among up controlGeneration automatic stop member reached
      rcases reached_step held.sound held.held moved stop member reached with
        acts | ⟨before, old, reachedBefore, same⟩
      · have starts : command.startsAutomatically = true := by
          simp [RootCommand.startsAutomatically, automatic, up]
        rw [quiet acts command among] at starts
        cases starts
      · exact same ▸ held.starts command among up controlGeneration automatic before old reachedBefore
  | executorAbandons =>
      obtain ⟨command, waits, rfl⟩ := Option.map_eq_some_iff.mp stepped
      obtain ⟨phase, running, waits⟩ := Option.bind_eq_some_iff.mp waits
      exact held.abandon fun up controlGeneration automatic stop member _ =>
        generation_of_executor held.sound held.held running waits up automatic stop member
  | lifecycleAbandons =>
      obtain ⟨command, waits, rfl⟩ := Option.map_eq_some_iff.mp stepped
      obtain ⟨⟨ticket, phase⟩, running, waits⟩ := Option.bind_eq_some_iff.mp waits
      exact held.abandon fun up controlGeneration automatic stop member reached =>
        generation_of_lifecycle held.held running waits up automatic stop member reached
  | abandonedActs index =>
      rw [SystemStepped, systemStep] at stepped
      split at stepped
      next here =>
        cases stepped
        exact held.act here
      next => cases stepped
  | abandonedEnds index =>
      obtain ⟨_, moved⟩ := Option.ite_none_right_eq_some.mp stepped
      cases moved
      exact ⟨held.sound, held.held, fun command member =>
        held.starts command (List.mem_of_mem_eraseIdx member)⟩

end System

/-- In a run in which no stop is accepted between the comparison of an automatic start and what it does,
and no stop acts while a command that an automatic start has left to itself is still to start Debian,
every stop that has succeeded is final. -/
theorem stop_is_final {trace : List (BootSystem × SystemLabel)} {last : BootSystem}
    (run : Run SystemStepped {} trace last) (meets : Meets StopsAlone trace) : last.service.Final := by
  have held : SystemHeld last := by
    apply run.invariant meets systemHeld_initial
    intro system label following held alone stepped
    exact systemHeld_step held alone stepped
  intro stop member completed
  exact held.held.down stop member (.inl completed)

/-- What a list of actions of the service is in the system. -/
def serviceLabels (labels : List Label) : List SystemLabel := labels.map .service

/-- A locked boot whose start is requested. -/
def bootLabels : List Label :=
  [.intent { action := .start } true false, .executorTakes, .executor .succeed, .executor .succeed,
    .lifecycleTakes, .lifecycle .succeed]

/-- A stop that `lifecycleExecutor` runs behind another task. -/
def stopLabels : List Label :=
  [.lifecycle .succeed, .lifecycle .succeed, .lifecycleTakes, .lifecycle .succeed, .lifecycle .effect,
    .lifecycle .succeed]

/-- A locked boot whose start is interrupted by a stop: its command starts Debian before the stop acts. -/
def bootThenStop : List SystemLabel :=
  serviceLabels (bootLabels ++ [.intent { action := .debianStop } true true]) ++
    [.lifecycleAbandons, .service (.lifecycle .fail), .abandonedActs 0] ++ serviceLabels stopLabels

/-- A locked boot with a stop between the comparison of the generations and the request. -/
def stopBeforeRequest : List SystemLabel :=
  serviceLabels [.intent { action := .start } true false, .executorTakes, .executor .succeed,
    .intent { action := .debianStop } true true, .lifecycleTakes, .lifecycle .succeed,
    .lifecycle .effect, .lifecycle .succeed, .lifecycle .succeed, .lifecycle .succeed,
    .executor .succeed, .lifecycleTakes, .lifecycle .succeed, .lifecycle .effect]

/-- A locked boot whose start is interrupted by a stop: its command starts Debian behind the stop. -/
def stopBeforeCommand : List SystemLabel :=
  serviceLabels (bootLabels ++ [.intent { action := .debianStop } true true]) ++
    [.lifecycleAbandons, .service (.lifecycle .fail)] ++ serviceLabels stopLabels ++ [.abandonedActs 0]

theorem stop_is_final_after_boot : ∃ reached,
    follow systemStep bootThenStop ([], {}) = some reached ∧
      reached.2.service.stops = [⟨2, 1, true⟩] ∧ reached.2.service.Final := by
  have meets : (follow systemStep bootThenStop ([], {})).any (fun reached =>
      decide (Meets StopsAlone reached.1) &&
        decide (reached.2.service.stops = [⟨2, 1, true⟩])) = true := by
    decide
  obtain ⟨reached, followed, holds⟩ := (Option.any_eq_true _ _).mp meets
  simp only [Bool.and_eq_true, decide_eq_true_eq] at holds
  exact ⟨reached, followed, holds.2, stop_is_final (run_of_follow .start followed) holds.1⟩

/-- A start that has compared the generations starts Debian after the stop has succeeded. -/
theorem stop_not_final : ¬∀ (trace : List (BootSystem × SystemLabel)) (last : BootSystem),
    Run SystemStepped {} trace last → last.service.Final := by
  intro final
  have started : (follow systemStep stopBeforeRequest ([], {})).any (fun reached =>
      decide (reached.2.service.stops = [⟨1, 1, true⟩]) &&
        decide (reached.2.service.debian = some (.requested (.lockedBoot 0)))) = true := by
    decide
  obtain ⟨reached, followed, holds⟩ := (Option.any_eq_true _ _).mp started
  simp only [Bool.and_eq_true, decide_eq_true_eq] at holds
  have late := final reached.1 reached.2 (run_of_follow .start followed) ⟨1, 1, true⟩
    (by simp [holds.1]) rfl 0 (by simp [holds.2, Origin.automatic])
  exact absurd late (by decide)

/-- The command of an interrupted start starts Debian after the stop that has interrupted it has
succeeded, although every start was settled. -/
example : (follow systemStep stopBeforeCommand ([], {})).any (fun reached =>
    decide (reached.2.service.stops = [⟨2, 1, true⟩]) &&
      decide (reached.2.service.debian = some (.requested (.lockedBoot 0)))) = true := by
  decide

end DawnShell.App
