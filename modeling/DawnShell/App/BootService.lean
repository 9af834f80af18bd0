/-
Module: DawnShell.App.BootService
Layer: App
Purpose: The threads of the boot service.  The main thread handles one intent after another; `executor`
  runs the startup checks and the management of the rootfs, and `lifecycleExecutor` the lifecycle
  operations and the settings.  A step is one action of one thread that the others can see; what a task
  does with the world outside succeeds or fails as it likes.
Trusted boundary: faithful model of BfuBootService.java:50-68, 103-200, 293-375, 394-451, 461-617 and
  637-647, of the order of steps in DebianRootfsRemover.remove, and of DebianLauncher.run as far as it
  starts and stops Debian.  The end of the service, the log and the codec bridge are left out, and the
  counters have no bound.  What a command still does when its caller has gone on stands in
  `App.RootCommands`.  The first statement of a task that reads the generation belongs to the step that
  takes the task.
Main exports: Operation.effects, ManagementPhase, LifecyclePhase, BootService, Lifecycle.request,
  BootService.onStartCommand, managementMove, lifecycleMove, Label, step
-/
import DawnShell.App.LifecycleCommand
import DawnShell.Lib.TaskQueue

namespace DawnShell.App

open TaskQueue

/-! ### Intents and tasks -/

/-- The action of an intent; a service that is started again without an intent gets `start`. -/
inductive Action where
  | start
  | startCodecBridge
  | installDebian
  | configureDebian
  | debianStart
  | debianRestart
  | debianStatus
  | debianStop
  | debianForceStop
  | removeDebianRootfs
  | applyRuntimeSettings
  | other
deriving DecidableEq, Repr

/-- An intent with its extras. -/
structure Intent where
  action : Action
  applyUsb : Bool := false
  applyDocker : Bool := false
  applyCgroup : Bool := false
deriving DecidableEq, Repr

/-- `disabledControlAllowed`. -/
def Action.disabledControlAllowed : Action → Bool
  | .debianStatus | .debianStop | .debianForceStop | .removeDebianRootfs | .applyRuntimeSettings
  | .startCodecBridge => true
  | _ => false

/-- `lifecycleOperation`. -/
def Action.lifecycleOperation : Action → Option Operation
  | .debianStart => some .start
  | .debianRestart => some .restart
  | .debianStatus => some .status
  | .debianStop => some .stop
  | .debianForceStop => some .forceStop
  | _ => none

/-- `urgent`. -/
def Operation.urgent : Operation → Bool
  | .stop | .forceStop | .restart => true
  | .start | .status => false

/-- The trigger of a lifecycle operation.  With that of the startup checks stands the generation at which
they began. -/
inductive Trigger where
  | appButton
  | bootCompletedUnlocked
  | lockedBoot (controlGeneration : Nat)
deriving DecidableEq, Repr

/-- A task of `executor`. -/
inductive ManagementTask where
  | startupChecks
  | rootfsInstall
  | systemConfiguration
  | rootfsRemoval
deriving DecidableEq, Repr

/-- A task of `lifecycleExecutor`. -/
inductive LifecycleTask where
  | operation (operation : Operation) (trigger : Trigger)
  | settings (applyUsb applyDocker applyCgroup : Bool)
deriving DecidableEq, Repr

/-! ### Debian -/

/-- What has started a running Debian. -/
inductive Origin where
  /-- A start or restart that has been accepted. -/
  | requested (trigger : Trigger)
  /-- The end of a configuration that began at this generation. -/
  | configured (controlGeneration : Nat)
  /-- The end of an application of settings. -/
  | settingsApplied
deriving DecidableEq, Repr

/-- What an operation does to Debian. -/
inductive Effect where
  | up
  | down
deriving DecidableEq, Repr

/-- A Debian that runs is not started again. -/
def Effect.apply (origin : Origin) (debian : Option Origin) : Effect → Option Origin
  | .up => some (debian.getD origin)
  | .down => none

/-- What an operation has done when it succeeds; one that fails has done the beginning of it. -/
def Operation.effects : Operation → List Effect
  | .start => [.up]
  | .restart => [.down, .up]
  | .stop | .forceStop => [.down]
  | .status => []

/-- How a task gets on. -/
inductive Progress where
  /-- The operation that is run does the next thing to Debian. -/
  | effect
  | succeed
  /-- The status command does not show a running Debian, or there is no rootfs to remove. -/
  | skip
  | fail
deriving DecidableEq, Repr

/-! ### The tasks of `executor` -/

/-- Where the task that `executor` runs is.  A list is what the running operation has still to do. -/
inductive ManagementPhase where
  /-- `runBfuStartupChecks` before it compares the generations. -/
  | checking (controlGeneration : Nat)
  /-- It has found the generation unchanged. -/
  | requesting (controlGeneration : Nat)
  /-- `runDebianRootfsInstall`. -/
  | provisioningInstall
  | installing
  /-- `runDebianSystemConfiguration`. -/
  | provisioningConfiguration (controlGeneration : Nat)
  | stoppingForConfiguration (controlGeneration : Nat) (remaining : List Effect)
  | configuring (controlGeneration : Nat)
  /-- It has found the generation unchanged. -/
  | startingConfigured (controlGeneration : Nat) (remaining : List Effect)
  /-- `runDebianRootfsRemoval`. -/
  | lookingForRootfs
  | stoppingForRemoval (remaining : List Effect)
  /-- The removal command looks for a live systemd. -/
  | inspecting
  | removing
  /-- The `finally` block of a task. -/
  | ending (task : ManagementTask)
deriving DecidableEq, Repr

/-- The first statement of a task. -/
def ManagementTask.begin (controlGeneration : Nat) : ManagementTask → ManagementPhase
  | .startupChecks => .checking controlGeneration
  | .rootfsInstall => .provisioningInstall
  | .systemConfiguration => .provisioningConfiguration controlGeneration
  | .rootfsRemoval => .lookingForRootfs

/-- What a step of `executor` does for the others to see. -/
inductive ManagementDeed where
  | nothing
  | effect (effect : Effect) (controlGeneration : Nat)
  /-- `requestLifecycleOperation(START, "locked_boot")`. -/
  | requestStart (controlGeneration : Nat)
  | clear (task : ManagementTask)
deriving DecidableEq, Repr

/-- The steps of the tasks of `executor`, and where they lead; no phase is the end of the task. -/
def managementMove (urgentControlGeneration : Nat) (debianRunning : Bool) :
    ManagementPhase → Progress → Option (ManagementDeed × Option ManagementPhase)
  | .checking controlGeneration, .succeed =>
      if urgentControlGeneration = controlGeneration
      then some (.nothing, some (.requesting controlGeneration)) else some (.nothing, none)
  | .checking _, .fail => some (.nothing, none)
  | .requesting controlGeneration, .succeed => some (.requestStart controlGeneration, none)
  | .provisioningInstall, .succeed => some (.nothing, some .installing)
  | .provisioningInstall, .fail => some (.nothing, some (.ending .rootfsInstall))
  | .installing, .succeed | .installing, .fail => some (.nothing, some (.ending .rootfsInstall))
  | .provisioningConfiguration controlGeneration, .succeed =>
      some (.nothing, some (.stoppingForConfiguration controlGeneration Operation.stop.effects))
  | .provisioningConfiguration _, .fail => some (.nothing, some (.ending .systemConfiguration))
  | .stoppingForConfiguration controlGeneration (effect :: remaining), .effect =>
      some (.effect effect controlGeneration,
        some (.stoppingForConfiguration controlGeneration remaining))
  | .stoppingForConfiguration controlGeneration [], .succeed =>
      some (.nothing, some (.configuring controlGeneration))
  | .stoppingForConfiguration .., .fail => some (.nothing, some (.ending .systemConfiguration))
  | .configuring controlGeneration, .succeed =>
      if urgentControlGeneration = controlGeneration
      then some (.nothing, some (.startingConfigured controlGeneration Operation.start.effects))
      else some (.nothing, some (.ending .systemConfiguration))
  | .configuring _, .fail => some (.nothing, some (.ending .systemConfiguration))
  | .startingConfigured controlGeneration (effect :: remaining), .effect =>
      some (.effect effect controlGeneration, some (.startingConfigured controlGeneration remaining))
  | .startingConfigured _ [], .succeed => some (.nothing, some (.ending .systemConfiguration))
  | .startingConfigured .., .fail => some (.nothing, some (.ending .systemConfiguration))
  | .lookingForRootfs, .succeed =>
      some (.nothing, some (.stoppingForRemoval Operation.stop.effects))
  | .lookingForRootfs, .skip | .lookingForRootfs, .fail =>
      some (.nothing, some (.ending .rootfsRemoval))
  | .stoppingForRemoval (effect :: remaining), .effect =>
      some (.effect effect 0, some (.stoppingForRemoval remaining))
  | .stoppingForRemoval [], .succeed => some (.nothing, some .inspecting)
  | .stoppingForRemoval _, .fail => some (.nothing, some (.ending .rootfsRemoval))
  | .inspecting, .succeed =>
      if debianRunning then some (.nothing, some (.ending .rootfsRemoval))
      else some (.nothing, some .removing)
  | .inspecting, .fail => some (.nothing, some (.ending .rootfsRemoval))
  | .removing, .succeed | .removing, .fail => some (.nothing, some (.ending .rootfsRemoval))
  | .ending task, .succeed => some (.clear task, none)
  | _, _ => none

/-! ### The tasks of `lifecycleExecutor` -/

/-- Where the task that `lifecycleExecutor` runs is. -/
inductive LifecyclePhase where
  /-- Before the operation is run, or the state of Debian is known. -/
  | provisioning
  | running (remaining : List Effect)
  | stoppingForSettings (remaining : List Effect)
  | applying (wasRunning : Bool)
  /-- The beginning of the `finally` block for settings. -/
  | finishing (wasRunning : Bool)
  | startingAgain (remaining : List Effect)
  | clearingDocker
  /-- The synchronized block of a `finally` block. -/
  | ending
  /-- Behind it. -/
  | ended
deriving DecidableEq, Repr

/-- What a step of `lifecycleExecutor` does for the others to see. -/
inductive LifecycleDeed where
  | nothing
  | effect (effect : Effect)
  /-- The operation has succeeded. -/
  | complete
  | clearDocker
  | clearFlags
  /-- The future is done. -/
  | leave
deriving DecidableEq, Repr

/-- The steps of the tasks of `lifecycleExecutor`, and where they lead. -/
def lifecycleMove (ticket : Ticket LifecycleTask) (debianRunning : Bool) :
    LifecyclePhase → Progress → Option (LifecycleDeed × LifecyclePhase)
  | .provisioning, .succeed =>
      match ticket.task with
      | .operation operation _ => some (.nothing, .running operation.effects)
      | .settings .. =>
          if debianRunning then some (.nothing, .stoppingForSettings Operation.stop.effects)
          else some (.nothing, .applying false)
  | .provisioning, .skip =>
      match ticket.task with
      | .operation .. => none
      | .settings .. => some (.nothing, .applying false)
  | .provisioning, .fail =>
      match ticket.task with
      | .operation .. => some (.nothing, .ending)
      | .settings .. => some (.nothing, .finishing false)
  | .running (effect :: remaining), .effect => some (.effect effect, .running remaining)
  | .running [], .succeed => some (.complete, .ending)
  | .running _, .fail => some (.nothing, .ending)
  | .stoppingForSettings (effect :: remaining), .effect =>
      some (.effect effect, .stoppingForSettings remaining)
  | .stoppingForSettings [], .succeed => some (.nothing, .applying true)
  | .stoppingForSettings _, .fail => some (.nothing, .finishing true)
  | .applying wasRunning, .succeed | .applying wasRunning, .fail =>
      some (.nothing, .finishing wasRunning)
  | .finishing wasRunning, .succeed =>
      if wasRunning && !ticket.cancelled
      then some (.nothing, .startingAgain Operation.start.effects) else some (.nothing, .clearingDocker)
  | .startingAgain (effect :: remaining), .effect => some (.effect effect, .startingAgain remaining)
  | .startingAgain [], .succeed => some (.nothing, .clearingDocker)
  | .startingAgain _, .fail => some (.nothing, .clearingDocker)
  | .clearingDocker, .succeed => some (.clearDocker, .ending)
  | .ending, .succeed => some (.clearFlags, .ended)
  | .ended, .succeed => some (.leave, .ended)
  | _, _ => none

/-- What a Debian that the task has started comes from. -/
def LifecycleTask.origin : LifecycleTask → Origin
  | .operation _ trigger => .requested trigger
  | .settings .. => .settingsApplied

/-- `applyDocker`. -/
def LifecycleTask.appliesDocker : LifecycleTask → Bool
  | .operation .. => false
  | .settings _ applyDocker _ => applyDocker

/-! ### The service -/

/-- The fields that requests of lifecycle operations and of settings share, and `lifecycleExecutor`.  The
ticket of a task has the id of its request. -/
structure Lifecycle where
  lifecycleFuture : Option Nat := none
  activeLifecycleOperation : Option Operation := none
  lifecycleRequestId : Nat := 0
  urgentControlGeneration : Nat := 0
  lifecycleOperationStarted : Bool := false
  executor : Executor LifecycleTask LifecyclePhase := {}
deriving DecidableEq, Repr

/-- The flags of the startup checks and of the management of the rootfs, and `executor`. -/
structure Management where
  startupChecksStarted : Bool := false
  rootfsInstallStarted : Bool := false
  systemConfigurationStarted : Bool := false
  rootfsRemovalStarted : Bool := false
  queue : List ManagementTask := []
  worker : Option ManagementPhase := none
deriving DecidableEq, Repr

/-- Where the main thread is. -/
inductive MainThread where
  | idle
  /-- A restart has been requested while no management operation was running. -/
  | restartChecked
  /-- A removal has been requested while nothing else was running. -/
  | removalChecked
deriving DecidableEq, Repr

/-- A stop that has been accepted, with the generation it has begun. -/
structure AcceptedStop where
  requestId : Nat
  controlGeneration : Nat
  completed : Bool := false
deriving DecidableEq, Repr

/-- The service and Debian.  The history `stops` has the stops since the last explicit start. -/
structure BootService where
  lifecycle : Lifecycle := {}
  management : Management := {}
  dockerPolicyStarted : Bool := false
  main : MainThread := .idle
  debian : Option Origin := none
  stops : List AcceptedStop := []
deriving DecidableEq, Repr

/-! ### Requests -/

/-- `lifecycleFuture != null && !lifecycleFuture.isDone()`. -/
def Lifecycle.isBusy (lifecycle : Lifecycle) : Bool :=
  lifecycle.lifecycleFuture.any fun id => !lifecycle.executor.isDone id

/-- `lifecycleFuture.cancel(true)`. -/
def Lifecycle.cancel (lifecycle : Lifecycle) : Lifecycle :=
  match lifecycle.lifecycleFuture with
  | none => lifecycle
  | some id => { lifecycle with executor := lifecycle.executor.cancel id }

/-- The end of the synchronized block of a request that is accepted. -/
def Lifecycle.enqueue (lifecycle : Lifecycle) (task : LifecycleTask) (active : Option Operation)
    (urgent : Bool) : Lifecycle :=
  let requestId := lifecycle.lifecycleRequestId + 1
  { lifecycleFuture := some requestId
    activeLifecycleOperation := active
    lifecycleRequestId := requestId
    urgentControlGeneration :=
      if urgent then lifecycle.urgentControlGeneration + 1 else lifecycle.urgentControlGeneration
    lifecycleOperationStarted := true
    executor := lifecycle.executor.submit requestId task }

/-- Whether an operation gives way to the one that is running. -/
def Lifecycle.yields (lifecycle : Lifecycle) (operation : Operation) : Bool :=
  !operation.urgent || lifecycle.activeLifecycleOperation.any fun active =>
    active == operation || active == .stop || active == .forceStop

/-- The synchronized block of `requestLifecycleOperation`; none when the request is rejected. -/
def Lifecycle.request (lifecycle : Lifecycle) (operation : Operation) (trigger : Trigger) :
    Option Lifecycle :=
  let enqueue (lifecycle : Lifecycle) :=
    lifecycle.enqueue (.operation operation trigger) (some operation) operation.urgent
  if lifecycle.isBusy then
    if lifecycle.yields operation then none else some (enqueue lifecycle.cancel)
  else some (enqueue lifecycle)

/-- The history after an operation has been accepted. -/
def stopsAfter (lifecycle : Lifecycle) (operation : Operation) (trigger : Trigger)
    (stops : List AcceptedStop) : List AcceptedStop :=
  match operation with
  | .stop | .forceStop =>
      stops ++ [⟨lifecycle.lifecycleRequestId, lifecycle.urgentControlGeneration, false⟩]
  | .restart => []
  | .start => if trigger = .appButton then [] else stops
  | .status => stops

namespace BootService

/-- `managementOperationRunning`. -/
def managementOperationRunning (service : BootService) : Bool :=
  service.management.rootfsInstallStarted || service.management.systemConfigurationStarted ||
    service.management.rootfsRemovalStarted || service.dockerPolicyStarted

/-- `requestLifecycleOperation`, for a restart behind its check. -/
def requestLifecycleOperation (service : BootService) (operation : Operation) (trigger : Trigger) :
    BootService :=
  match service.lifecycle.request operation trigger with
  | none => service
  | some lifecycle =>
      { service with
        lifecycle := lifecycle
        stops := stopsAfter lifecycle operation trigger service.stops }

/-- `requestRuntimeSettingsApplication`. -/
def requestRuntimeSettingsApplication (service : BootService)
    (applyUsb applyDocker applyCgroup : Bool) : BootService :=
  if !applyUsb && !applyDocker && !applyCgroup then service
  else if service.managementOperationRunning || service.lifecycle.isBusy then service
  else
    { service with
      lifecycle := service.lifecycle.enqueue (.settings applyUsb applyDocker applyCgroup) none true
      dockerPolicyStarted := service.dockerPolicyStarted || applyDocker }

/-- `executor.execute` of a task whose flag has been set. -/
def execute (service : BootService) (task : ManagementTask) : BootService :=
  let management := service.management
  { service with
    management :=
      { startupChecksStarted := management.startupChecksStarted || task == .startupChecks
        rootfsInstallStarted := management.rootfsInstallStarted || task == .rootfsInstall
        systemConfigurationStarted :=
          management.systemConfigurationStarted || task == .systemConfiguration
        rootfsRemovalStarted := management.rootfsRemovalStarted || task == .rootfsRemoval
        queue := management.queue ++ [task]
        worker := management.worker } }

/-- `onStartCommand`.  A restart and a removal are not over when their first checks have passed. -/
def onStartCommand (service : BootService) (intent : Intent) (enabled userUnlocked : Bool) :
    BootService :=
  if !enabled && !intent.action.disabledControlAllowed then service
  else
    match intent.action with
    | .start =>
        if userUnlocked then service.requestLifecycleOperation .start .bootCompletedUnlocked
        else if service.management.startupChecksStarted then service
        else service.execute .startupChecks
    | .applyRuntimeSettings =>
        if !userUnlocked then service
        else
          service.requestRuntimeSettingsApplication intent.applyUsb intent.applyDocker
            intent.applyCgroup
    | .removeDebianRootfs =>
        if !userUnlocked then service
        else if service.management.rootfsInstallStarted ||
            service.management.systemConfigurationStarted ||
            service.lifecycle.lifecycleOperationStarted then service
        else { service with main := .removalChecked }
    | .installDebian =>
        if !userUnlocked || service.management.rootfsInstallStarted then service
        else service.execute .rootfsInstall
    | .configureDebian =>
        if !userUnlocked || service.management.systemConfigurationStarted then service
        else service.execute .systemConfiguration
    | .debianRestart =>
        if service.managementOperationRunning then service
        else { service with main := .restartChecked }
    | action =>
        match action.lifecycleOperation with
        | none => service
        | some operation => service.requestLifecycleOperation operation .appButton

/-- The last check of a removal. -/
def claimRemoval (service : BootService) : BootService :=
  if service.management.rootfsRemovalStarted then service else service.execute .rootfsRemoval

/-! ### The threads -/

/-- The flag of a task is set to false; that of the startup checks stays. -/
def clear (service : BootService) (task : ManagementTask) : BootService :=
  let management := service.management
  match task with
  | .startupChecks => service
  | .rootfsInstall =>
      { service with management := { management with rootfsInstallStarted := false } }
  | .systemConfiguration =>
      { service with management := { management with systemConfigurationStarted := false } }
  | .rootfsRemoval =>
      { service with management := { management with rootfsRemovalStarted := false } }

/-- What a step of `executor` does. -/
def manage (service : BootService) : ManagementDeed → BootService
  | .nothing => service
  | .effect effect controlGeneration =>
      { service with debian := effect.apply (.configured controlGeneration) service.debian }
  | .requestStart controlGeneration =>
      service.requestLifecycleOperation .start (.lockedBoot controlGeneration)
  | .clear task => service.clear task

/-- The synchronized block of a `finally` block. -/
def clearFlags (service : BootService) (requestId : Nat) : BootService :=
  if service.lifecycle.lifecycleRequestId = requestId then
    { service with
      lifecycle :=
        { service.lifecycle with lifecycleOperationStarted := false
                                 activeLifecycleOperation := none } }
  else service

/-- The history when an operation has succeeded. -/
def complete (service : BootService) (requestId : Nat) : BootService :=
  { service with
    stops := service.stops.map fun stop =>
      if stop.requestId = requestId then { stop with completed := true } else stop }

/-- What a step of `lifecycleExecutor` does. -/
def perform (service : BootService) (ticket : Ticket LifecycleTask) : LifecycleDeed → BootService
  | .nothing => service
  | .effect effect => { service with debian := effect.apply ticket.task.origin service.debian }
  | .complete => service.complete ticket.id
  | .clearDocker =>
      { service with dockerPolicyStarted := service.dockerPolicyStarted && !ticket.task.appliesDocker }
  | .clearFlags => service.clearFlags ticket.id
  | .leave =>
      { service with
        lifecycle := { service.lifecycle with executor := service.lifecycle.executor.release } }

/-- `executor` goes to a phase. -/
def managing (service : BootService) (worker : Option ManagementPhase) : BootService :=
  { service with management := { service.management with worker } }

/-- `lifecycleExecutor` goes to a state. -/
def executing (service : BootService) (executor : Executor LifecycleTask LifecyclePhase) :
    BootService :=
  { service with lifecycle := { service.lifecycle with executor } }

end BootService

/-- Who acts. -/
inductive Label where
  /-- The main thread handles an intent; the preferences and the state of the user are what they are at
  that moment. -/
  | intent (intent : Intent) (enabled userUnlocked : Bool)
  | submitRestart
  | claimRemoval
  | executorTakes
  | executor (progress : Progress)
  | lifecycleTakes
  | lifecycle (progress : Progress)
  /-- Debian stops by itself. -/
  | debianExits
deriving DecidableEq, Repr

/-- One action of one thread; none when the thread cannot do this now. -/
def step (service : BootService) : Label → Option BootService
  | .intent intent enabled userUnlocked =>
      if service.main = .idle then some (service.onStartCommand intent enabled userUnlocked) else none
  | .submitRestart =>
      if service.main = .restartChecked
      then some ({ service with main := .idle }.requestLifecycleOperation .restart .appButton) else none
  | .claimRemoval =>
      if service.main = .removalChecked then some { service with main := .idle }.claimRemoval else none
  | .executorTakes =>
      match service.management.worker, service.management.queue with
      | none, task :: queue =>
          let worker := some (task.begin service.lifecycle.urgentControlGeneration)
          some { service with management := { service.management with queue, worker } }
      | _, _ => none
  | .executor progress => do
      let phase ← service.management.worker
      let (deed, next) ← managementMove service.lifecycle.urgentControlGeneration
        service.debian.isSome phase progress
      some ((service.managing next).manage deed)
  | .lifecycleTakes => do
      let executor ← service.lifecycle.executor.take fun _ => .provisioning
      some (service.executing executor)
  | .lifecycle progress => do
      let (ticket, phase) ← service.lifecycle.executor.worker
      let (deed, next) ← lifecycleMove ticket service.debian.isSome phase progress
      some ((service.executing (service.lifecycle.executor.advance ticket next)).perform ticket deed)
  | .debianExits => if service.debian.isSome then some { service with debian := none } else none

/-- The service as it is created. -/
def initialService : BootService := {}

/-- The steps as a relation. -/
abbrev Stepped (service : BootService) (label : Label) (next : BootService) : Prop :=
  step service label = some next

end DawnShell.App
