/-
Module: DawnShell.App.RootCommands
Layer: App
Purpose: The boot service beside the root commands that it has left to themselves.  A thread that is
  interrupted, that has waited for too long or that cannot close the input of a command destroys the su
  client and goes on; the launcher behind the client still does what it has begun.
Trusted boundary: faithful model of BfuSu.java:58-82 and 220-278 and of DebianLauncher.java:66-123 as far
  as they start and stop Debian.  The launcher may also be killed with its client, at any moment.
Main exports: RootCommand, BootSystem, SystemLabel, systemStep, stopActs
-/
import DawnShell.App.BootService

namespace DawnShell.App

/-- A launcher command: what a Debian that it starts comes from, and what it has still to do. -/
structure RootCommand where
  origin : Origin
  remaining : List Effect
deriving DecidableEq, Repr

/-- The command for which `executor` waits. -/
def ManagementPhase.command : ManagementPhase → Option RootCommand
  | .stoppingForConfiguration controlGeneration remaining
  | .startingConfigured controlGeneration remaining => some ⟨.configured controlGeneration, remaining⟩
  | .stoppingForRemoval remaining => some ⟨.configured 0, remaining⟩
  | _ => none

/-- The command for which `lifecycleExecutor` waits. -/
def LifecyclePhase.command (task : LifecycleTask) : LifecyclePhase → Option RootCommand
  | .running remaining | .stoppingForSettings remaining | .startingAgain remaining =>
      some ⟨task.origin, remaining⟩
  | _ => none

/-- The service, and the commands whose caller has gone on. -/
structure BootSystem where
  service : BootService := {}
  abandoned : List RootCommand := []
deriving DecidableEq, Repr

/-- Who acts: a thread of the service, or a command that nobody waits for. -/
inductive SystemLabel where
  | service (label : Label)
  /-- `executor` leaves its command to itself, to fail or to try the next su. -/
  | executorAbandons
  /-- `lifecycleExecutor` leaves its command to itself, to fail or to try the next su. -/
  | lifecycleAbandons
  /-- The command at the index does the next thing to Debian. -/
  | abandonedActs (index : Nat)
  /-- The command at the index is over. -/
  | abandonedEnds (index : Nat)
deriving DecidableEq, Repr

/-- A command is left to itself. -/
def BootSystem.abandon (system : BootSystem) (command : RootCommand) : BootSystem :=
  { system with abandoned := system.abandoned ++ [command] }

/-- A command does something to Debian. -/
def BootSystem.act (system : BootSystem) (origin : Origin) (effect : Effect) : BootSystem :=
  { system with
    service := { system.service with debian := effect.apply origin system.service.debian } }

/-- One action of the service or of a command; none when it cannot be done now. -/
def systemStep (system : BootSystem) : SystemLabel → Option BootSystem
  | .service label => (step system.service label).map fun service => { system with service }
  | .executorAbandons =>
      (system.service.management.worker.bind ManagementPhase.command).map system.abandon
  | .lifecycleAbandons =>
      (system.service.lifecycle.executor.worker.bind fun running =>
        running.2.command running.1.task).map system.abandon
  | .abandonedActs index =>
      match system.abandoned[index]? with
      | some ⟨origin, effect :: remaining⟩ =>
          some { system.act origin effect with
            abandoned := system.abandoned.set index ⟨origin, remaining⟩ }
      | _ => none
  | .abandonedEnds index =>
      if index < system.abandoned.length
      then some { system with abandoned := system.abandoned.eraseIdx index } else none

/-- The steps as a relation. -/
abbrev SystemStepped (system : BootSystem) (label : SystemLabel) (next : BootSystem) : Prop :=
  systemStep system label = some next

/-- The command of a stop takes Debian down, or finds that it is down. -/
def stopActs (service : BootService) : Label → Bool
  | .lifecycle .effect =>
      match service.lifecycle.executor.worker with
      | some (⟨_, .operation operation _, _⟩, .running _) =>
          operation == .stop || operation == .forceStop
      | _ => false
  | _ => false

end DawnShell.App
