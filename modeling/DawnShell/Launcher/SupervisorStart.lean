/-
Module: DawnShell.Launcher.SupervisorStart
Layer: Launcher
Purpose: A supervisor up to its line in the ready pipe, as a program over the kernel and its helpers: the
  states it writes, and at each failure what it kills and undoes, what it writes and what it reports, in
  both variants.
Trusted boundary: faithful model of bfu_namespace_probe.c:3298-3308, 3313-3448 and 3504-3730.  The
  negotiation of the namespaces, the look at the child during its grace period and the checks of its
  namespaces are calls with any answer, which are modelled in `DawnShell.Launcher.Cgroup`,
  `DawnShell.Launcher.Readiness` and `DawnShell.Launcher.NamespaceEntry`.  The lines in the log, the error
  numbers in the reports and the descriptors of the pipes are left out.  Nobody else writes the state file.
Main exports: SupervisorRecord, StartCall, Ending, superviseChild, supervisorCompatLoop, supervisorLoop
-/
import DawnShell.Lib.Interaction
import DawnShell.Launcher.Cgroup
import DawnShell.Launcher.Readiness

namespace DawnShell.Launcher.Start

open Readiness

/-- What a supervisor puts into the state file. -/
structure SupervisorRecord extends LauncherState where
  cgroupMode : CgroupMode := .unknown
  hostUsbMode : HostUsbPolicy
deriving DecidableEq, Repr

/-- What `wait_for_start_grace` returns. -/
inductive Grace where
  | survived
  | reaped
  | unknown
deriving DecidableEq, Repr

inductive StartCall where
  | setsid
  | redirectSupervisorStdio
  | sigaction
  | getpid
  | readProcStartTicks (pid : Pid)
  | readProcExeIdentity (pid : Pid)
  | writeState (record : SupervisorRecord)
  | prepareHostRebootFifo
  | unlinkHostRebootFifo
  | startNetworkManager
  /-- `kill` with `SIGTERM`. -/
  | terminateNetworkManager
  | awaitNetworkManager
  | setSystemdParentNamespaces
  | cleanupDelegatedCgroups
  | pipe
  | fork
  | setpgid (pid : Pid)
  | usleep (microseconds : Nat)
  | waitForExecResult
  | waitForStartGrace (pid : Pid)
  /-- `SIGKILL` to the child; for the compat service this is `signal_compat_service`. -/
  | killChild (mode : LaunchMode) (pid : Pid)
  | waitpid (pid : Pid)
  /-- `capture_init_namespace_identity` or `capture_compat_namespace_identity`. -/
  | captureNamespaceIdentity (mode : LaunchMode) (pid : Pid)
  /-- `validate_init_namespace_topology` or `validate_compat_namespace_topology`. -/
  | validateNamespaceTopology (mode : LaunchMode) (record : SupervisorRecord)
  | reconcileExclusiveUsb
  /-- A line in the ready pipe. -/
  | report (message : ReadyMessage)
deriving DecidableEq, Repr

/-- A flag says whether the call has succeeded.  What a capture has found is left in the record even when
it fails. -/
@[reducible] def StartCall.Answer : StartCall → Type
  | .setsid | .redirectSupervisorStdio | .sigaction | .writeState _ | .prepareHostRebootFifo
  | .startNetworkManager | .pipe | .waitForExecResult | .validateNamespaceTopology .. => Bool
  | .getpid => Pid
  | .readProcStartTicks _ => Option UInt64
  | .readProcExeIdentity _ => Option (UInt64 × UInt64)
  | .setSystemdParentNamespaces => Except Nat (LaunchMode × CgroupMode)
  | .fork => Option Pid
  | .waitForStartGrace _ => Grace
  | .captureNamespaceIdentity .. => Bool × Namespaces
  | .unlinkHostRebootFifo | .terminateNetworkManager | .awaitNetworkManager | .cleanupDelegatedCgroups
  | .setpgid _ | .usleep _ | .killChild .. | .waitpid _ | .reconcileExclusiveUsb | .report _ => Unit

abbrev Supervision := Interaction StartCall StartCall.Answer
abbrev StartExchange := Interaction.Exchange StartCall StartCall.Answer

/-- One call. -/
abbrev ask (request : StartCall) : Supervision request.Answer := Interaction.call request

/-- How a supervisor comes to the end of its start. -/
inductive Ending where
  /-- It returns a code. -/
  | exited (code : Nat)
  /-- It goes on to the loop that waits for its child. -/
  | supervises (mode : LaunchMode) (child : Pid) (record : SupervisorRecord)
deriving DecidableEq, Repr

/-- A report of a failure, and the return behind it. -/
def failStart (stage : FailureStage) : Supervision Ending := do
  ask (.report (.startFailed stage))
  return .exited stage.exitCode

/-- The attempts to read the start time of the child that remain. -/
def readChildTicks (child : Pid) : Nat → Supervision UInt64
  | 0 => return 0
  | attempts + 1 => do
      match ← ask (.readProcStartTicks child) with
      | some ticks => return ticks
      | none => do
          ask (.usleep 50000)
          readChildTicks child attempts

/-- What a supervisor does beside its child when the start has failed. -/
def undoStart : LaunchMode → Supervision Unit
  | .systemd => ask .cleanupDelegatedCgroups
  | .compat => do
      ask .terminateNetworkManager
      ask .awaitNetworkManager

/-- A failure of a child: the failed state is written before the report. -/
def failChild (mode : LaunchMode) (record : SupervisorRecord) (stage : FailureStage) :
    Supervision Ending := do
  let _ ← ask (.writeState { record with state := .failed, waitStatus := stage.exitCode })
  undoStart mode
  failStart stage

/-- The child is killed and waited for. -/
def killAndWait (mode : LaunchMode) (child : Pid) : Supervision Unit := do
  ask (.killChild mode child)
  ask (.waitpid child)

/-- The identity of the child and its namespaces, and whether all of it is as it should be. -/
def captureChild (mode : LaunchMode) (child : Pid) (record : SupervisorRecord) :
    Supervision (Bool × SupervisorRecord) := do
  match ← ask (.readProcExeIdentity child) with
  | none => return (false, record)
  | some (device, inode) => do
      let record := { record with init := { record.init with exeDev := device, exeIno := inode } }
      let (read, namespaces) ← ask (.captureNamespaceIdentity mode child)
      let record := { record with initNamespaces := namespaces }
      if read then return (← ask (.validateNamespaceTopology mode record), record)
      else return (false, record)

/-- A child that runs is announced. -/
def announceChild (mode : LaunchMode) (child : Pid) (record : SupervisorRecord) : Supervision Ending := do
  let record := { record with state := .running }
  let _ ← ask (.writeState record)
  ask (.report (readyMessage mode))
  return .supervises mode child record

/-- Both loops from the wait for the child's program on. -/
def watchChild (mode : LaunchMode) (child : Pid) (record : SupervisorRecord) : Supervision Ending := do
  if !(← ask .waitForExecResult) then do
    killAndWait mode child
    failChild mode record .execChild
  else
    match ← ask (.waitForStartGrace child) with
    | .reaped => failChild mode record .earlyExit
    | .unknown => do
        killAndWait mode child
        failChild mode record .earlyExit
    | .survived => do
        let (identified, record) ← captureChild mode child record
        if !identified then do
          killAndWait mode child
          failChild mode record .childIdentity
        else do
          if record.hostUsbMode = .exclusive then ask .reconcileExclusiveUsb
          announceChild mode child record

/-- Both loops from the fork of the child on, in the parent. -/
def superviseChild (mode : LaunchMode) (child : Pid) (record : SupervisorRecord) : Supervision Ending := do
  let ticks ← readChildTicks child ticksAttempts
  let record := { record with init := { record.init with pid := child, startTicks := ticks } }
  let _ ← ask (.writeState record)
  watchChild mode child record

/-- `supervisor_compat_loop`. -/
def supervisorCompatLoop (record : SupervisorRecord) : Supervision Ending := do
  if !(← ask .pipe) then do
    ask .terminateNetworkManager
    failStart .execPipe
  else
    match ← ask .fork with
    | none => failStart .forkChild
    | some child => do
        ask (.setpgid child)
        superviseChild .compat child record

/-- `supervisor_loop` behind the choice of the variant. -/
def supervisorSystemdLoop (record : SupervisorRecord) : Supervision Ending := do
  if !(← ask .pipe) then do
    ask .cleanupDelegatedCgroups
    failStart .execPipe
  else
    match ← ask .fork with
    | none => do
        -- Here the report comes before the cleanup.
        ask (.report (.startFailed .forkChild))
        ask .cleanupDelegatedCgroups
        return .exited FailureStage.forkChild.exitCode
    | some child => superviseChild .systemd child record

/-- `supervisor_loop` behind its first state. -/
def supervisorHelpers (record : SupervisorRecord) : Supervision Ending := do
  if !(← ask .prepareHostRebootFifo) then failStart .hostRebootFifo
  else if !(← ask .startNetworkManager) then do
    ask .unlinkHostRebootFifo
    failStart .networkManagerStart
  else
    match ← ask .setSystemdParentNamespaces with
    | .error exit => do
        ask .cleanupDelegatedCgroups
        failStart (.namespaceSetup exit)
    | .ok (mode, cgroupMode) => do
        let record := { record with cgroupMode, launchMode := mode }
        let _ ← ask (.writeState record)
        match mode with
        | .compat => supervisorCompatLoop record
        | .systemd => supervisorSystemdLoop record

/-- The record of a supervisor that knows itself. -/
def startingRecord (policy : HostUsbPolicy) (pid : Pid) (ticks : UInt64) (identity : UInt64 × UInt64) :
    SupervisorRecord :=
  { initializeState .starting with
    supervisor := ⟨pid, ticks, identity.1, identity.2⟩, hostUsbMode := policy }

/-- `supervisor_loop`. -/
def supervisorLoop (policy : HostUsbPolicy) : Supervision Ending := do
  if !(← ask .setsid) then failStart .setsid
  else if !(← ask .redirectSupervisorStdio) then failStart .openLifecycleLog
  else if !(← ask .sigaction) then failStart .signalSetup
  else do
    let pid ← ask .getpid
    match ← ask (.readProcStartTicks pid) with
    | none => failStart .supervisorIdentity
    | some ticks =>
        match ← ask (.readProcExeIdentity pid) with
        | none => failStart .supervisorIdentity
        | some identity => do
            let record := startingRecord policy pid ticks identity
            if !(← ask (.writeState record)) then failStart .writeStartingState
            else supervisorHelpers record

end DawnShell.Launcher.Start
