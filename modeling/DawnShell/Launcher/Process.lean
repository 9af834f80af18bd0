/-
Module: DawnShell.Launcher.Process
Layer: Launcher
Purpose: What the launcher knows about processes: the record in the state file, the process table with
  what `/proc` shows of each process, and the identity checks that compare the two.  A supervisor and the
  process it forks as Debian init or as compat sshd are rows of the table and carry their own program.
Trusted boundary: faithful model of bfu_namespace_probe.c:145-166, 836-844, 1009-1082 and of the locals of
  supervisor_loop and supervisor_compat_loop.  The modes, the USB policy and the time in the record are
  left out: no identity check reads them.  A namespace file that the kernel does not have is inode 0.
Main exports: LauncherState, Process, Role, Supervisor, Identifies, validateSupervisorIdentity,
  validateInitIdentity, validateCompatServiceIdentity
-/
import Mathlib.Logic.Function.Basic

namespace DawnShell.Launcher

abbrev Pid := Nat

/-! ### The state file -/

/-- The names a state is written under. -/
inductive StateName where
  | unknown
  | starting
  | running
  | stopping
  | stopped
  | failed
  | forceStopped
deriving DecidableEq, Repr

inductive LaunchMode where
  | systemd
  | compat
deriving DecidableEq, Repr

/-- The inodes of the six namespace files of a process. -/
structure Namespaces where
  pid : UInt64 := 0
  mnt : UInt64 := 0
  uts : UInt64 := 0
  ipc : UInt64 := 0
  cgroup : UInt64 := 0
  net : UInt64 := 0
deriving DecidableEq, Repr

/-- A process as it is written down: its pid, its start time and its executable. -/
structure Recorded where
  pid : Pid := 0
  startTicks : UInt64 := 0
  exeDev : UInt64 := 0
  exeIno : UInt64 := 0
deriving DecidableEq, Repr

/-- `LauncherState`. -/
structure LauncherState where
  state : StateName
  launchMode : LaunchMode := .systemd
  supervisor : Recorded := {}
  init : Recorded := {}
  initNamespaces : Namespaces := {}
  waitStatus : Int := -1
deriving DecidableEq, Repr

/-- `initialize_state`. -/
def initializeState (name : StateName) : LauncherState := { state := name }

/-! ### Processes -/

/-- Where a supervisor is, by what it does next. -/
inductive SupervisorPhase where
  | setsid
  | identity
  | writeStarting
  | helpers
  | namespaces
  | writeMode
  | forkChild
  /-- `setpgid` on the compat service. -/
  | setGroup
  | readTicks
  | writeChild
  | awaitExec
  | grace
  | capture
  | writeRunning
  | loop (shutdownSent : Bool)
  | writeStopping
  | killChild (waitStatus : Int)
  | writeFailed
  | writeStopped
  | closeLock
  | exit
deriving DecidableEq, Repr

/-- The locals of `supervisor_loop` and `supervisor_compat_loop`. -/
structure Supervisor where
  phase : SupervisorPhase := .setsid
  state : LauncherState := initializeState .starting
  mode : LaunchMode := .systemd
  child : Pid := 0
  stopRequested : Bool := false
  /-- The first state write has succeeded. -/
  recorded : Bool := false
deriving DecidableEq, Repr

/-- What a process is in a launch. -/
inductive Role where
  | supervisor (locals : Supervisor)
  /-- The process forked as Debian init or as compat sshd. -/
  | debian (mode : LaunchMode) (executed : Bool)
  /-- The network manager, a `systemctl` helper, or a process started inside Debian. -/
  | helper
  /-- A process that no launch has started. -/
  | other
deriving DecidableEq, Repr

/-- A row of the process table.  A process that is not alive is a zombie and keeps its pid.
`lockFd` says whether it has the lock file open through the description of its own launch. -/
structure Process where
  launch : Nat
  role : Role
  alive : Bool := true
  startTicks : UInt64
  exeDev : UInt64
  exeIno : UInt64
  namespaces : Namespaces := {}
  group : Pid
  session : Pid
  delegated : Bool := false
  lockFd : Bool := false
deriving DecidableEq, Repr

/-- The process table. -/
abbrev ProcessTable := Pid → Option Process

/-- The process is gone but has not been waited for. -/
def Process.dead (process : Process) : Process := { process with alive := false, lockFd := false }

/-- A live process that was forked as Debian init or as compat sshd. -/
def Process.isDebian (process : Process) : Prop :=
  process.alive = true ∧ ∃ mode executed, process.role = .debian mode executed

/-! ### Identity checks -/

/-- One look at `/proc`, on a process that is there. -/
abbrev IdentityCheck := Process → Bool

/-- `read_proc_start_ticks` agrees. -/
def ticksAgree (recorded : Recorded) : IdentityCheck :=
  fun process => process.startTicks == recorded.startTicks

/-- `read_proc_exe_identity` agrees; the link of a zombie cannot be followed. -/
def exeAgrees (recorded : Recorded) : IdentityCheck :=
  fun process => process.alive && process.exeDev == recorded.exeDev &&
    process.exeIno == recorded.exeIno

/-- `read_proc_namespace_inode` agrees. -/
def namespaceAgrees (field : Namespaces → UInt64) (recorded : Namespaces) : IdentityCheck :=
  fun process => process.alive && field process.namespaces == field recorded

/-- The same for a namespace that need not have been recorded. -/
def optionalNamespaceAgrees (field : Namespaces → UInt64) (recorded : Namespaces) :
    IdentityCheck :=
  fun process => field recorded == 0 || namespaceAgrees field recorded process

/-- `kill` with signal 0. -/
def signalable : IdentityCheck := fun _ => true

/-- The looks of `validate_supervisor_identity`, in order. -/
def supervisorChecks (state : LauncherState) : List IdentityCheck :=
  [ticksAgree state.supervisor, exeAgrees state.supervisor, signalable]

/-- The looks of `validate_init_identity`, in order. -/
def initChecks (state : LauncherState) : List IdentityCheck :=
  [ ticksAgree state.init, exeAgrees state.init,
    namespaceAgrees Namespaces.pid state.initNamespaces,
    namespaceAgrees Namespaces.mnt state.initNamespaces,
    namespaceAgrees Namespaces.uts state.initNamespaces,
    optionalNamespaceAgrees Namespaces.ipc state.initNamespaces,
    namespaceAgrees Namespaces.cgroup state.initNamespaces,
    optionalNamespaceAgrees Namespaces.net state.initNamespaces, signalable ]

/-- The looks of `validate_compat_service_identity`, in order. -/
def compatChecks (state : LauncherState) : List IdentityCheck :=
  [ticksAgree state.init, exeAgrees state.init, signalable]

/-- The first lines of `validate_supervisor_identity` and `validate_compat_service_identity`. -/
def Recorded.complete (recorded : Recorded) : Bool :=
  1 < recorded.pid && recorded.startTicks != 0 && recorded.exeIno != 0

/-- The first lines of `validate_init_identity`. -/
def LauncherState.initComplete (state : LauncherState) : Bool :=
  state.init.complete && state.initNamespaces.pid != 0 && state.initNamespaces.mnt != 0 &&
    state.initNamespaces.uts != 0 && state.initNamespaces.cgroup != 0

/-- The Debian process of a record is checked according to the launch mode; `none` is a record that
fails before the process table is looked at. -/
def LauncherState.debianChecks (state : LauncherState) : Option (List IdentityCheck) :=
  match state.launchMode with
  | .compat => if state.init.complete then some (compatChecks state) else none
  | .systemd => if state.initComplete then some (initChecks state) else none

/-- The record identifies this process completely: it has executed its program and every look at it
will agree. -/
def Identifies (state : LauncherState) (pid : Pid) (process : Process) : Prop :=
  process.role = .debian state.launchMode true ∧ state.init.pid = pid ∧
    ∃ checks, state.debianChecks = some checks ∧ ∀ check ∈ checks, check process = true

end DawnShell.Launcher
