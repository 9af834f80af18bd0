/-
Module: DawnShell.Launcher.NamespaceEntry
Layer: Launcher
Purpose: How a command enters the namespaces of a running Debian: it reads the state record, checks what
  `/proc` shows of the recorded processes, opens namespace files through the pid of Debian, checks again
  and only then calls `setns`.  Every look is a call of its own, and between two of them processes come
  and go, pids are used again and the state file is rewritten.
Trusted boundary: faithful model of bfu_namespace_probe.c:649-720, 761-834, 1011-1082 and 4115-4394.  A
  process is named by its pid and its start time, which no other process ever has, and does not change its
  namespaces.  Any look can fail.  A path below `/proc` of a pid fits its buffer.  What is checked of the
  root, the control directory and the lock is left to the answers, and so are the cgroup of the command
  and the child it runs.
Main exports: EntryRecord, Descriptor, ProcessWorld, Environment, EntryCall, answers,
  runInDebianNamespaces, runInDebianCompatMountNamespace
-/
import DawnShell.Lib.Interference
import DawnShell.Launcher.Cgroup

namespace DawnShell.Launcher.Entry

/-! ### Processes -/

inductive NamespaceKind where
  | pid
  | mnt
  | uts
  | ipc
  | cgroup
  | net
deriving DecidableEq, Repr

/-- The inode number that is recorded for a kind of namespace. -/
def recordedInode (recorded : Namespaces) : NamespaceKind → UInt64
  | .pid => recorded.pid
  | .mnt => recorded.mnt
  | .uts => recorded.uts
  | .ipc => recorded.ipc
  | .cgroup => recorded.cgroup
  | .net => recorded.net

/-- A namespace.  Inode numbers are used again, so that two namespaces can have the same. -/
structure NamespaceObject where
  serial : Nat
  inode : UInt64
deriving DecidableEq, Repr

/-- An open namespace file. -/
structure Descriptor where
  kind : NamespaceKind
  target : NamespaceObject
deriving DecidableEq, Repr

/-- What changes during the life of a process, with its start time.  A process that is not alive is a
zombie. -/
structure Row where
  startTicks : UInt64
  exeDev : UInt64
  exeIno : UInt64
  alive : Bool := true
deriving DecidableEq, Repr

/-- What a command uses of the state file. -/
structure EntryRecord where
  state : LauncherState
  cgroupMode : CgroupMode := .unknown
deriving DecidableEq, Repr

/-- The process table and the state file, with the namespaces of every process that has ever been. -/
structure ProcessWorld where
  table : Pid → Option Row
  born : Pid → UInt64 → Option (NamespaceKind → NamespaceObject)
  file : Option EntryRecord
  known : ∀ pid row, table pid = some row → (born pid row.startTicks).isSome = true

/-- What others do between two calls. -/
inductive Environment (world next : ProcessWorld) : Prop where
  /-- A process that has never been starts at a pid that is free. -/
  | spawns {pid : Pid} {row : Row} {namespaces : NamespaceKind → NamespaceObject}
      (free : world.table pid = none) (fresh : world.born pid row.startTicks = none)
      (table : next.table = Function.update world.table pid (some row))
      (born : next.born = Function.update world.born pid
        (Function.update (world.born pid) row.startTicks (some namespaces)))
      (file : next.file = world.file)
  /-- A process executes another program, or exits. -/
  | changes {pid : Pid} {row changed : Row} (there : world.table pid = some row)
      (same : changed.startTicks = row.startTicks)
      (table : next.table = Function.update world.table pid (some changed))
      (born : next.born = world.born) (file : next.file = world.file)
  | reaped {pid : Pid} (table : next.table = Function.update world.table pid none)
      (born : next.born = world.born) (file : next.file = world.file)
  | rewrites (table : next.table = world.table) (born : next.born = world.born)

/-! ### Calls -/

/-- `flock` with `LOCK_EX | LOCK_NB`. -/
inductive LockAnswer where
  | taken
  | held
  | failed (errno : Errno)
deriving DecidableEq, Repr

inductive EntryCall where
  | validateRootfs
  | geteuid
  | validateControlDirectory
  | openLockFile
  | tryLock
  /-- `read_state`. -/
  | readState
  /-- `read_proc_start_ticks`. -/
  | startTicks (pid : Pid)
  /-- `read_proc_exe_identity`. -/
  | exeIdentity (pid : Pid)
  /-- `read_proc_namespace_inode`. -/
  | namespaceInode (pid : Pid) (kind : NamespaceKind)
  /-- `kill` with signal 0. -/
  | signal (pid : Pid)
  | openNamespace (pid : Pid) (kind : NamespaceKind)
  | fstat (descriptor : Descriptor)
  | setns (descriptor : Descriptor)
  /-- `move_self_to_delegated_command`. -/
  | moveToDelegatedCommand (mode : CgroupMode)
  /-- The child of the command: its exit code, or the failure after it. -/
  | runChild
deriving DecidableEq, Repr

@[reducible] def EntryCall.Answer : EntryCall → Type
  | .validateRootfs | .validateControlDirectory | .moveToDelegatedCommand _ => Option Failure
  | .geteuid => Nat
  | .openLockFile | .setns _ => Option Errno
  | .tryLock => LockAnswer
  | .readState => Option EntryRecord
  | .startTicks _ => Option UInt64
  | .exeIdentity _ => Option (UInt64 × UInt64)
  | .namespaceInode .. => Except Errno UInt64
  | .signal _ => Bool
  | .openNamespace .. => Except Errno Descriptor
  | .fstat _ => Option UInt64
  | .runChild => Except Failure Nat

abbrev EntryProgram := Interaction EntryCall EntryCall.Answer
abbrev EntryExchange := Interaction.Exchange EntryCall EntryCall.Answer
abbrev EntrySteps := Interaction.Fallible EntryCall EntryCall.Answer Failure

/-- The process at the pid is alive and has these namespaces. -/
def ProcessWorld.shows (world : ProcessWorld) (pid : Pid) (namespaces : NamespaceKind → NamespaceObject) :
    Prop :=
  ∃ row, world.table pid = some row ∧ row.alive = true ∧
    world.born pid row.startTicks = some namespaces

/-- The answers that the world gives to a call; every look that succeeds is true of it. -/
def answers (world : ProcessWorld) : EntryExchange → Prop
  | ⟨.readState, some record⟩ => world.file = some record
  | ⟨.startTicks pid, some ticks⟩ => ∃ row, world.table pid = some row ∧ row.startTicks = ticks
  | ⟨.exeIdentity pid, some (device, inode)⟩ =>
      ∃ row, world.table pid = some row ∧ row.alive = true ∧ row.exeDev = device ∧ row.exeIno = inode
  | ⟨.namespaceInode pid kind, .ok inode⟩ =>
      ∃ namespaces, world.shows pid namespaces ∧ (namespaces kind).inode = inode
  | ⟨.signal pid, true⟩ => (world.table pid).isSome = true
  | ⟨.openNamespace pid kind, .ok descriptor⟩ =>
      ∃ namespaces, world.shows pid namespaces ∧ descriptor = ⟨kind, namespaces kind⟩
  | ⟨.fstat descriptor, some inode⟩ => inode = descriptor.target.inode
  | _ => True

/-- One call. -/
abbrev proc (request : EntryCall) : EntryProgram request.Answer := Interaction.call request

/-! ### Checks -/

/-- A chain of checks that ends with the first that fails. -/
def checkAll : List (EntryProgram Bool) → EntryProgram Bool
  | [] => return true
  | check :: checks => do
      if ← check then checkAll checks else return false

def ticksAgree (recorded : Recorded) : EntryProgram Bool := do
  let ticks ← proc (.startTicks recorded.pid)
  return ticks == some recorded.startTicks

def exeAgrees (recorded : Recorded) : EntryProgram Bool := do
  let identity ← proc (.exeIdentity recorded.pid)
  return identity == some (recorded.exeDev, recorded.exeIno)

/-- The inode number of a namespace, if the file can be read. -/
def namespaceInode (pid : Pid) (kind : NamespaceKind) : EntryProgram (Option UInt64) := do
  match ← proc (.namespaceInode pid kind) with
  | .ok inode => return some inode
  | .error _ => return none

/-- `read_optional_proc_namespace_inode`: a file that the kernel does not have is inode 0. -/
def optionalNamespaceInode (pid : Pid) (kind : NamespaceKind) : EntryProgram (Option UInt64) := do
  match ← proc (.namespaceInode pid kind) with
  | .ok inode => return some inode
  | .error errno => return if errno = enoent then some 0 else none

def namespaceAgrees (state : LauncherState) (kind : NamespaceKind) : EntryProgram Bool := do
  let inode ← namespaceInode state.init.pid kind
  return inode == some (recordedInode state.initNamespaces kind)

/-- The same for a namespace that need not have been recorded. -/
def optionalNamespaceAgrees (state : LauncherState) (kind : NamespaceKind) : EntryProgram Bool :=
  if recordedInode state.initNamespaces kind = 0 then return true else namespaceAgrees state kind

/-- `validate_supervisor_identity`. -/
def validateSupervisorIdentity (state : LauncherState) : EntryProgram Bool :=
  if state.supervisor.complete then
    checkAll [ticksAgree state.supervisor, exeAgrees state.supervisor, proc (.signal state.supervisor.pid)]
  else return false

/-- `validate_init_identity`. -/
def validateInitIdentity (state : LauncherState) : EntryProgram Bool :=
  if state.initComplete then
    checkAll [ ticksAgree state.init, exeAgrees state.init, namespaceAgrees state .pid,
      namespaceAgrees state .mnt, namespaceAgrees state .uts, optionalNamespaceAgrees state .ipc,
      namespaceAgrees state .cgroup, optionalNamespaceAgrees state .net, proc (.signal state.init.pid) ]
  else return false

/-- `validate_compat_service_identity`. -/
def validateCompatServiceIdentity (state : LauncherState) : EntryProgram Bool :=
  if state.init.complete then
    checkAll [ticksAgree state.init, exeAgrees state.init, proc (.signal state.init.pid)]
  else return false

/-- Several inode numbers, in order, as long as they can be read. -/
def readInodes : List (EntryProgram (Option UInt64)) → EntryProgram (Option (List UInt64))
  | [] => return some []
  | look :: looks => do
      match ← look with
      | none => return none
      | some inode =>
          let inodes ← readInodes looks
          return inodes.map (inode :: ·)

/-- `validate_init_namespace_topology`. -/
def validateInitNamespaceTopology (state : LauncherState) : EntryProgram Bool := do
  match ← readInodes [ namespaceInode 1 .pid, namespaceInode 1 .mnt, namespaceInode 1 .uts,
      optionalNamespaceInode 1 .ipc, namespaceInode 1 .cgroup, optionalNamespaceInode 1 .net ] with
  | some [pid, mnt, uts, ipc, cgroup, net] =>
      let recorded := state.initNamespaces
      return recorded.pid != pid && recorded.mnt != mnt && recorded.uts != uts &&
        recorded.cgroup != cgroup && (ipc == 0 || recorded.ipc == ipc) &&
        (net == 0 || recorded.net == net)
  | _ => return false

/-- The loop of `validate_compat_namespace_topology` for one kind. -/
def sharedAgrees (state : LauncherState) (kind : NamespaceKind) : EntryProgram Bool :=
  let recorded := recordedInode state.initNamespaces kind
  if recorded = 0 then return true else do
    match ← readInodes [namespaceInode state.init.pid kind, namespaceInode 1 kind] with
    | some [service, host] => return service == recorded && service == host
    | _ => return false

/-- `validate_compat_namespace_topology`. -/
def validateCompatNamespaceTopology (state : LauncherState) : EntryProgram Bool := do
  let recorded := state.initNamespaces
  if recorded.mnt = 0 ∨ recorded.uts = 0 then return false else
    match ← readInodes [ namespaceInode state.init.pid .mnt, namespaceInode state.init.pid .uts,
        namespaceInode 1 .mnt, namespaceInode 1 .uts ] with
    | some [serviceMnt, serviceUts, hostMnt, hostUts] =>
        if serviceMnt == recorded.mnt && serviceUts == recorded.uts && serviceMnt != hostMnt &&
          serviceUts != hostUts
        then checkAll ([.pid, .ipc, .cgroup, .net].map (sharedAgrees state))
        else return false
    | _ => return false

/-! ### Commands -/

/-- A failure that an operation outside of this model has reported. -/
def reported (program : EntryProgram (Option Failure)) : EntrySteps Unit := do
  match ← ExceptT.lift program with
  | none => pure ()
  | some failure => throw failure

/-- A check whose failure ends the command. -/
def require (program : EntryProgram Bool) (stage text : String) (exit : Nat) : EntrySteps Unit := do
  if ← ExceptT.lift program then pure () else throw (failMessage stage text exit)

def attemptEntry (program : EntryProgram (Option Errno)) (stage : String) (exit : Nat) :
    EntrySteps Unit := do
  match ← ExceptT.lift program with
  | none => pure ()
  | some errno => throw (failErrno stage errno exit)

/-- Both commands, up to the state file: somebody else has to hold the lock. -/
def findSupervisor (command : String) (exit : Nat) : EntrySteps Unit := do
  reported (proc .validateRootfs)
  let user ← ExceptT.lift (proc .geteuid)
  require (return user == 0) "not_root" (command ++ "_requires_euid_0") exit
  reported (proc .validateControlDirectory)
  attemptEntry (proc .openLockFile) (command ++ "_open_lock") exit
  match ← ExceptT.lift (proc .tryLock) with
  | .taken => throw (failMessage (command ++ "_not_running") "supervisor_lock_is_free" (exit + 1))
  | .failed errno => throw (failErrno (command ++ "_lock") errno (exit + 1))
  | .held => pure ()

/-- The state record of a command. -/
def stateRecord (stage text : String) (exit : Nat) : EntrySteps EntryRecord := do
  match ← ExceptT.lift (proc .readState) with
  | none => throw (failMessage stage text exit)
  | some record => pure record

def openNamespace (pid : Pid) (kind : NamespaceKind) (stage : String) (exit : Nat) :
    EntrySteps Descriptor := do
  match ← ExceptT.lift (proc (.openNamespace pid kind)) with
  | .ok descriptor => pure descriptor
  | .error errno => throw (failErrno stage errno exit)

/-- `fstat` on all descriptors, and then the comparison with what is recorded. -/
def descriptorsAgree (state : LauncherState) (descriptors : List Descriptor) : EntryProgram Bool := do
  match ← readInodes (descriptors.map fun descriptor => proc (.fstat descriptor)) with
  | none => return false
  | some inodes =>
      return inodes == descriptors.map fun descriptor =>
        recordedInode state.initNamespaces descriptor.kind

/-- What `run_in_debian_namespaces` has when it comes to its first `setns`. -/
structure Prepared where
  record : EntryRecord
  mount : Descriptor
  pid : Descriptor
  cgroup : Descriptor
deriving DecidableEq, Repr

/-- `run_in_debian_namespaces` between the state record and its first `setns`. -/
def openNamespaces (record : EntryRecord) : EntrySteps Prepared := do
  let state := record.state
  require (return state.launchMode != .compat) "namespace_command_mode"
    "operation_requires_systemd_mode" 102
  require (checkAll [ validateSupervisorIdentity state, validateInitIdentity state,
    validateInitNamespaceTopology state ]) "namespace_command_identity"
    "supervisor_init_or_namespace_identity_invalid" 102
  let mount ← openNamespace state.init.pid .mnt "namespace_command_open_mount" 102
  let pid ← openNamespace state.init.pid .pid "namespace_command_open_pid" 102
  let cgroup ← openNamespace state.init.pid .cgroup "namespace_command_open_cgroup" 102
  require (checkAll [descriptorsAgree state [mount, pid, cgroup], validateInitIdentity state])
    "namespace_command_race" "init_identity_changed_before_setns" 102
  pure ⟨record, mount, pid, cgroup⟩

/-- `run_in_debian_namespaces` from its first `setns` on. -/
def enterNamespaces (prepared : Prepared) : EntrySteps Nat := do
  attemptEntry (proc (.setns prepared.pid)) "namespace_command_setns_pid" 102
  attemptEntry (proc (.setns prepared.mount)) "namespace_command_setns_mount" 102
  require (return prepared.record.cgroupMode != .unknown) "namespace_command_cgroup_mode"
    "missing_or_unknown_cgroup_mode_restart_required" 102
  reported (proc (.moveToDelegatedCommand prepared.record.cgroupMode))
  attemptEntry (proc (.setns prepared.cgroup)) "namespace_command_setns_cgroup" 102
  ExceptT.mk (proc .runChild)

/-- `run_in_debian_namespaces`. -/
def runInDebianNamespaces : EntrySteps Nat := do
  findSupervisor "namespace_command" 100
  let record ← stateRecord "namespace_command_state" "launcher_state_is_unreadable" 102
  let prepared ← openNamespaces record
  enterNamespaces prepared

/-- What `run_in_debian_compat_mount_namespace` has when it comes to its first `setns`. -/
structure PreparedCompat where
  record : EntryRecord
  mount : Descriptor
  uts : Descriptor
deriving DecidableEq, Repr

/-- `run_in_debian_compat_mount_namespace` between the state record and its first `setns`. -/
def openCompatMountNamespace (record : EntryRecord) : EntrySteps PreparedCompat := do
  let state := record.state
  require (checkAll [ return state.launchMode == .compat, validateSupervisorIdentity state,
    validateCompatServiceIdentity state, validateCompatNamespaceTopology state ])
    "compat_command_identity" "supervisor_service_or_namespace_identity_invalid" 126
  let mount ← openNamespace state.init.pid .mnt "compat_command_open_mount" 126
  let uts ← openNamespace state.init.pid .uts "compat_command_open_uts" 126
  require (checkAll [ descriptorsAgree state [mount, uts], validateCompatServiceIdentity state,
    validateCompatNamespaceTopology state ]) "compat_command_race"
    "service_identity_changed_before_setns" 126
  pure ⟨record, mount, uts⟩

/-- `run_in_debian_compat_mount_namespace` from its first `setns` on. -/
def enterCompatMountNamespace (prepared : PreparedCompat) : EntrySteps Nat := do
  attemptEntry (proc (.setns prepared.mount)) "compat_command_setns_mount" 126
  attemptEntry (proc (.setns prepared.uts)) "compat_command_setns_uts" 126
  ExceptT.mk (proc .runChild)

/-- `run_in_debian_compat_mount_namespace`. -/
def runInDebianCompatMountNamespace : EntrySteps Nat := do
  findSupervisor "compat_command" 124
  let record ← stateRecord "compat_command_identity"
    "supervisor_service_or_namespace_identity_invalid" 126
  let prepared ← openCompatMountNamespace record
  enterCompatMountNamespace prepared

/-- The two commands. -/
inductive EntryCommand where
  | namespaces
  | compatMountNamespace
deriving DecidableEq, Repr

def EntryCommand.program : EntryCommand → EntrySteps Nat
  | .namespaces => runInDebianNamespaces
  | .compatMountNamespace => runInDebianCompatMountNamespace

end DawnShell.Launcher.Entry
