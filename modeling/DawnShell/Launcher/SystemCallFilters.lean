/-
Module: DawnShell.Launcher.SystemCallFilters
Layer: Launcher
Purpose: The seccomp filters of the launcher: `block_ipc_namespace_creation` and the guards of the
  headers `dawnshell_close_range_guard.h` and `dawnshell_keyring_guard.h`.  The numbers of the system
  calls come from the headers of the build, which may lack some.
Trusted boundary: what the two probes measure, the environment and whether the kernel takes a filter
  are inputs
Main exports: Filters.Target, Filters.Build, Build.blockIpcNamespaceCreation, Build.installCloseRangeGuard,
  Build.installKeyringGuard
-/
import DawnShell.Lib.SeccompFilter

namespace DawnShell.Launcher.Filters

open Seccomp

/-! ### The build -/

/-- The machines that the launcher distinguishes. -/
inductive Target where
  | aarch64
  | arm
  | x86_64
  | other
deriving DecidableEq, Repr

/-- `DAWNSHELL_AUDIT_ARCH` and `DAWNSHELL_GUARD_AUDIT_ARCH`, which the same conditions define. -/
def Target.auditArch : Target → Option UInt32
  | .aarch64 => some 0xC00000B7
  | .arm => some 0x40000028
  | .x86_64 => some 0xC000003E
  | .other => none

/-- The system calls that the filters name. -/
inductive SystemCall where
  | unshare
  | clone
  | clone3
  | closeRange
  | keyctl
deriving DecidableEq, Repr

/-- A build of the launcher: its machine and the `__NR_` constants of its headers. -/
structure Build where
  target : Target
  number : SystemCall → Option UInt32

/-- `CLONE_NEWIPC`. -/
def cloneNewIpc : UInt32 := 0x08000000

/-- `KEYCTL_JOIN_SESSION_KEYRING`. -/
def keyctlJoinSessionKeyring : UInt32 := 1

/-- `SECCOMP_RET_ERRNO | EPERM`. -/
def refusePermission : UInt32 := errno 1

/-- `SECCOMP_RET_ERRNO | ENOSYS`. -/
def refuseUnknown : UInt32 := errno 38

/-! ### Parts of the filters -/

/-- A call of another architecture is allowed, else the number of the call is loaded. -/
def archGate (arch : UInt32) : List Instruction :=
  [.load archOffset,
   .jump .equal arch 1 0,
   .ret allow,
   .load nrOffset]

/-- A call is refused when its first argument passes a test. -/
def argumentCheck (test : Test) (operand refusal nr : UInt32) : List Instruction :=
  [.jump .equal nr 0 3,
   .load (argumentOffset 0),
   .jump test operand 0 1,
   .ret refusal]

/-- A call is refused. -/
def callCheck (refusal nr : UInt32) : List Instruction :=
  [.jump .equal nr 0 1,
   .ret refusal]

/-- Instructions that are there `#ifdef` the number of a call. -/
def ifDefined (number : Option UInt32) (instructions : UInt32 → List Instruction) : List Instruction :=
  match number with
  | some nr => instructions nr
  | none => []

namespace Build

variable (build : Build)

/-- The filter of `block_ipc_namespace_creation`. -/
def ipcFilter (arch : UInt32) : List Instruction :=
  archGate arch ++
  ifDefined (build.number .unshare) (argumentCheck .anySet cloneNewIpc refusePermission) ++
  [.load nrOffset] ++
  ifDefined (build.number .clone) (argumentCheck .anySet cloneNewIpc refusePermission) ++
  [.load nrOffset] ++
  ifDefined (build.number .clone3) (callCheck refuseUnknown) ++
  [.ret allow]

/-- The filter of `dawnshell_install_close_range_guard`. -/
def closeRangeFilter (arch nr : UInt32) : List Instruction :=
  archGate arch ++ callCheck refuseUnknown nr ++ [.ret allow]

/-- The filter of `dawnshell_install_keyring_guard`. -/
def keyringFilter (arch nr : UInt32) : List Instruction :=
  archGate arch ++ argumentCheck .equal keyctlJoinSessionKeyring refuseUnknown nr ++ [.ret allow]

/-! ### Installation -/

/-- Whether `seccomp` and, after it, `prctl` take a filter. -/
structure Kernel where
  seccomp : Bool
  prctl : Bool

/-- Install a filter: `failure` is returned when the kernel takes it in neither way. -/
def install (kernel : Kernel) (filter : List Instruction) (success failure : Int) :
    Int × Option (List Instruction) :=
  if kernel.seccomp || kernel.prctl then (success, some filter) else (failure, none)

/-- `block_ipc_namespace_creation`: its result and the filter that it installs. -/
def blockIpcNamespaceCreation (kernel : Kernel) : Int × Option (List Instruction) :=
  match build.target.auditArch with
  | some arch => install kernel (build.ipcFilter arch) 0 53
  | none => (0, none)

/-- What both guards do: a policy of the environment and a measurement decide. -/
def guardInstall (policy : Option String) (measured : Int) (kernel : Kernel) (filter : List Instruction) :
    Int × Option (List Instruction) :=
  if policy = some "off" then (0, none)
  else if policy ≠ some "force" ∧ measured ≤ 0 then (0, none)
  else install kernel filter 1 (-1)

/-- `dawnshell_install_close_range_guard`; `measured` is the result of
`dawnshell_close_range_is_pathological`. -/
def installCloseRangeGuard (policy : Option String) (measured : Int) (kernel : Kernel) :
    Int × Option (List Instruction) :=
  match build.number .closeRange, build.target.auditArch with
  | some nr, some arch => guardInstall policy measured kernel (closeRangeFilter arch nr)
  | _, _ => (0, none)

/-- `dawnshell_install_keyring_guard`; `measured` is the result of
`dawnshell_session_keyring_join_breaks_writes`. -/
def installKeyringGuard (policy : Option String) (measured : Int) (kernel : Kernel) :
    Int × Option (List Instruction) :=
  match build.number .keyctl, build.target.auditArch with
  | some nr, some arch => guardInstall policy measured kernel (keyringFilter arch nr)
  | _, _ => (0, none)

end Build

end DawnShell.Launcher.Filters
