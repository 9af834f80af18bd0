/-
Module: DawnShell.Launcher.Cgroup
Layer: Launcher
Purpose: How a supervisor comes to its namespaces and its cgroup hierarchies: the private namespaces, the
  three backends with their mounts and device gates, the order in which a policy tries them, the cleanup
  between them, and the fallback to the compat mode.  The negotiation is a program over the kernel, and
  `CgroupWorld` is what the kernel keeps of it.
Trusted boundary: faithful model of bfu_namespace_probe.c:530-538, 1141-1178, 1180-1453, 1455-1543,
  1757-1858, 2596-2741 and 2751-2908.  A call that is repeated when it is interrupted is one
  call.  A descriptor is what it has been opened on.  A directory is given as the names that `readdir`
  will yield, and a control file is opened and written in one call.  The `bpf` call and an audit
  architecture are there, as on all three architectures.  The log lines are left out.
Main exports: CgroupMode, CgroupPolicy, CgroupCall, CgroupWorld, prepareUnifiedCgroupMount,
  prepareLegacyCgroupMounts, cleanupCgroupHierarchy, negotiateCgroupMode, setSystemdParentNamespaces
-/
import DawnShell.Lib.Fallible
import DawnShell.Launcher.Process
import DawnShell.Launcher.ExclusiveUsb

namespace DawnShell.Launcher

/-- `CgroupMode`. -/
inductive CgroupMode where
  | unknown
  | v1
  /-- The legacy hierarchy without a device gate. -/
  | v1NoDevices
  | v2
deriving DecidableEq, Repr

/-- `CgroupPolicy`. -/
inductive CgroupPolicy where
  | auto
  | forceV2
  | forceV1
deriving DecidableEq, Repr

def eperm : Errno := 1
def ebusy : Errno := 16
def enametoolong : Errno := 36
def enosys : Errno := 38
def enotempty : Errno := 39
def eloop : Errno := 40
def eproto : Errno := 71
def eopnotsupp : Errno := 95
def etimedout : Errno := 110

/-! ### Failures -/

/-- What a failure line gives as its reason. -/
inductive FailureReason where
  | errno (value : Errno)
  | message (text : String)
deriving DecidableEq, Repr

/-- A failure line and the code that is returned after it. -/
structure Failure where
  stage : String
  reason : FailureReason
  exit : Nat
deriving DecidableEq, Repr

/-- `fail_errno`. -/
def failErrno (stage : String) (errno : Errno) (exit : Nat) : Failure := ⟨stage, .errno errno, exit⟩

/-- `fail_message`. -/
def failMessage (stage text : String) (exit : Nat) : Failure := ⟨stage, .message text, exit⟩

/-! ### Paths -/

/-- `PATH_MAX`. -/
def pathMax : Nat := 4096

/-- `joined_path` into a buffer of `PATH_MAX` characters. -/
def joinedPath (base relative : Text) : Option Text :=
  if base.length + 1 + relative.length < pathMax then some (base ++ '/' :: relative) else none

/-- The hierarchies of DawnShell. -/
inductive Hierarchy where
  | systemd
  | devices
  | unified
deriving DecidableEq, Repr

/-- `kSystemdCgroupMountName`, `kDevicesCgroupMountName` and `kUnifiedCgroupMountName`. -/
def Hierarchy.mountName : Hierarchy → Text
  | .systemd => "systemd-cgroup".toList
  | .devices => "devices-cgroup".toList
  | .unified => "unified-cgroup".toList

/-- `kCgroupChildName`. -/
def cgroupChildName : Text := "dawnshell".toList

/-- `kCgroupPayloadName`. -/
def cgroupPayloadName : Text := "payload".toList

/-- `kCgroupProbeName`. -/
def cgroupProbeName : Text := ".device-probe".toList

/-- The path of a mount and the path of its child. -/
structure DelegatedPaths where
  mount : Text
  child : Text
deriving DecidableEq, Repr

/-- `delegated_cgroup_paths`. -/
def delegatedCgroupPaths (controlDir : Text) (hierarchy : Hierarchy) : Option DelegatedPaths := do
  let mount ← joinedPath controlDir hierarchy.mountName
  let child ← joinedPath mount cgroupChildName
  return ⟨mount, child⟩

/-- `unified_cgroup_paths`. -/
def unifiedCgroupPaths (controlDir : Text) : Option (DelegatedPaths × Text) := do
  let paths ← delegatedCgroupPaths controlDir .unified
  let payload ← joinedPath paths.child cgroupPayloadName
  return (paths, payload)

/-! ### Device programs -/

/-- `struct bpf_cgroup_dev_ctx`. -/
structure DeviceAccess where
  accessType : Nat
  major : Nat
  minor : Nat
deriving DecidableEq, Repr

/-- The instructions of the device programs. -/
inductive BpfInstruction where
  /-- A field of the context, which is in register 1. -/
  | load (register : Nat) (field : DeviceAccess → Nat)
  | move (register value : Nat)
  | jumpNotEqual (register value offset : Nat)
  | exit

abbrev BpfProgram := List BpfInstruction

/-- What the program returns; `none` when it runs off its end. -/
def BpfProgram.execute (access : DeviceAccess) : Nat → BpfProgram → (Nat → Nat) → Option Nat
  | 0, _, _ => none
  | _, [], _ => none
  | fuel + 1, instruction :: rest, registers =>
      match instruction with
      | .load register field =>
          execute access fuel rest (Function.update registers register (field access))
      | .move register value => execute access fuel rest (Function.update registers register value)
      | .jumpNotEqual register value offset =>
          execute access fuel (if registers register ≠ value then rest.drop offset else rest) registers
      | .exit => some (registers 0)

/-- The access is allowed: the program returns something else than 0. -/
def BpfProgram.allows (program : BpfProgram) (access : DeviceAccess) : Bool :=
  (BpfProgram.execute access program.length program fun _ => 0).any (· != 0)

/-- The programs that are loaded. -/
inductive DeviceProgram where
  /-- The one of `probe_cgroup_device_bpf`. -/
  | allowAll
  /-- The one of `apply_host_usb_v2_policy`. -/
  | denyUsb
deriving DecidableEq, Repr

def DeviceProgram.instructions : DeviceProgram → BpfProgram
  | .allowAll => [.move 0 1, .exit]
  | .denyUsb => [.load 2 DeviceAccess.major, .move 0 1, .jumpNotEqual 2 189 1, .move 0 0, .exit]

/-! ### The kernel -/

inductive FileKind where
  | directory
  | other
deriving DecidableEq, Repr

inductive PollAnswer where
  | ready
  | timedOut
  | failed
deriving DecidableEq, Repr

inductive UnshareFlag where
  | mount
  | uts
  | pid
deriving DecidableEq, Repr

inductive CgroupCall where
  /-- `prctl` with `PR_CAPBSET_DROP`. -/
  | dropSysBoot
  | unshare (flag : UnshareFlag)
  /-- `mount` of `/` with `MS_REC | MS_PRIVATE`. -/
  | makeRootPrivate
  /-- The filter against IPC namespaces, by `seccomp` or by `prctl`. -/
  | seccompFilter
  | prctlFilter
  | closeRangeGuard
  | pollManager
  /-- One character, if there is one. -/
  | readManager
  | statPidNamespace
  | lstat (path : Text)
  | mkdir (path : Text) (mode : Nat)
  | mount (hierarchy : Hierarchy) (path : Text)
  | openFile (path : Text)
  | readFile (path : Text)
  /-- What there is in `/proc/cgroups`, if it can be read. -/
  | readProcCgroups
  | writeValue (path value : Text)
  | bpfLoad (program : DeviceProgram)
  | openDirectory (path : Text)
  | bpfAttach (path : Text) (program : DeviceProgram)
  | bpfDetach (path : Text)
  | listDirectory (path : Text)
  | rmdir (path : Text)
  | umount (path : Text)
deriving DecidableEq, Repr

/-- The answers; an error number is a failure. -/
@[reducible] def CgroupCall.Answer : CgroupCall → Type
  | .closeRangeGuard => Unit
  | .pollManager => PollAnswer
  | .readManager => Option Char
  | .lstat _ => Except Errno FileKind
  | .readFile _ => Except Errno Text
  | .readProcCgroups => Option Text
  | .listDirectory _ => Except Errno (List Text)
  | _ => Option Errno

abbrev CgroupProgram := Interaction CgroupCall CgroupCall.Answer
abbrev CgroupExchange := Interaction.Exchange CgroupCall CgroupCall.Answer
abbrev CgroupSteps := Interaction.Fallible CgroupCall CgroupCall.Answer Failure

/-- One call. -/
abbrev kernel (request : CgroupCall) : CgroupProgram request.Answer := Interaction.call request

/-- A step that fails with the error number of its call. -/
def attempt (program : CgroupProgram (Option Errno)) (stage : String) (exit : Nat) :
    CgroupSteps Unit := do
  match ← ExceptT.lift program with
  | none => pure ()
  | some errno => throw (failErrno stage errno exit)

/-- A step that joins two paths. -/
def joined (base relative : Text) (stage : String) (exit : Nat) : CgroupSteps Text :=
  match joinedPath base relative with
  | some path => pure path
  | none => throw (failErrno stage enametoolong exit)

/-- `ensure_directory_path`. -/
def ensureDirectoryPath (path : Text) (mode : Nat) (stage : String) : CgroupSteps Unit := do
  match ← ExceptT.lift (kernel (.lstat path)) with
  | .ok .directory => pure ()
  | .ok .other => throw (failMessage stage "path_exists_but_is_not_a_directory" 44)
  | .error errno =>
      if errno = enoent then attempt (kernel (.mkdir path mode)) stage 44
      else throw (failErrno stage errno 44)

/-! ### The unified hierarchy -/

/-- The separators of `strtok_r` in the list of controllers. -/
def isTokenSeparator (character : Char) : Bool := [' ', '\t', '\r', '\n'].contains character

/-- The controllers of the file `cgroup.controllers`. -/
def controllerNames (contents : Text) : List Text :=
  (contents.splitOnP isTokenSeparator).filter (· != [])

/-- The loop of `enable_available_v2_controllers`: a name that is too long is left out, and one that
cannot be enabled is only logged. -/
def enableControllers (subtreePath : Text) : List Text → CgroupProgram Unit
  | [] => return ()
  | name :: names => do
      if name.length + 2 < 96 then
        let _ ← kernel (.writeValue subtreePath ('+' :: name ++ ['\n']))
        enableControllers subtreePath names
      else enableControllers subtreePath names

/-- `enable_available_v2_controllers`. -/
def enableAvailableV2Controllers (childPath : Text) : CgroupSteps Unit := do
  let controllersPath ← joined childPath "cgroup.controllers".toList "cgroup_v2_controller_path" 113
  let subtreePath ← joined childPath "cgroup.subtree_control".toList "cgroup_v2_controller_path" 113
  attempt (kernel (.openFile controllersPath)) "cgroup_v2_controllers_open" 113
  match ← ExceptT.lift (kernel (.readFile controllersPath)) with
  | .error errno => throw (failErrno "cgroup_v2_controllers_read" errno 113)
  | .ok contents => ExceptT.lift (enableControllers subtreePath (controllerNames contents))

/-- A step of the probe: its directory is removed before the failure is returned. -/
def attemptProbing (probePath : Text) (program : CgroupProgram (Option Errno)) (stage : String) :
    CgroupSteps Unit := do
  match ← ExceptT.lift program with
  | none => pure ()
  | some errno => do
      let _ ← ExceptT.lift (kernel (.rmdir probePath))
      throw (failErrno stage errno 114)

/-- `probe_cgroup_device_bpf`. -/
def probeCgroupDeviceBpf (childPath : Text) : CgroupSteps Unit := do
  let probePath ← joined childPath cgroupProbeName "cgroup_v2_device_probe_path" 114
  attempt (kernel (.mkdir probePath 0o755)) "cgroup_v2_device_probe_mkdir" 114
  attemptProbing probePath (kernel (.bpfLoad .allowAll)) "cgroup_v2_device_bpf_load"
  attemptProbing probePath (kernel (.openDirectory probePath)) "cgroup_v2_device_probe_open"
  attemptProbing probePath (kernel (.bpfAttach probePath .allowAll)) "cgroup_v2_device_bpf_attach"
  let _ ← ExceptT.lift (kernel (.bpfDetach probePath))
  attempt (kernel (.rmdir probePath)) "cgroup_v2_device_probe_rmdir" 114

/-- `apply_host_usb_v2_policy`. -/
def applyHostUsbV2Policy (payloadPath : Text) (usb : HostUsbPolicy) : CgroupSteps Unit :=
  if usb ≠ .off then pure () else do
    attempt (kernel (.bpfLoad .denyUsb)) "host_usb_v2_bpf_load" 118
    attempt (kernel (.openDirectory payloadPath)) "host_usb_v2_cgroup_open" 118
    attempt (kernel (.bpfAttach payloadPath .denyUsb)) "host_usb_v2_bpf_attach" 118

/-- `prepare_unified_cgroup_mount`. -/
def prepareUnifiedCgroupMount (controlDir : Text) (usb : HostUsbPolicy) : CgroupSteps Unit :=
  match unifiedCgroupPaths controlDir with
  | none => throw (failErrno "cgroup_v2_path" enametoolong 110)
  | some (paths, payload) => do
      ensureDirectoryPath paths.mount 0o700 "cgroup_v2_mount_dir"
      attempt (kernel (.mount .unified paths.mount)) "cgroup_v2_mount" 111
      ensureDirectoryPath paths.child 0o755 "cgroup_v2_child_dir"
      enableAvailableV2Controllers paths.child
      probeCgroupDeviceBpf paths.child
      ensureDirectoryPath payload 0o755 "cgroup_v2_payload_dir"
      applyHostUsbV2Policy payload usb

/-! ### The legacy hierarchies -/

/-- `prepare_systemd_cgroup_mount`. -/
def prepareSystemdCgroupMount (controlDir : Text) : CgroupSteps Unit :=
  match delegatedCgroupPaths controlDir .systemd with
  | none => throw (failErrno "cgroup_path" enametoolong 45)
  | some paths => do
      ensureDirectoryPath paths.mount 0o700 "cgroup_mount_dir"
      attempt (kernel (.mount .systemd paths.mount)) "cgroup_v1_name_systemd_mount" 46
      ensureDirectoryPath paths.child 0o755 "cgroup_child_dir"

def isSpace (character : Char) : Bool :=
  [' ', '\t', '\n', '\r', Char.ofNat 11, Char.ofNat 12].contains character

/-- `%63s` of `sscanf`, with the rest of the text. -/
def scanWord (text : Text) : Option (Text × Text) :=
  let text := text.dropWhile isSpace
  let word := (text.take 63).takeWhile fun character => !isSpace character
  if word = [] then none else some (word, text.drop word.length)

/-- `%d` of `sscanf`, with the rest of the text. -/
def scanInteger (text : Text) : Option (Int × Text) :=
  let text := text.dropWhile isSpace
  let negative := text.head? == some '-'
  let text := if negative || text.head? == some '+' then text.tail else text
  let digits := text.takeWhile Char.isDigit
  if digits = [] then none
  else
    let value : Nat := digits.foldl (fun value digit => 10 * value + (digit.toNat - '0'.toNat)) 0
    some (if negative then -value else value, text.drop digits.length)

/-- A row of `/proc/cgroups`: the name of a controller and whether it is enabled. -/
def controllerRow (line : Text) : Option (Text × Int) := do
  let (name, line) ← scanWord line
  let (_, line) ← scanInteger line
  let (_, line) ← scanInteger line
  let (enabled, _) ← scanInteger line
  return (name, enabled)

/-- The first row of the `devices` controller has it enabled. -/
def devicesEnabled (contents : Text) : Bool :=
  (((contents.splitOnP (· == '\n')).filterMap controllerRow).find? fun row =>
    row.1 == "devices".toList).any fun row => row.2 != 0

/-- `devices_controller_available`. -/
def devicesControllerAvailable : CgroupProgram Bool := do
  match ← kernel .readProcCgroups with
  | none => return false
  | some contents => return devicesEnabled contents

/-- The rule that denies the USB devices. -/
def usbDenyRule : Text := "c 189:* rwm\n".toList

def devicesDenyName : Text := "devices.deny".toList

/-- The device gate of `prepare_devices_cgroup_mount`. -/
def applyHostUsbV1Policy (childPath : Text) (usb : HostUsbPolicy) : CgroupSteps Unit :=
  if usb ≠ .off then pure () else do
    let denyPath ← joined childPath devicesDenyName "host_usb_v1_deny_path" 118
    attempt (kernel (.writeValue denyPath usbDenyRule)) "host_usb_v1_deny" 118

/-- `prepare_devices_cgroup_mount`. -/
def prepareDevicesCgroupMount (controlDir : Text) (usb : HostUsbPolicy) : CgroupSteps Unit :=
  match delegatedCgroupPaths controlDir .devices with
  | none => throw (failErrno "devices_cgroup_path" enametoolong 90)
  | some paths => do
      ensureDirectoryPath paths.mount 0o700 "devices_cgroup_mount_dir"
      attempt (kernel (.mount .devices paths.mount)) "cgroup_v1_devices_mount" 91
      ensureDirectoryPath paths.child 0o755 "devices_cgroup_child_dir"
      let listPath ← joined paths.child "devices.list".toList "devices_cgroup_interface_path" 92
      attempt (kernel (.openFile listPath)) "devices_cgroup_interface" 93
      applyHostUsbV1Policy paths.child usb

/-- `prepare_legacy_cgroup_mounts`. -/
def prepareLegacyCgroupMounts (controlDir : Text) (usb : HostUsbPolicy) : CgroupSteps CgroupMode := do
  if ← ExceptT.lift devicesControllerAvailable then
    prepareDevicesCgroupMount controlDir usb
    prepareSystemdCgroupMount controlDir
    return .v1
  else if usb ≠ .off then
    throw (failMessage "cgroup_devices_controller" "device_gate_unavailable_for_usb_passthrough" 120)
  else
    prepareSystemdCgroupMount controlDir
    return .v1NoDevices

/-! ### Cleanup -/

/-- The loop of `remove_cgroup_descendants` over the entries of a directory. -/
def removeEntries (removeDescendants : Text → CgroupProgram (Option Errno)) (path : Text) :
    List Text → CgroupProgram (Option Errno)
  | [] => return none
  | name :: names =>
      if name = ['.'] ∨ name = ['.', '.'] then removeEntries removeDescendants path names
      else
        match joinedPath path name with
        | none => return some enametoolong
        | some child => do
            match ← kernel (.lstat child) with
            | .error errno =>
                if errno = enoent then removeEntries removeDescendants path names
                else return some errno
            | .ok .other => removeEntries removeDescendants path names
            | .ok .directory =>
                match ← removeDescendants child with
                | some errno => return some errno
                | none =>
                    match ← kernel (.rmdir child) with
                    | none => removeEntries removeDescendants path names
                    | some errno =>
                        if errno = enoent then removeEntries removeDescendants path names
                        else return some errno

/-- `remove_cgroup_descendants`, with the number of levels that are left. -/
def removeCgroupDescendants : Nat → Text → CgroupProgram (Option Errno)
  | 0, _ => return some eloop
  | levels + 1, path => do
      match ← kernel (.listDirectory path) with
      | .error errno => return if errno = enoent then none else some errno
      | .ok names => removeEntries (removeCgroupDescendants levels) path names

/-- The attempts of `cleanup_cgroup_hierarchy` to remove the child. -/
def removeChild (childPath : Text) : Nat → CgroupProgram Unit
  | 0 => return ()
  | attempts + 1 => do
      match ← removeCgroupDescendants 65 childPath with
      | some errno =>
          if errno = ebusy ∨ errno = enotempty then removeChild childPath attempts else return ()
      | none =>
          match ← kernel (.rmdir childPath) with
          | none => return ()
          | some errno =>
              if errno = ebusy ∨ errno = enotempty then removeChild childPath attempts else return ()

/-- `cleanup_cgroup_hierarchy`. -/
def cleanupCgroupHierarchy (controlDir : Text) (hierarchy : Hierarchy) : CgroupProgram Unit :=
  match delegatedCgroupPaths controlDir hierarchy with
  | none => return ()
  | some paths => do
      removeChild paths.child 20
      let _ ← kernel (.umount paths.mount)
      let _ ← kernel (.rmdir paths.mount)
      return ()

/-! ### Negotiation -/

/-- The second half of `negotiate_cgroup_mode`. -/
def negotiateLegacyMode (controlDir : Text) (usb : HostUsbPolicy) :
    CgroupProgram (Except Failure CgroupMode) := do
  match ← (prepareLegacyCgroupMounts controlDir usb).run with
  | .ok mode => return .ok mode
  | .error failure => do
      cleanupCgroupHierarchy controlDir .devices
      cleanupCgroupHierarchy controlDir .systemd
      return .error failure

/-- `negotiate_cgroup_mode`. -/
def negotiateCgroupMode (controlDir : Text) (policy : CgroupPolicy) (usb : HostUsbPolicy) :
    CgroupProgram (Except Failure CgroupMode) :=
  if policy = .forceV1 then negotiateLegacyMode controlDir usb else do
    match ← (prepareUnifiedCgroupMount controlDir usb).run with
    | .ok () => return .ok .v2
    | .error failure => do
        cleanupCgroupHierarchy controlDir .unified
        if policy = .forceV2 then
          return .error { failure with stage := "cgroup_v2_forced_unavailable", exit := 117 }
        else negotiateLegacyMode controlDir usb

/-- `block_ipc_namespace_creation`. -/
def blockIpcNamespaceCreation : CgroupSteps Unit := do
  match ← ExceptT.lift (kernel .seccompFilter) with
  | none => pure ()
  | some _ => attempt (kernel .prctlFilter) "seccomp_block_newipc" 53

/-- The bounding set without `CAP_SYS_BOOT`; a kernel that does not know the capability is fine. -/
def dropSysBootCapability : CgroupSteps Unit := do
  match ← ExceptT.lift (kernel .dropSysBoot) with
  | none => pure ()
  | some errno =>
      if errno = einval then pure () else throw (failErrno "capbset_drop_sys_boot" errno 53)

/-- `set_base_private_namespaces`. -/
def setBasePrivateNamespaces : CgroupSteps Unit := do
  dropSysBootCapability
  attempt (kernel (.unshare .mount)) "unshare_mount" 53
  attempt (kernel .makeRootPrivate) "mount_make_rprivate" 54
  attempt (kernel (.unshare .uts)) "unshare_uts" 55
  blockIpcNamespaceCreation
  ExceptT.lift (kernel .closeRangeGuard)

/-- `wait_for_network_manager`, and the failure after it. -/
def waitForNetworkManager : CgroupSteps Unit := do
  match ← ExceptT.lift (kernel .pollManager) with
  | .timedOut => throw (failErrno "wait_network_manager" etimedout 56)
  | .failed => throw (failErrno "wait_network_manager" eproto 56)
  | .ready => do
      match ← ExceptT.lift (kernel .readManager) with
      | some '1' => pure ()
      | _ => throw (failErrno "wait_network_manager" eproto 56)

/-- `pid_namespace_creation_is_unsupported`. -/
def pidNamespaceCreationIsUnsupported (errno : Errno) : Bool :=
  errno == einval || errno == enosys || errno == eperm || errno == eopnotsupp

/-- `pid_namespace_entry_is_available`, which is asked only when a fallback is allowed. -/
def pidNamespaceEntryMissing (allowFallback : Bool) : CgroupProgram Bool :=
  if allowFallback then do
    let failure ← kernel .statPidNamespace
    return failure.isSome
  else return false

/-- Both fallbacks of `set_systemd_parent_namespaces` after the negotiation. -/
def fallBackToCompat (controlDir : Text) : CgroupProgram (LaunchMode × CgroupMode) := do
  cleanupCgroupHierarchy controlDir .unified
  cleanupCgroupHierarchy controlDir .devices
  cleanupCgroupHierarchy controlDir .systemd
  return (.compat, .unknown)

/-- The steps of `set_systemd_parent_namespaces` from the negotiation on. -/
def negotiateNamespaces (controlDir : Text) (policy : CgroupPolicy) (usb : HostUsbPolicy)
    (allowFallback : Bool) : CgroupSteps (LaunchMode × CgroupMode) := do
  match ← ExceptT.lift (negotiateCgroupMode controlDir policy usb) with
  | .error failure =>
      if allowFallback then ExceptT.lift (fallBackToCompat controlDir) else throw failure
  | .ok mode => do
      match ← ExceptT.lift (kernel (.unshare .pid)) with
      | none => pure (.systemd, mode)
      | some errno =>
          if allowFallback && pidNamespaceCreationIsUnsupported errno
          then ExceptT.lift (fallBackToCompat controlDir)
          else throw (failErrno "unshare_pid" errno 58)

/-- `set_systemd_parent_namespaces`. -/
def setSystemdParentNamespaces (controlDir : Text) (policy : CgroupPolicy) (usb : HostUsbPolicy)
    (allowFallback : Bool) : CgroupSteps (LaunchMode × CgroupMode) := do
  setBasePrivateNamespaces
  waitForNetworkManager
  if ← ExceptT.lift (pidNamespaceEntryMissing allowFallback) then return (.compat, .unknown)
  else negotiateNamespaces controlDir policy usb allowFallback

/-! ### What the kernel keeps -/

/-- A rule of a device gate. -/
inductive DeviceRule where
  /-- A line that was written to a control file. -/
  | line (text : Text)
  | program (program : DeviceProgram)
deriving DecidableEq, Repr

/-- The mounts of DawnShell, the latest first, and the rules with the paths they are at. -/
structure CgroupWorld where
  mounts : List (Hierarchy × Text) := []
  rules : List (Text × DeviceRule) := []
deriving DecidableEq, Repr

/-- The path is a directory or in it. -/
def within (directory path : Text) : Bool :=
  path == directory || (directory ++ ['/']).isPrefixOf path

/-- What an answered call changes.  Only one answer is ruled out: that a mount which is there cannot be
unmounted. -/
def CgroupWorld.observe (world : CgroupWorld) : CgroupExchange → Option CgroupWorld
  | ⟨.mount hierarchy path, none⟩ => some { world with mounts := (hierarchy, path) :: world.mounts }
  | ⟨.umount path, none⟩ =>
      some { world with mounts := world.mounts.eraseP fun mount => mount.2 == path }
  | ⟨.umount path, some _⟩ =>
      if world.mounts.any fun mount => mount.2 == path then none else some world
  | ⟨.writeValue path value, none⟩ => some { world with rules := (path, .line value) :: world.rules }
  | ⟨.bpfAttach path program, none⟩ =>
      some { world with rules := (path, .program program) :: world.rules }
  | ⟨.bpfDetach path, none⟩ => some { world with rules := world.rules.filter fun rule => rule.1 != path }
  | ⟨.rmdir path, none⟩ =>
      some { world with rules := world.rules.filter fun rule => !within path rule.1 }
  | _ => some world

end DawnShell.Launcher
