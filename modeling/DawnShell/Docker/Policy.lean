/-
Module: DawnShell.Docker.Policy
Layer: Docker
Purpose: The script that writes the Docker policy: under a lock it enters Debian, finds the firewall backend,
  renames a generated daemon.json over the old one and a wrapper over the Docker client, and records
  what it has decided.  Each of the two files is replaced only when its recorded hash says that it is the
  script's own.
Trusted boundary: faithful model of configure-docker-network.sh:17-686.  The text of the wrapper is a
  parameter.  A script that is killed as a whole is not in the program; `Cut` ends it anywhere.
Main exports: Policy, Backend, PolicyRequest, checkArguments, configuration, verifyHash, checkDaemonJson,
  verifyManagedWrapper, resolveBackend, replaceManaged, publishDaemonJson, configureHostIpcWrapper,
  writePolicyRecord, debianPolicy, cleanup, holdLock, configureDockerNetwork
-/
import DawnShell.Docker.Shell
import DawnShell.Lib.ExceptBind
import Mathlib.Data.List.Infix

namespace DawnShell.Docker

open Interaction

/-! ### Arguments -/

/-- `ROOT`. -/
def root : String := "/data/local/debian"

/-- The requested policy. -/
inductive Policy where
  | host
  | auto
  | nativeNft
  | iptablesNft
  | legacy
deriving DecidableEq, Repr

/-- The name of a policy. -/
def Policy.name : Policy → String
  | .host => "host"
  | .auto => "auto"
  | .nativeNft => "native_nft"
  | .iptablesNft => "iptables_nft"
  | .legacy => "legacy"

/-- The Debian architecture of the app. -/
inductive Architecture where
  | armhf
  | arm64
  | amd64
deriving DecidableEq, Repr

/-- The name of an architecture. -/
def Architecture.name : Architecture → String
  | .armhf => "armhf"
  | .arm64 => "arm64"
  | .amd64 => "amd64"

/-- The storage driver. -/
inductive StorageDriver where
  | overlay2
  | vfs
deriving DecidableEq, Repr

/-- The name of a storage driver. -/
def StorageDriver.name : StorageDriver → String
  | .overlay2 => "overlay2"
  | .vfs => "vfs"

/-- What the arguments ask for. -/
structure PolicyRequest where
  bfuRoot : String
  policy : Policy
  expectedArch : Architecture
  hostIpcCompatibility : Bool
  storageDriver : StorageDriver
  insideMountNamespace : Bool
deriving DecidableEq, Repr

/-- `BIN`. -/
def PolicyRequest.bin (request : PolicyRequest) : String := request.bfuRoot ++ "/bin"

/-- `TOOLBOX`. -/
def PolicyRequest.toolbox (request : PolicyRequest) : String := request.bin ++ "/busybox"

/-- `FDGUARD`. -/
def PolicyRequest.fdguard (request : PolicyRequest) : String := request.bin ++ "/dawnshell-fdguard"

/-- The arguments of the script again, with the mode behind them. -/
def PolicyRequest.arguments (request : PolicyRequest) : List String :=
  [root, request.bfuRoot, request.policy.name, request.expectedArch.name,
    toString request.hostIpcCompatibility, request.storageDriver.name, "--inside-mount-ns"]

/-- What is wrong with the arguments. -/
abbrev Rejection := Failure × String

/-- The `case` of the BFU root. -/
def checkBfuRoot (bfuRoot : String) : Except Rejection Unit :=
  if ¬"/".toList <+: bfuRoot.toList then throw (⟨3, by decide⟩, "BFU root must be absolute")
  else if "/data/data/".toList <+: bfuRoot.toList ∨ "/data/user/".toList <+: bfuRoot.toList then
    throw (⟨3, by decide⟩, "BFU control files must use Device Protected Storage")
  else return

/-- The `case` of the policy. -/
def parsePolicy : String → Except Rejection Policy
  | "host" => return .host
  | "auto" => return .auto
  | "native_nft" => return .nativeNft
  | "iptables_nft" => return .iptablesNft
  | "legacy" => return .legacy
  | _ => throw (⟨3, by decide⟩,
      "Docker network policy must be host, auto, native_nft, iptables_nft, or legacy")

/-- The `case` of the architecture. -/
def parseArchitecture : String → Except Rejection Architecture
  | "armhf" => return .armhf
  | "arm64" => return .arm64
  | "amd64" => return .amd64
  | other => throw (⟨3, by decide⟩, "unsupported Debian architecture: " ++ other)

/-- The `case` of the host IPC compatibility. -/
def parseHostIpc : String → Except Rejection Bool
  | "true" => return true
  | "false" => return false
  | _ => throw (⟨3, by decide⟩, "Docker host IPC compatibility must be true or false")

/-- The `case` of the storage driver. -/
def parseStorageDriver : String → Except Rejection StorageDriver
  | "overlay2" => return .overlay2
  | "vfs" => return .vfs
  | _ => throw (⟨3, by decide⟩, "Docker storage driver must be overlay2 or vfs")

theorem usageStatus_ne_zero : 2 ≠ 0 := by decide

/-- What the script checks of its arguments. -/
def checkArguments (arguments : List String) : Except Rejection PolicyRequest := do
  match arguments with
  | requestedRoot :: bfuRoot :: policy :: expectedArch :: hostIpc :: storageDriver :: mode =>
      if mode.length > 1 then throw usage
      if requestedRoot ≠ root then throw (⟨3, by decide⟩, "only " ++ root ++ " is allowed")
      checkBfuRoot bfuRoot
      let policy ← parsePolicy policy
      let expectedArch ← parseArchitecture expectedArch
      let hostIpcCompatibility ← parseHostIpc hostIpc
      let storageDriver ← parseStorageDriver storageDriver
      return {
        bfuRoot, policy, expectedArch, hostIpcCompatibility, storageDriver
        insideMountNamespace := mode = ["--inside-mount-ns"] }
  | _ => throw usage
where
  usage : Rejection :=
    (⟨2, usageStatus_ne_zero⟩, "usage: configure-docker-network.sh ROOT BFU_ROOT POLICY DEBIAN_ARCH " ++
      "HOST_IPC_COMPATIBILITY STORAGE_DRIVER [--inside-mount-ns]")

@[simp] theorem parsePolicy_name (policy : Policy) : parsePolicy policy.name = .ok policy := by
  cases policy <;> rfl
@[simp] theorem parseArchitecture_name (architecture : Architecture) :
    parseArchitecture architecture.name = .ok architecture := by
  cases architecture <;> rfl
@[simp] theorem parseHostIpc_toString (hostIpc : Bool) : parseHostIpc (toString hostIpc) = .ok hostIpc := by
  cases hostIpc <;> rfl
@[simp] theorem parseStorageDriver_name (storageDriver : StorageDriver) :
    parseStorageDriver storageDriver.name = .ok storageDriver := by
  cases storageDriver <;> rfl

theorem checkBfuRoot_of_checkArguments {arguments : List String} {request : PolicyRequest}
    (accepted : checkArguments arguments = .ok request) : checkBfuRoot request.bfuRoot = .ok () := by
  unfold checkArguments at accepted
  split at accepted
  next requestedRoot bfuRoot policy expectedArch hostIpc storageDriver mode =>
    by_cases long : mode.length > 1
    · rw [if_pos long] at accepted
      cases accepted
    rw [if_neg long] at accepted
    by_cases other : requestedRoot ≠ root
    · rw [if_pos other] at accepted
      cases accepted
    rw [if_neg other] at accepted
    obtain ⟨_, checked, accepted⟩ := Except.ok_of_bind accepted
    obtain ⟨_, _, accepted⟩ := Except.ok_of_bind accepted
    obtain ⟨_, _, accepted⟩ := Except.ok_of_bind accepted
    obtain ⟨_, _, accepted⟩ := Except.ok_of_bind accepted
    obtain ⟨_, _, accepted⟩ := Except.ok_of_bind accepted
    cases accepted
    exact checked
  next => cases accepted

/-- The script accepts the arguments that it starts itself with. -/
theorem checkArguments_arguments {arguments : List String} {request : PolicyRequest}
    (accepted : checkArguments arguments = .ok request) :
    checkArguments request.arguments = .ok { request with insideMountNamespace := true } := by
  have checked := checkBfuRoot_of_checkArguments accepted
  simp [PolicyRequest.arguments, checkArguments, checked, Bind.bind, Except.bind, Pure.pure, Except.pure]

/-! ### Before the lock -/

/-- `exec "$TOOLBOX" unshare --mount --fork`. -/
def enterMountNamespace (request : PolicyRequest) : CommandSteps Unit := do
  if !(← test ["[", "-x", request.toolbox, "]"]) then
    fail ⟨10, by decide⟩ "source-built DawnShell toolbox is missing"
  say "Creating private AFU mount namespace for Docker policy"
  check ([request.toolbox, "unshare", "--mount", "--fork", "/system/bin/sh", "$0"] ++
    request.arguments)

/-- The tools that are looked for. -/
def tools : List String :=
  ["cat", "chroot", "date", "grep", "id", "mkdir", "mount", "mv", "readlink", "rm", "rmdir",
    "sha256sum", "stat", "sync", "tr"]

/-- From `"$TOOLBOX" --install` to the check of root. -/
def provisionTools (request : PolicyRequest) : CommandSteps Unit := do
  if !(← test [request.toolbox, "--install", "-s", request.bin]) then
    fail ⟨10, by decide⟩ "could not provision bootstrap toolbox applets"
  for tool in tools do
    if !(← test ["command", "-v", tool]) then
      fail ⟨10, by decide⟩ ("source-built bootstrap applet is missing: " ++ tool)
  if (← run ["id", "-u"]).output ≠ "0".toList then
    fail ⟨11, by decide⟩ "Docker policy did not obtain uid 0"

/-- The checks of the rootfs. -/
def checkRootfs (request : PolicyRequest) : CommandSteps Unit := do
  let marker := root ++ "/.dawnshell-rootfs"
  if !(← test ["[", "-d", root, "]"]) then
    fail ⟨13, by decide⟩ ("rootfs is missing: " ++ root)
  if !(← test ["[", "!", "-L", root, "]"]) then
    fail ⟨13, by decide⟩ "rootfs symlinks are forbidden"
  let resolved ← run ["cd", "-P", root, "&&", "pwd", "-P"]
  if resolved.status ≠ 0 then fail ⟨13, by decide⟩ "rootfs path could not be resolved"
  if resolved.output ≠ root.toList then fail ⟨13, by decide⟩ "rootfs resolves elsewhere"
  if (← run ["stat", "-c", "%u:%g", root]).output ≠ "0:0".toList then
    fail ⟨13, by decide⟩ "rootfs is not root-owned"
  if !(← test ["[", "-f", marker, "]"]) then
    fail ⟨14, by decide⟩ "DawnShell rootfs marker is missing"
  if !(← test ["grep", "-Fqx", "suite=trixie", marker]) then
    fail ⟨14, by decide⟩ "rootfs is not Debian 13 Trixie"
  if !(← test ["grep", "-Fqx", "architecture=" ++ request.expectedArch.name, marker]) then
    fail ⟨14, by decide⟩
      ("rootfs architecture does not match app runtime " ++ request.expectedArch.name)
  say "Making Android mounts recursively private"
  check ["mount", "--make-rprivate", "/"]

/-! ### Into Debian -/

/-- The mounts below the rootfs, and the shell inside it. -/
def enterDebian (request : PolicyRequest) : CommandSteps Unit := do
  for directory in ["dev", "proc", "sys", "run"] do
    if !(← test ["[", "-d", root ++ "/" ++ directory, "]"]) then
      fail ⟨18, by decide⟩ ("missing rootfs directory: /" ++ directory)
  say "Binding /dev and /sys; mounting private /proc and /run"
  check ["mount", "--rbind", "/dev", root ++ "/dev"]
  check ["mount", "--make-rslave", root ++ "/dev"]
  check ["mount", "--rbind", "/sys", root ++ "/sys"]
  check ["mount", "--make-rslave", root ++ "/sys"]
  check ["mount", "-t", "proc", "-o", "nosuid,nodev,noexec", "proc", root ++ "/proc"]
  check ["mount", "-t", "tmpfs", "-o", "nosuid,nodev,mode=0755,size=32m", "tmpfs", root ++ "/run"]
  check ["mkdir", "-p", root ++ "/run/lock"]
  say "Entering Debian to negotiate Docker network compatibility"
  let guarded ← test ["[", "-x", request.fdguard, "]"]
  check ((if guarded then [request.fdguard] else []) ++ ["chroot", root, "/bin/bash", "-s"])

/-- The first checks in Debian; whether the kernel provides the mqueue filesystem. -/
def checkDebian : CommandSteps Bool := do
  let versionCodename ← capture ["source", "/etc/os-release"]
  if versionCodename ≠ "trixie".toList then fail ⟨30, by decide⟩ "expected Debian Trixie"
  if ← test ["command", "-v", "dockerd"] then say "PROBE: dockerd is installed"
  else say "WARNING: dockerd is not installed yet; policy will apply on future installation"
  let mqueueSupported ← test ["grep", "-qw", "mqueue", "/proc/filesystems"]
  if mqueueSupported then say "PROBE: kernel provides the mqueue filesystem"
  else
    say ("WARNING: kernel has no mqueue filesystem; a container with a private IPC namespace fails " ++
      "with 'mounting \"mqueue\" ... no such device'")
    say ("WARNING: keep Docker host IPC compatibility enabled on this kernel so the wrapper skips " ++
      "that mount")
  if !(← test ["command", "-v", "sha256sum"]) then fail ⟨31, by decide⟩ "sha256sum is missing"
  check ["install", "-d", "-m", "0755", "-o", "root", "-g", "root", "/etc/docker", "/etc/dawnshell"]
  return mqueueSupported

/-! ### Managed files -/

/-- `variable="$(...)"` of a file. -/
def captured (result : Except Failure Contents) : Steps Contents :=
  match result with
  | .ok output => return output
  | .error failure => throw failure

/-- The comparison of a managed file with its recorded hash. -/
def verifyHash (managed : ManagedFile) (message : String) : Steps Unit := do
  let expected ← captured (← ask (.firstLine managed.hash))
  let actual ← captured (← ask (.sha256sum managed.file))
  if expected ≠ [] ∧ actual = expected then return
  else commands (fail ⟨32, by decide⟩ message)

/-- The check of daemon.json. -/
def checkDaemonJson : Steps Unit := do
  if ← ask (.isNonEmpty .daemonJson) then
    if !(← ask (.isRegular .managedHash)) then
      commands (fail ⟨32, by decide⟩
        "existing unmanaged /etc/docker/daemon.json was preserved; merge it manually")
    verifyHash .daemonJson
      "managed daemon.json was modified outside DawnShell; refusing to overwrite it"

/-- `verify_managed_wrapper`. -/
def verifyManagedWrapper : Steps Unit := do
  if ← ask (.fileExists .dockerWrapper) then
    let regular ← ask (.isRegular .dockerWrapper)
    let symlink ← if regular then ask (.isSymlink .dockerWrapper) else pure false
    if !regular || symlink then
      commands (fail ⟨32, by decide⟩ "existing non-regular /usr/local/bin/docker was preserved")
    if !(← ask (.isRegular .dockerWrapperHash)) then
      commands (fail ⟨32, by decide⟩ "existing unmanaged /usr/local/bin/docker was preserved")
    verifyHash .dockerWrapper
      "managed Docker wrapper was modified outside DawnShell; refusing to overwrite it"

/-- The digest of the temporary file is taken, the file is renamed over the managed one and the digest is
recorded. -/
def replaceManaged (managed : ManagedFile) : Steps Unit := do
  let newHash ← captured (← ask (.sha256sum managed.temporary))
  move managed.temporary managed.file
  writeFile managed.hash (newHash ++ ['\n'])
  setRootMode managed.hash "0600"

/-! ### Backends -/

/-- `backend`. -/
inductive Backend where
  | none
  | nativeNft
  | iptablesNft
  | legacy
deriving DecidableEq, Repr

/-- The name of a backend. -/
def Backend.name : Backend → String
  | .none => "none"
  | .nativeNft => "native-nft"
  | .iptablesNft => "iptables-nft"
  | .legacy => "legacy"

/-- `probe_iptables_check`. -/
def probeIptablesCheck (binary label : String) (rule : List String) : CommandSteps Bool := do
  let result ← run ([binary, "-w", "1"] ++ rule)
  if result.status = 0 then return true
  if "Bad rule".toList <:+: result.output ∨ "does a matching rule exist".toList <:+: result.output then
    return true
  let cleanOutput := result.output.map fun char => if char = '\r' ∨ char = '\n' then ' ' else char
  let _ ← run ["echo", "PROBE: " ++ label ++ " rejected status=" ++ toString result.status ++
    " output=" ++ String.ofList cleanOutput]
  return false

/-- `probe_iptables_backend`. -/
def probeIptablesBackend (binary : String) : CommandSteps Bool := do
  if !(← test ["[", "-x", binary, "]"]) then return false
  if !(← test [binary, "-w", "1", "-t", "nat", "-S"]) then return false
  if !(← probeIptablesCheck binary "addrtype"
      ["-t", "nat", "-C", "PREROUTING", "-m", "addrtype", "--dst-type", "LOCAL", "-j", "ACCEPT"]) then
    return false
  if !(← probeIptablesCheck binary "masquerade"
      ["-t", "nat", "-C", "POSTROUTING", "-j", "MASQUERADE"]) then
    return false
  probeIptablesCheck binary "conntrack"
    ["-t", "filter", "-C", "FORWARD", "-m", "conntrack", "--ctstate", "RELATED,ESTABLISHED", "-j",
      "ACCEPT"]

/-- `probe_native_nft`. -/
def probeNativeNft : CommandSteps Bool := do
  let probeConfig := "/run/dawnshell-docker-native-nft-probe.json"
  if !(← test ["command", "-v", "dockerd"]) then return false
  if !(← test ["command", "-v", "nft"]) then return false
  if !(← test ["dockerd", "--help", "|", "grep", "-q", "--", "--firewall-backend"]) then return false
  if !(← test ["nft", "list", "ruleset"]) then return false
  let _ ← run ["cat", ">", probeConfig]
  let valid ← test ["dockerd", "--validate", "--config-file", probeConfig]
  let _ ← run ["rm", "-f", probeConfig]
  return valid

/-- `detect_bridge_support`; none when it is unavailable. -/
def detectBridgeSupport : CommandSteps (Option Backend) := do
  if ← probeNativeNft then return some .nativeNft
  if ← probeIptablesBackend "/usr/sbin/iptables-nft" then return some .iptablesNft
  if ← probeIptablesBackend "/usr/sbin/iptables-legacy" then return some .legacy
  return none

/-- The backend of a policy, and the bridge support as the `case` of the policy leaves it. -/
def selectBackend : Policy → CommandSteps (Backend × Option Backend)
  | .host => do
      say "POLICY: safe host-network-only mode"
      say "PROBE: checking whether this kernel could run a Docker bridge"
      let bridgeSupport ← detectBridgeSupport
      match bridgeSupport with
      | none =>
          say ("PROBE: bridge unavailable; this kernel is missing Docker's required addrtype, " ++
            "masquerade, or conntrack capabilities")
      | some backend =>
          say ("PROBE: bridge would be available through " ++ backend.name ++
            " if the policy is changed")
      return (.none, bridgeSupport)
  | .auto => do
      say "PROBE: trying native Docker nftables first"
      if ← probeNativeNft then return (.nativeNft, none)
      say "PROBE: native nftables unavailable; trying iptables-nft"
      if ← probeIptablesBackend "/usr/sbin/iptables-nft" then return (.iptablesNft, none)
      say "PROBE: iptables-nft unavailable or incompatible; trying iptables-legacy"
      if ← probeIptablesBackend "/usr/sbin/iptables-legacy" then return (.legacy, none)
      say ("WARNING: no bridge firewall backend has Docker's required addrtype, masquerade, and " ++
        "conntrack capabilities")
      say "FALLBACK: using safe host-network-only mode"
      return (.none, none)
  | .nativeNft => do
      say "PROBE: forcing native Docker nftables"
      if !(← probeNativeNft) then
        fail ⟨33, by decide⟩ ("forced native nftables requires Docker 29+, dockerd config validation, " ++
          "and a working nft ruleset query")
      return (.nativeNft, none)
  | .iptablesNft => do
      say "PROBE: forcing iptables-nft"
      if !(← probeIptablesBackend "/usr/sbin/iptables-nft") then
        fail ⟨33, by decide⟩ "forced iptables-nft frontend is unavailable or incompatible"
      return (.iptablesNft, none)
  | .legacy => do
      say "PROBE: forcing iptables-legacy"
      if !(← probeIptablesBackend "/usr/sbin/iptables-legacy") then
        fail ⟨33, by decide⟩ "forced legacy frontend is unavailable or incompatible"
      return (.legacy, none)

/-- `update-alternatives` for the frontends of iptables. -/
def selectFrontends (suffix : String) : CommandSteps Unit := do
  let ip6tablesBinary := "/usr/sbin/ip6tables-" ++ suffix
  check ["update-alternatives", "--set", "iptables", "/usr/sbin/iptables-" ++ suffix]
  if ← test ["[", "-x", ip6tablesBinary, "]"] then
    check ["update-alternatives", "--set", "ip6tables", ip6tablesBinary]

/-- What the probes have found. -/
structure Resolution where
  backend : Backend
  bridgeSupport : Option Backend
deriving DecidableEq, Repr

/-- `bridge_support`. -/
def Resolution.bridgeSupportName (resolution : Resolution) : String :=
  (resolution.bridgeSupport.map Backend.name).getD "unavailable"

/-- From the `case` of the policy to `bridge_support`. -/
def resolveBackend (policy : Policy) : CommandSteps Resolution := do
  let (backend, bridgeSupport) ← selectBackend policy
  match backend with
  | .iptablesNft => selectFrontends "nft"
  | .legacy => selectFrontends "legacy"
  | _ => pure ()
  if backend ≠ .none then
    say "WARNING: bridge mode can mutate Android-global firewall, NAT, routes, and forwarding"
  return ⟨backend, if policy = .host then bridgeSupport else some backend⟩

/-! ### daemon.json -/

/-- `storage_entry`. -/
def storageEntry (storageDriver : StorageDriver) : String :=
  match storageDriver with
  | .overlay2 => "  \"storage-driver\": \"overlay2\","
  | .vfs => "  \"storage-driver\": \"vfs\","

/-- The generated daemon.json. -/
def configuration (backend : Backend) (storageDriver : StorageDriver) : Contents :=
  lines (["\x7b", storageEntry storageDriver,
    "  \"features\": \x7b\"containerd-snapshotter\": false\x7d,",
    "  \"exec-opts\": [\"native.cgroupdriver=cgroupfs\"],"] ++
    match backend with
    | .none =>
        ["  \"bridge\": \"none\",", "  \"iptables\": false,", "  \"ip6tables\": false,",
          "  \"ip-forward\": false,", "  \"ip-masq\": false,", "  \"userland-proxy\": false", "\x7d"]
    | .nativeNft => "  \"firewall-backend\": \"nftables\"," :: bridged
    | .iptablesNft | .legacy => bridged)
where
  bridged : List String :=
    ["  \"iptables\": true,", "  \"ip6tables\": false,", "  \"ip-forward\": true,",
      "  \"ip-masq\": true,", "  \"userland-proxy\": true", "\x7d"]

/-- Whether dockerd can validate a file, and then whether it accepts this one. -/
def validate (file : PolicyFile) : CommandSteps Bool := do
  if !(← test ["command", "-v", "dockerd"]) then return true
  if !(← test ["dockerd", "--help", "|", "grep", "-q", "--", "--validate"]) then return true
  test ["dockerd", "--validate", "--config-file", file.path]

/-- What is said about the image store and the storage driver. -/
def announceStorage (storageDriver : StorageDriver) : CommandSteps Unit := do
  say "POLICY: disabling Docker's containerd snapshotter for Android /data compatibility"
  say ("WARNING: switching image stores preserves existing data but images and containers from the " ++
    "other store are hidden until it is re-enabled")
  match storageDriver with
  | .vfs =>
      say "POLICY: using the vfs storage driver for maximum kernel compatibility"
      say "WARNING: vfs copies every image layer, so pulls are slower and use far more disk"
      say ("WARNING: images and containers built under overlay2 remain on disk but stay hidden until " ++
        "overlay2 is selected again")
  | .overlay2 => say "POLICY: using the overlay2 storage driver"

/-- daemon.json is generated, validated and published. -/
def publishDaemonJson (backend : Backend) (storageDriver : StorageDriver) : Steps Unit := do
  commands (announceStorage storageDriver)
  writeFile .temporary (configuration backend storageDriver)
  setRootMode .temporary "0644"
  if !(← commands (validate .temporary)) then
    succeed (← ask (.remove .temporary))
    commands (fail ⟨34, by decide⟩ "dockerd rejected the generated managed configuration")
  replaceManaged .daemonJson

/-! ### The wrapper and the record -/

/-- `host_network`. -/
def Backend.hostNetwork (backend : Backend) : Bool := backend = .none

/-- What the wrapper reads. -/
def wrapperConf (hostIpcCompatibility hostNetwork : Bool) : Contents :=
  lines ["dawnshell_host_ipc=" ++ toString hostIpcCompatibility,
    "dawnshell_host_network=" ++ toString hostNetwork]

/-- `configure_host_ipc_wrapper`. -/
def configureHostIpcWrapper (wrapper : Contents) (hostIpcCompatibility : Bool) (backend : Backend) :
    Steps Unit := do
  verifyManagedWrapper
  commands (check ["install", "-d", "-m", "0755", "-o", "root", "-g", "root", "/usr/local/bin",
    "/etc/dawnshell"])
  writeFile .dockerWrapperConf (wrapperConf hostIpcCompatibility backend.hostNetwork)
  setRootMode .dockerWrapperConf "0644"
  writeFile .wrapperTemporary wrapper
  setRootMode .wrapperTemporary "0755"
  replaceManaged .dockerWrapper
  commands do
    if hostIpcCompatibility then
      say ("POLICY: Docker run/create wrapper adds --ipc=host and --group-add 3003 " ++
        "(Android AID_INET)")
      say "WARNING: containers share Android/Debian host IPC; use /usr/bin/docker to bypass"
    else
      say "POLICY: Docker run/create wrapper adds --group-add 3003 (Android AID_INET) only"
      say ("WARNING: without host IPC a container that creates its own IPC namespace can panic or " ++
        "fail to start on affected kernels")
    if backend.hostNetwork then
      say ("POLICY: Docker run/create wrapper adds --network host because the bridge driver is " ++
        "disabled")
      say ("WARNING: host networking discards -p published ports; a container listens on the " ++
        "Android port directly")

/-- The record of the policy. -/
def recordContents (request : PolicyRequest) (resolution : Resolution) (mqueueSupported : Bool)
    (epoch : Contents) : Contents :=
  lines ["format=2", "requested_policy=" ++ request.policy.name,
    "resolved_backend=" ++ resolution.backend.name, "network_namespace=android-shared",
    "cgroup_driver=cgroupfs", "image_store=classic", "containerd_snapshotter=false",
    "host_ipc_compatibility=" ++ toString request.hostIpcCompatibility,
    "docker_cli_wrapper=/usr/local/bin/docker", "mqueue_filesystem=" ++ toString mqueueSupported,
    "bridge_support=" ++ resolution.bridgeSupportName,
    "bridge_mutates_android_global_netfilter=" ++ toString (decide (resolution.backend ≠ .none))] ++
  "configured_epoch=".toList ++ epoch ++ ['\n']

/-- The record is written and renamed over the old one. -/
def writePolicyRecord (request : PolicyRequest) (resolution : Resolution) (mqueueSupported : Bool) :
    Steps Unit := do
  succeed (← ask (.openOutput .policyRecordNew))
  let epoch ← ask .epoch
  write .policyRecordNew (recordContents request resolution mqueueSupported epoch)
  setRootMode .policyRecordNew "0644"
  move .policyRecordNew .policyRecord
  commands (check ["sync"])

/-- The script that bash reads in Debian. -/
def debianPolicy (wrapper : Contents) (request : PolicyRequest) : Steps Unit := do
  let mqueueSupported ← commands checkDebian
  checkDaemonJson
  let resolution ← commands (resolveBackend request.policy)
  publishDaemonJson resolution.backend request.storageDriver
  configureHostIpcWrapper wrapper request.hostIpcCompatibility resolution.backend
  writePolicyRecord request resolution mqueueSupported
  commands do
    say ("DOCKER_POLICY_SUCCEEDED: requested=" ++ request.policy.name ++ " resolved_backend=" ++
      resolution.backend.name ++ " bridge_support=" ++ resolution.bridgeSupportName ++
      " cgroup_driver=cgroupfs image_store=classic containerd_snapshotter=false" ++
      " host_ipc_compatibility=" ++ toString request.hostIpcCompatibility ++
      " storage_driver=" ++ request.storageDriver.name ++
      " mqueue_filesystem=" ++ toString mqueueSupported)
    if resolution.backend.hostNetwork then
      say "USAGE: start containers with --network host"

/-! ### The lock -/

/-- `cleanup`, with the status that it exits with. -/
def cleanup (lockHeld : Bool) (result : Option Failure) : Steps Unit := do
  if lockHeld then
    let _ ← ask (.remove .owner)
    let _ ← ask .removeLock
  match result with
  | none => return
  | some failure =>
      let _ ← commands (run ["echo", "DOCKER_POLICY_FAILED: exit=" ++ toString failure.status])
      throw failure

/-- From `mkdir "$LOCK_DIR"` to `LOCK_HELD=true`.  A signal that arrives in between is handled at the
assignment. -/
def takeLock : Steps Unit := do
  if (← ask .makeLock) ≠ 0 then
    commands (fail ⟨17, by decide⟩ "another Docker policy operation is active")
  let _ ← commands (run ["LOCK_HELD=true"])

/-- What is done under the lock. -/
def holdLock (wrapper : Contents) (pid : Nat) (request : PolicyRequest) : Steps Unit := do
  writeFile .owner ((toString pid).toList ++ ['\n'])
  commands (enterDebian request)
  debianPolicy wrapper request
  commands do
    check ["sync"]
    say ("DOCKER_POLICY_SUCCEEDED: requested=" ++ request.policy.name)

/-- The script in its mount namespace. -/
def insideMountNamespace (wrapper : Contents) (pid : Nat) (request : PolicyRequest) : Steps Unit := do
  commands do
    provisionTools request
    checkRootfs request
  tryCatch takeLock fun failure => cleanup false (some failure)
  tryCatch (holdLock wrapper pid request) fun failure => cleanup true (some failure)
  cleanup true none

/-- A call of the script. -/
structure Invocation where
  arguments : List String
  /-- The wrapper that this version of the script installs. -/
  wrapper : Contents
  /-- `$$` in the mount namespace. -/
  pid : Nat
deriving DecidableEq, Repr

/-- The script. -/
def configureDockerNetwork (invocation : Invocation) : Steps Unit := do
  match checkArguments invocation.arguments with
  | .error (code, message) => commands (fail code message)
  | .ok request =>
      if !request.insideMountNamespace then commands (enterMountNamespace request)
      insideMountNamespace invocation.wrapper invocation.pid request

end DawnShell.Docker
