/-
Module: DawnShell.Launcher.Arguments
Layer: Launcher
Purpose: The command line of the launcher: which command it names, and how the settings of a start and of
  a restart are read from positional arguments, the third of which may be left out.
Trusted boundary: faithful model of bfu_namespace_probe.c:177-189, 199-306 and 4867-4985; `argc` is the
  number of arguments and an argument behind the last is a null pointer
Main exports: parseHostUsbPolicy, parseUsbDeviceFilter, parseUsbDeviceFilterAt, parseLaunchPolicy,
  isExplicitLaunchPolicy, parseCgroupPolicy, Invocation, launcherMain
-/
import DawnShell.Launcher.Cgroup
import DawnShell.Lib.Checked

namespace DawnShell.Launcher

/-- `host_usb_policy_name`. -/
def hostUsbPolicyName : HostUsbPolicy → Text
  | .direct => "direct".toList
  | .exclusive => "exclusive".toList
  | .off => "off".toList

/-- `parse_host_usb_policy`; the value may be a null pointer. -/
def parseHostUsbPolicy (value : Option Text) : Option HostUsbPolicy :=
  match value with
  | none => some .off
  | some value =>
      if value = "off".toList ∨ value = "blocked".toList then some .off
      else if value = "direct".toList ∨ value = "shared".toList then some .direct
      else if value = "exclusive".toList then some .exclusive
      else none

/-- `MAX_USB_DEVICE_FILTERS`. -/
def maxUsbDeviceFilters : Nat := 32

/-- The loop of `parse_usb_device_filter` over what is left of the text behind the offset.  Every
iteration goes past nine characters at least. -/
def parseFilterEntries : Nat → Text → UsbDeviceFilter → Option UsbDeviceFilter
  | 0, _, filter => some filter
  | _ + 1, [], filter => some filter
  | fuel + 1, rest, filter =>
      if maxUsbDeviceFilters ≤ filter.length ∨ rest.length < 9 ∨ rest[4]? ≠ some ':' then none
      else if 9 < rest.length ∧ rest[9]? ≠ some ',' then none
      else
        match parseUsbHexWord rest, parseUsbHexWord (rest.drop 5) with
        | some vendor, some product =>
            let candidate : UsbDeviceId := ⟨vendor, product⟩
            let filter := if filter.contains candidate then filter else filter ++ [candidate]
            if rest.length = 9 then some filter
            else if rest.length = 10 then none
            else parseFilterEntries fuel (rest.drop 10) filter
        | _, _ => none

/-- `parse_usb_device_filter`; the value may be a null pointer. -/
def parseUsbDeviceFilter (value : Option Text) : Option UsbDeviceFilter :=
  match value with
  | none => some []
  | some value =>
      if value = [] ∨ value = ['-'] then some []
      else if 512 < value.length then none
      else parseFilterEntries value.length value []

/-! ### The same parser, index by index -/

/-- A value, `-1`, or an index outside the string or the table. -/
abbrev Indexed (α : Type) := Except (Stop Unit) α

/-- `value[index]`: the string ends with its terminator. -/
def stringAt (value : Text) (index : Nat) : Indexed Char :=
  if index ≤ value.length then pure (value.getD index '\x00') else throw (.fault .outOfBounds)

/-- The loop of `parse_usb_hex_word` with `left` digits to read. -/
def hexDigitsAt (value : Text) : (left index result : Nat) → Indexed Nat
  | 0, _, result => pure result
  | left + 1, index, result => do
      match hexDigitValue (← stringAt value index) with
      | none => throw (.failed ())
      | some digit => hexDigitsAt value left (index + 1) (result * 16 + digit)

/-- `parse_usb_hex_word` at an offset of the string. -/
def parseUsbHexWordAt (value : Text) (offset : Nat) : Indexed Nat := hexDigitsAt value 4 offset 0

/-- The search for a duplicate and the store into the table. -/
def storeUsbDevice (filter : UsbDeviceFilter) (candidate : UsbDeviceId) : Indexed UsbDeviceFilter :=
  if maxUsbDeviceFilters < filter.length then throw (.fault .outOfBounds)
  else if filter.contains candidate then pure filter
  else if filter.length < maxUsbDeviceFilters then pure (filter ++ [candidate])
  else throw (.fault .outOfBounds)

/-- The loop of `parse_usb_device_filter`. -/
def parseFilterEntriesAt (value : Text) : (fuel offset : Nat) → UsbDeviceFilter → Indexed UsbDeviceFilter
  | 0, _, filter => pure filter
  | fuel + 1, offset, filter =>
      if offset < value.length then
        if maxUsbDeviceFilters ≤ filter.length ∨ value.length - offset < 9 then throw (.failed ())
        else do
          if (← stringAt value (offset + 4)) ≠ ':' then throw (.failed ())
          else do
            let behind ← if 9 < value.length - offset then stringAt value (offset + 9) else pure ','
            if behind ≠ ',' then throw (.failed ())
            else do
              let vendor ← parseUsbHexWordAt value offset
              let product ← parseUsbHexWordAt value (offset + 5)
              let filter ← storeUsbDevice filter ⟨vendor, product⟩
              if offset + 9 = value.length then pure filter
              else if offset + 10 = value.length then throw (.failed ())
              else parseFilterEntriesAt value fuel (offset + 10) filter
      else pure filter

/-- `parse_usb_device_filter` with the indices that it uses. -/
def parseUsbDeviceFilterAt (value : Option Text) : Indexed UsbDeviceFilter :=
  match value with
  | none => pure []
  | some value =>
      if value = [] ∨ value = ['-'] then pure []
      else if 512 < value.length then throw (.failed ())
      else parseFilterEntriesAt value value.length 0 []

/-- `parse_launch_policy`: whether a fallback is allowed. -/
def parseLaunchPolicy (value : Option Text) : Option Bool :=
  match value with
  | none => some false
  | some value =>
      if value = "strict".toList ∨ value = "off".toList then some false
      else if value = "fallback".toList ∨ value = "compat".toList ∨ value = "allow".toList
      then some true
      else none

/-- `is_explicit_launch_policy`. -/
def isExplicitLaunchPolicy (value : Option Text) : Bool :=
  match value with
  | none => false
  | some value => ["strict", "fallback", "compat", "allow"].any fun name => name.toList == value

/-- `parse_cgroup_policy`. -/
def parseCgroupPolicy (value : Option Text) : Option CgroupPolicy :=
  match value with
  | none => some .auto
  | some value =>
      if value = "auto".toList then some .auto
      else if value = "v2".toList then some .forceV2
      else if value = "v1".toList then some .forceV1
      else none

/-- The arguments of `run_start` and of `run_restart`. -/
structure LaunchArguments where
  root : Text
  controlDir : Text
  logPath : Text
  cgroupPolicy : CgroupPolicy
  allowFallback : Bool
  hostUsbPolicy : HostUsbPolicy
  usbDeviceFilter : UsbDeviceFilter
deriving DecidableEq, Repr

/-- What `main` calls. -/
inductive Invocation where
  | probe (root : Text)
  | probeCompat (root : Text)
  | start (arguments : LaunchArguments)
  | status (root controlDir : Text)
  | health (root controlDir : Text)
  | stop (root controlDir : Text)
  | forceStop (root controlDir : Text)
  | restart (arguments : LaunchArguments)
  | shutdownTest (root controlDir action : Text)
  | codecLongRun (root controlDir action : Text)
  | usage
deriving DecidableEq, Repr

/-- An argument that must parse, or `main` returns 2. -/
def expectArgument {α : Type} (parsed : Option α) (stage expected : String) : Except Failure α :=
  match parsed with
  | some value => .ok value
  | none => .error (failMessage stage expected 2)

/-- The branch of `main` for a start, and the same for a restart. -/
def parseLaunchArguments (root controlDir logPath : Text) (options : List Text) :
    Except Failure LaunchArguments := do
  let cgroupPolicy ← expectArgument (parseCgroupPolicy (some (options[0]?.getD "auto".toList)))
    "cgroup_policy" "expected_auto_v2_or_v1"
  let hasLaunchArgument := isExplicitLaunchPolicy options[1]?
  let launchArgument := if hasLaunchArgument then options[1]? else some "strict".toList
  let usbArgument := if hasLaunchArgument then options[2]?.getD "off".toList
    else options[1]?.getD "off".toList
  let filterArgument := if hasLaunchArgument then options[3]?.getD "-".toList
    else options[2]?.getD "-".toList
  let allowFallback ← expectArgument (parseLaunchPolicy launchArgument)
    "launch_policy" "expected_strict_or_fallback"
  let hostUsbPolicy ← expectArgument (parseHostUsbPolicy (some usbArgument))
    "host_usb_policy" "expected_off_direct_or_exclusive"
  let usbDeviceFilter ← expectArgument (parseUsbDeviceFilter (some filterArgument))
    "host_usb_filter" "expected_comma_separated_VID:PID_values"
  if hostUsbPolicy = .exclusive ∧ usbDeviceFilter.length = 0 then
    throw (failMessage "host_usb_filter" "exclusive_mode_requires_at_least_one_VID:PID" 2)
  return { root, controlDir, logPath, cgroupPolicy, allowFallback, hostUsbPolicy, usbDeviceFilter }

/-- `main`: what it calls, or the failure it returns. -/
def launcherMain (argv : List Text) : Except Failure Invocation :=
  match argv with
  | [_, command, root] =>
      if command = "probe".toList then .ok (.probe root)
      else if command = "probe-compat".toList then .ok (.probeCompat root)
      else .ok .usage
  | [_, command, root, controlDir] =>
      if command = "status".toList then .ok (.status root controlDir)
      else if command = "health".toList then .ok (.health root controlDir)
      else if command = "stop".toList then .ok (.stop root controlDir)
      else if command = "force-stop".toList then .ok (.forceStop root controlDir)
      else .ok .usage
  | _ :: command :: root :: controlDir :: fourth :: options =>
      if options.length ≤ 4 ∧ command = "start".toList then
        (parseLaunchArguments root controlDir fourth options).map .start
      else if options.length ≤ 4 ∧ command = "restart".toList then
        (parseLaunchArguments root controlDir fourth options).map .restart
      else if options.length = 0 ∧ command = "shutdown-test".toList then
        .ok (.shutdownTest root controlDir fourth)
      else if options.length = 0 ∧ command = "codec-long-run".toList then
        .ok (.codecLongRun root controlDir fourth)
      else .ok .usage
  | _ => .ok .usage

end DawnShell.Launcher
