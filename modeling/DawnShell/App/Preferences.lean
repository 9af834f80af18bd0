/-
Module: DawnShell.App.Preferences
Layer: App
Purpose: The settings of the app: what `BfuPreferences.save` accepts and stores, and what the getters
  read back.  An argument may be null or any string; what is stored has been validated or normalized.
Trusted boundary: faithful model of BfuPreferences.java:15-52 and 66-201; a commit that is not
  written to disk leaves the old preferences or the new ones
Main exports: StoredPreferences, SaveArguments, normalizeUsbExclusiveDeviceIds, save, Reachable,
  StoredPreferences.cgroupPolicySetting, StoredPreferences.pidNamespaceFallbackSetting,
  StoredPreferences.usbPassthroughModeSetting, StoredPreferences.usbExclusiveDeviceIdsSetting
-/
import DawnShell.Lib.JavaStrings

namespace DawnShell.App

open Java

/-! ### Constants -/

def cgroupAuto : JavaString := literal "auto".toList
def cgroupV2 : JavaString := literal "v2".toList
def cgroupV1 : JavaString := literal "v1".toList

def dockerHostOnly : JavaString := literal "host".toList
def dockerAutoBridge : JavaString := literal "auto".toList
def dockerNativeNftBridge : JavaString := literal "native_nft".toList
def dockerIptablesNftBridge : JavaString := literal "iptables_nft".toList
def dockerLegacyBridge : JavaString := literal "legacy".toList

def dockerStorageOverlay2 : JavaString := literal "overlay2".toList
def dockerStorageVfs : JavaString := literal "vfs".toList

def usbPassthroughOff : JavaString := literal "off".toList
def usbPassthroughDirect : JavaString := literal "direct".toList
def usbPassthroughExclusive : JavaString := literal "exclusive".toList

/-! ### Validation -/

/-- `validatedCgroupPolicy`. -/
def validatedCgroupPolicy (value : Option JavaString) : JavaString :=
  match value with
  | some value => if value = cgroupV2 ∨ value = cgroupV1 then value else cgroupAuto
  | none => cgroupAuto

/-- `validatedDockerNetworkPolicy`. -/
def validatedDockerNetworkPolicy (value : Option JavaString) : JavaString :=
  match value with
  | some value =>
      if value = dockerAutoBridge ∨ value = dockerNativeNftBridge ∨ value = dockerIptablesNftBridge ∨
        value = dockerLegacyBridge then value
      else dockerHostOnly
  | none => dockerHostOnly

/-- `validatedDockerStorageDriver`. -/
def validatedDockerStorageDriver (value : Option JavaString) : JavaString :=
  if value = some dockerStorageVfs then dockerStorageVfs else dockerStorageOverlay2

/-- `validatedUsbPassthroughMode`. -/
def validatedUsbPassthroughMode (value : Option JavaString) : JavaString :=
  match value with
  | some value =>
      if value = usbPassthroughDirect ∨ value = usbPassthroughExclusive then value
      else usbPassthroughOff
  | none => usbPassthroughOff

/-- The `IllegalArgumentException`s. -/
inductive Rejection where
  | listTooLong
  | invalidEntry (entry : JavaString)
  | tooManyEntries
  | exclusiveWithoutDevice
deriving DecidableEq, Repr

def Rejection.message : Rejection → JavaString
  | .listTooLong => literal "USB VID:PID list is too long".toList
  | .invalidEntry entry => literal "Invalid USB VID:PID: ".toList ++ entry
  | .tooManyEntries => literal "Too many USB VID:PID entries".toList
  | .exclusiveWithoutDevice =>
      literal "Exclusive USB passthrough requires at least one VID:PID".toList

/-- The class `[0-9a-f]`, without regard to case. -/
def isHexUnit (unit : UInt16) : Bool :=
  (0x30 ≤ unit && unit ≤ 0x39) || (0x61 ≤ unit && unit ≤ 0x66) || (0x41 ≤ unit && unit ≤ 0x46)

/-- `(?i)[0-9a-f]{4}:[0-9a-f]{4}`. -/
def matchesVidPid : JavaString → Bool
  | [v1, v2, v3, v4, colon, p1, p2, p3, p4] =>
      [v1, v2, v3, v4].all isHexUnit && colon == 0x3a && [p1, p2, p3, p4].all isHexUnit
  | _ => false

/-- The separators of `[,\s]+`. -/
def separatesEntries (unit : UInt16) : Bool := unit == 0x2c || isSpace unit

/-- `LinkedHashSet.add`: an element that is there keeps its place. -/
def addDistinct (normalized : List JavaString) (entry : JavaString) : List JavaString :=
  if normalized.contains entry then normalized else normalized ++ [entry]

/-- The loop over the entries, with what has been normalized so far. -/
def normalizeEntries : List JavaString → List JavaString → Except Rejection (List JavaString)
  | normalized, [] => .ok normalized
  | normalized, entry :: entries =>
      if matchesVidPid entry = false then .error (.invalidEntry entry)
      else
        let normalized := addDistinct normalized (toLowerCase entry)
        if 32 < normalized.length then .error .tooManyEntries
        else normalizeEntries normalized entries

/-- `normalizeUsbExclusiveDeviceIds`. -/
def normalizeUsbExclusiveDeviceIds (value : Option JavaString) : Except Rejection JavaString :=
  match value with
  | none => .ok []
  | some value =>
      if trim value = [] then .ok []
      else if 512 < value.length then .error .listTooLong
      else (normalizeEntries [] (split separatesEntries (trim value))).map (join 0x2c)

/-! ### The preferences -/

/-- What is stored under each key. -/
structure StoredPreferences where
  enabled : Option Bool := none
  allowCeReadableBfu : Option Bool := none
  cgroupPolicy : Option JavaString := none
  pidNamespaceFallback : Option Bool := none
  dockerNetworkPolicy : Option JavaString := none
  dockerHostIpcCompatibility : Option Bool := none
  dockerStorageDriver : Option JavaString := none
  shareHostUsbLegacy : Option Bool := none
  usbPassthroughMode : Option JavaString := none
  usbExclusiveDeviceIds : Option JavaString := none
  hardwareCodecBridge : Option Bool := none
deriving DecidableEq, Repr

/-- The arguments of `save`. -/
structure SaveArguments where
  enabled : Bool
  allowCeReadableBfu : Bool
  cgroupPolicy : Option JavaString
  pidNamespaceFallback : Bool
  dockerNetworkPolicy : Option JavaString
  dockerHostIpcCompatibility : Bool
  dockerStorageDriver : Option JavaString
  usbPassthroughMode : Option JavaString
  usbExclusiveDeviceIds : Option JavaString
  hardwareCodecBridge : Bool

/-- `save`: the preferences it commits. -/
def save (arguments : SaveArguments) : Except Rejection StoredPreferences := do
  let validatedUsbMode := validatedUsbPassthroughMode arguments.usbPassthroughMode
  let normalizedUsbIds ← normalizeUsbExclusiveDeviceIds arguments.usbExclusiveDeviceIds
  if validatedUsbMode = usbPassthroughExclusive ∧ normalizedUsbIds = [] then
    throw .exclusiveWithoutDevice
  return {
    enabled := some arguments.enabled
    allowCeReadableBfu := some arguments.allowCeReadableBfu
    cgroupPolicy := some (validatedCgroupPolicy arguments.cgroupPolicy)
    pidNamespaceFallback := some arguments.pidNamespaceFallback
    dockerNetworkPolicy := some (validatedDockerNetworkPolicy arguments.dockerNetworkPolicy)
    dockerHostIpcCompatibility := some arguments.dockerHostIpcCompatibility
    dockerStorageDriver := some (validatedDockerStorageDriver arguments.dockerStorageDriver)
    shareHostUsbLegacy := none
    usbPassthroughMode := some validatedUsbMode
    usbExclusiveDeviceIds := some normalizedUsbIds
    hardwareCodecBridge := some arguments.hardwareCodecBridge }

/-- The preferences that calls of `save` lead to.  At first there is nothing but, perhaps, the switch of
an older version of the app. -/
inductive Reachable : StoredPreferences → Prop where
  | fresh (shareHostUsbLegacy : Option Bool) : Reachable { shareHostUsbLegacy }
  | saved {preferences next : StoredPreferences} (before : Reachable preferences)
      (arguments : SaveArguments) (accepted : save arguments = .ok next) : Reachable next

namespace StoredPreferences

/-- `cgroupPolicy`. -/
def cgroupPolicySetting (preferences : StoredPreferences) : JavaString :=
  validatedCgroupPolicy (some (preferences.cgroupPolicy.getD cgroupAuto))

/-- `pidNamespaceFallback`. -/
def pidNamespaceFallbackSetting (preferences : StoredPreferences) : Bool :=
  preferences.pidNamespaceFallback.getD false

/-- `usbPassthroughMode`. -/
def usbPassthroughModeSetting (preferences : StoredPreferences) : JavaString :=
  if preferences.usbPassthroughMode = none ∧ preferences.shareHostUsbLegacy.getD false = true
  then usbPassthroughDirect
  else validatedUsbPassthroughMode preferences.usbPassthroughMode

/-- `usbExclusiveDeviceIds`. -/
def usbExclusiveDeviceIdsSetting (preferences : StoredPreferences) : JavaString :=
  match normalizeUsbExclusiveDeviceIds (some (preferences.usbExclusiveDeviceIds.getD [])) with
  | .ok ids => ids
  | .error _ => []

end StoredPreferences

end DawnShell.App
