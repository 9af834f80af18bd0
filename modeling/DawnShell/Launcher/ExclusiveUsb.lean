/-
Module: DawnShell.Launcher.ExclusiveUsb
Layer: Launcher
Purpose: The exclusive USB policy of a supervisor: the scan of the interfaces of the devices it is to
  take from Android, the table of the interfaces it has unbound or failed to unbind, and the restoration
  of their drivers.  The scan is a program over sysfs and the clock.
Trusted boundary: faithful model of bfu_namespace_probe.c:115-143, 191-207, 1965-2167, 2169-2254 and
  2256-2303.  A directory is given as the names that `readdir` will yield; the open and the write of a
  control file are one call.  Names are shorter than 128 characters, so that no path reaches `PATH_MAX`.
  The log lines are left out.
Main exports: UsbCall, UsbInterfaceRecord, ExclusiveUsbState, pruneDisconnectedUsbInterfaces,
  getOrCreateUsbInterfaceRecord, reconcileExclusiveUsb, restoreExclusiveUsb
-/
import DawnShell.Lib.Interaction
import Mathlib.Data.List.Basic

namespace DawnShell.Launcher

/-- A text of C without its terminator. -/
abbrev Text := List Char

abbrev Errno := Nat

def enoent : Errno := 2
def einval : Errno := 22

/-- `HostUsbPolicy`. -/
inductive HostUsbPolicy where
  | off
  | direct
  | exclusive
deriving DecidableEq, Repr

/-! ### sysfs -/

inductive UsbIdAttribute where
  | idVendor
  | idProduct
deriving DecidableEq, Repr

inductive UsbControl where
  | bind
  | unbind
deriving DecidableEq, Repr

/-- What the policy asks of sysfs and of the clock. -/
inductive UsbCall where
  /-- `lstat` on the directory of an interface. -/
  | lstatInterface (name : Text)
  /-- `opendir` on the directory of all devices, and what `readdir` yields. -/
  | listInterfaces
  | readDeviceId (device : Text) (file : UsbIdAttribute)
  /-- `readlink` on the driver of an interface. -/
  | readDriverLink (name : Text)
  | monotonicMillis
  | writeControl (driver : Text) (control : UsbControl) (name : Text)
deriving DecidableEq, Repr

/-- The answers; an error number is a failure. -/
@[reducible] def UsbCall.Answer : UsbCall → Type
  | .lstatInterface _ => Option Errno
  | .listInterfaces => Except Errno (List Text)
  | .readDeviceId .. => Option Text
  | .readDriverLink _ => Option Text
  | .monotonicMillis => Int
  | .writeControl .. => Option Errno

abbrev UsbProgram := Interaction UsbCall UsbCall.Answer
abbrev UsbExchange := Interaction.Exchange UsbCall UsbCall.Answer

/-- One call of the policy. -/
abbrev sysfs (request : UsbCall) : UsbProgram request.Answer := Interaction.call request

/-! ### Names and identifiers -/

/-- `MAX_USB_SYSFS_NAME`. -/
def maxUsbSysfsName : Nat := 128

/-- `MAX_USB_INTERFACE_RECORDS`. -/
def maxUsbInterfaceRecords : Nat := 64

/-- `kExclusiveUsbRetryIntervalMs`. -/
def exclusiveUsbRetryIntervalMs : Int := 30000

def isSafeUsbSysfsCharacter (character : Char) : Bool :=
  ('a' ≤ character && character ≤ 'z') || ('A' ≤ character && character ≤ 'Z') ||
    ('0' ≤ character && character ≤ '9') || character == '-' || character == '_' ||
    character == '.' || character == ':'

/-- `is_safe_usb_sysfs_name`. -/
def isSafeUsbSysfsName (value : Text) : Bool :=
  value != [] && decide (value.length < maxUsbSysfsName) && value.all isSafeUsbSysfsCharacter

/-- `hex_digit_value`. -/
def hexDigitValue (value : Char) : Option Nat :=
  if '0' ≤ value ∧ value ≤ '9' then some (value.toNat - '0'.toNat)
  else if 'a' ≤ value ∧ value ≤ 'f' then some (value.toNat - 'a'.toNat + 10)
  else if 'A' ≤ value ∧ value ≤ 'F' then some (value.toNat - 'A'.toNat + 10)
  else none

/-- `parse_usb_hex_word`. -/
def parseUsbHexWord : Text → Option Nat
  | first :: second :: third :: fourth :: _ => do
      let first ← hexDigitValue first
      let second ← hexDigitValue second
      let third ← hexDigitValue third
      let fourth ← hexDigitValue fourth
      return ((first * 16 + second) * 16 + third) * 16 + fourth
  | _ => none

/-- `read_usb_sysfs_hex` on what could be read. -/
def usbSysfsHex (contents : Text) : Option Nat :=
  if (contents.drop 4).all fun character => ['\n', '\r', ' ', '\t'].contains character
  then parseUsbHexWord contents else none

/-- `UsbDeviceId`. -/
structure UsbDeviceId where
  vendor : Nat
  product : Nat
deriving DecidableEq, Repr

/-- The entries of a `UsbDeviceFilter`. -/
abbrev UsbDeviceFilter := List UsbDeviceId

/-- `usb_filter_matches`. -/
def usbFilterMatches (filter : UsbDeviceFilter) (id : UsbDeviceId) : Bool := filter.contains id

/-- `read_usb_device_id`. -/
def readUsbDeviceId (device : Text) : UsbProgram (Option UsbDeviceId) := do
  if isSafeUsbSysfsName device = false then return none
  let vendor ← sysfs (.readDeviceId device .idVendor)
  match vendor.bind usbSysfsHex with
  | none => return none
  | some vendor =>
      let product ← sysfs (.readDeviceId device .idProduct)
      match product.bind usbSysfsHex with
      | none => return none
      | some product => return some ⟨vendor, product⟩

/-- What follows the last slash. -/
def basename (target : Text) : Text := (target.reverse.takeWhile (· != '/')).reverse

/-- The name of a driver, from the link to it. -/
def driverOfLink (link : Option Text) : Option Text :=
  (link.map basename).filter isSafeUsbSysfsName

/-- `read_usb_interface_driver`. -/
def readUsbInterfaceDriver (name : Text) : UsbProgram (Option Text) := do
  if isSafeUsbSysfsName name = false then return none
  let link ← sysfs (.readDriverLink name)
  return driverOfLink link

/-- `write_usb_driver_control`. -/
def writeUsbDriverControl (driver : Text) (control : UsbControl) (name : Text) :
    UsbProgram (Option Errno) := do
  if isSafeUsbSysfsName driver = false ∨ isSafeUsbSysfsName name = false then return some einval
  sysfs (.writeControl driver control name)

/-! ### The table -/

/-- `UsbInterfaceRecord`. -/
structure UsbInterfaceRecord where
  interfaceName : Text
  driverName : Text := []
  detached : Bool := false
  lastErrno : Errno := 0
  retryAfterMs : Int := 0
deriving DecidableEq, Repr

/-- `ExclusiveUsbState`. -/
structure ExclusiveUsbState where
  records : List UsbInterfaceRecord := []
  lastScanErrno : Errno := 0
deriving DecidableEq, Repr

/-- `find_usb_interface_record`. -/
def findUsbInterfaceRecord (records : List UsbInterfaceRecord) (name : Text) : Option Nat :=
  records.findIdx? fun record => record.interfaceName == name

/-- `remove_usb_interface_record`: the records behind it move down. -/
def removeUsbInterfaceRecord (records : List UsbInterfaceRecord) (index : Nat) :
    List UsbInterfaceRecord :=
  records.eraseIdx index

/-- The loop of `prune_disconnected_usb_interfaces`.  Every iteration either drops the record at the
index or goes past it, so that `remaining` is `count - index`. -/
def pruneFrom : Nat → List UsbInterfaceRecord → Nat → UsbProgram (List UsbInterfaceRecord)
  | 0, records, _ => return records
  | remaining + 1, records, index =>
      match records[index]? with
      | none => return records
      | some record => do
          let failure ← sysfs (.lstatInterface record.interfaceName)
          if failure = some enoent
          then pruneFrom remaining (removeUsbInterfaceRecord records index) index
          else pruneFrom remaining records (index + 1)

/-- `prune_disconnected_usb_interfaces`. -/
def pruneDisconnectedUsbInterfaces (records : List UsbInterfaceRecord) :
    UsbProgram (List UsbInterfaceRecord) :=
  pruneFrom records.length records 0

/-- `get_or_create_usb_interface_record`: the table and the index of the record in it. -/
def getOrCreateUsbInterfaceRecord (records : List UsbInterfaceRecord) (name : Text) :
    Option (List UsbInterfaceRecord × Nat) :=
  match findUsbInterfaceRecord records name with
  | some existing => some (records, existing)
  | none =>
      if maxUsbInterfaceRecords ≤ records.length then none
      else some (records ++ [{ interfaceName := name }], records.length)

/-- The record after an attempt to unbind its interface. -/
def UsbInterfaceRecord.attempted (record : UsbInterfaceRecord) (driver : Text) (now : Int) :
    Option Errno → UsbInterfaceRecord
  | none => { record with driverName := driver, detached := true, lastErrno := 0, retryAfterMs := 0 }
  | some errno =>
      { record with
        driverName := driver
        detached := false
        lastErrno := errno
        retryAfterMs := now + exclusiveUsbRetryIntervalMs }

/-- The name of the device of an interface. -/
def usbDeviceName (name : Text) : Option Text :=
  if name.contains ':' then
    let device := name.takeWhile (· != ':')
    if device = [] ∨ maxUsbSysfsName ≤ device.length then none else some device
  else none

/-- The body of the loop of `reconcile_exclusive_usb` for an interface with a driver. -/
def unbindInterface (records : List UsbInterfaceRecord) (name driver : Text) :
    UsbProgram (List UsbInterfaceRecord) :=
  match getOrCreateUsbInterfaceRecord records name with
  | none => return records
  | some (records, index) => do
      let now ← sysfs .monotonicMillis
      match records[index]? with
      | none => return records
      | some record =>
          if now < record.retryAfterMs then return records
          let failure ← writeUsbDriverControl driver .unbind name
          return records.set index (record.attempted driver now failure)

/-- The body of the loop of `reconcile_exclusive_usb`. -/
def reconcileInterface (filter : UsbDeviceFilter) (records : List UsbInterfaceRecord) (name : Text) :
    UsbProgram (List UsbInterfaceRecord) :=
  match usbDeviceName name with
  | none => return records
  | some device => do
      if isSafeUsbSysfsName name = false then return records
      match ← readUsbDeviceId device with
      | none => return records
      | some id =>
          if usbFilterMatches filter id = false then return records
          match ← readUsbInterfaceDriver name with
          | none => return records
          | some driver => unbindInterface records name driver

/-- The loop of `reconcile_exclusive_usb`. -/
def reconcileInterfaces (filter : UsbDeviceFilter) :
    List Text → List UsbInterfaceRecord → UsbProgram (List UsbInterfaceRecord)
  | [], records => return records
  | name :: names, records => do
      let records ← reconcileInterface filter records name
      reconcileInterfaces filter names records

/-- `reconcile_exclusive_usb`. -/
def reconcileExclusiveUsb (filter : UsbDeviceFilter) (state : ExclusiveUsbState) :
    UsbProgram ExclusiveUsbState := do
  let records ← pruneDisconnectedUsbInterfaces state.records
  match ← sysfs .listInterfaces with
  | .error errno => return { records, lastScanErrno := errno }
  | .ok names =>
      let records ← reconcileInterfaces filter names records
      return { records, lastScanErrno := 0 }

/-! ### Restoration -/

/-- The body of the loop of `restore_exclusive_usb`. -/
def restoreInterface (record : UsbInterfaceRecord) : UsbProgram Unit := do
  if record.detached = false then return ()
  match ← sysfs (.lstatInterface record.interfaceName) with
  | some _ => return ()
  | none =>
      match ← readUsbInterfaceDriver record.interfaceName with
      | some _ => return ()
      | none =>
          let _ ← writeUsbDriverControl record.driverName .bind record.interfaceName
          return ()

def restoreInterfaces : List UsbInterfaceRecord → UsbProgram Unit
  | [] => return ()
  | record :: records => do
      restoreInterface record
      restoreInterfaces records

/-- `restore_exclusive_usb`: from the last record to the first. -/
def restoreExclusiveUsb (state : ExclusiveUsbState) : UsbProgram ExclusiveUsbState := do
  restoreInterfaces state.records.reverse
  return {}

end DawnShell.Launcher
