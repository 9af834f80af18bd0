/-
Module: DawnShell.Launcher.StateFile
Layer: Launcher
Purpose: The state file of the launcher byte by byte: the record with its arrays of characters and its
  numbers, the text that is written for it, and how a text is read back into a record.
Trusted boundary: faithful model of bfu_namespace_probe.c:145-166, 836-844, 866-901 and 931-1007.  The
  replacement of the file is atomic and is left out here; a file that cannot be opened or read is `none`.
Main exports: StateFile.LauncherState, StateFile.initializeState, StateFile.Key, StateFile.writeState,
  StateFile.readState
-/
import DawnShell.Lib.CStrings

namespace DawnShell.Launcher.StateFile

open CString

/-- `LauncherState`. -/
structure LauncherState where
  state : CArray 24
  cgroupMode : CArray 16
  hostUsbMode : CArray 16
  launchMode : CArray 16
  supervisorPid : Int32 := 0
  supervisorStartTicks : UInt64 := 0
  supervisorExeDev : UInt64 := 0
  supervisorExeIno : UInt64 := 0
  initHostPid : Int32 := 0
  initStartTicks : UInt64 := 0
  initExeDev : UInt64 := 0
  initExeIno : UInt64 := 0
  initPidNsIno : UInt64 := 0
  initMntNsIno : UInt64 := 0
  initUtsNsIno : UInt64 := 0
  initIpcNsIno : UInt64 := 0
  initCgroupNsIno : UInt64 := 0
  initNetNsIno : UInt64 := 0
  waitStatus : Int32
  updatedEpoch : Int64
deriving DecidableEq

-- The sizes of the arrays of the record.
instance stateBytes : NeZero 24 := ⟨by decide⟩
instance modeBytes : NeZero 16 := ⟨by decide⟩

/-- `snprintf` of a text into one of the arrays of the record. -/
def printed (size : Nat) [positive : NeZero size] (text : List Char) : CArray size :=
  CArray.print (Nat.pos_of_ne_zero positive.out) text

/-- `initialize_state` at a time. -/
def initializeState (name : List Char) (now : Int64) : LauncherState where
  state := printed 24 name
  cgroupMode := printed 16 "unknown".toList
  hostUsbMode := printed 16 "unknown".toList
  launchMode := printed 16 "systemd".toList
  waitStatus := -1
  updatedEpoch := now

/-! ### The fields of the file -/

/-- The names that lines of the file have, in the order in which they are written. -/
inductive Key where
  | state
  | cgroupMode
  | hostUsbMode
  | launchMode
  | supervisorPid
  | supervisorStartTicks
  | supervisorExeDev
  | supervisorExeIno
  | initHostPid
  | initStartTicks
  | initExeDev
  | initExeIno
  | initPidNsIno
  | initMntNsIno
  | initUtsNsIno
  | initIpcNsIno
  | initCgroupNsIno
  | initNetNsIno
  | waitStatus
  | updatedEpoch
deriving DecidableEq, Repr

def Key.all : List Key :=
  [.state, .cgroupMode, .hostUsbMode, .launchMode, .supervisorPid, .supervisorStartTicks,
    .supervisorExeDev, .supervisorExeIno, .initHostPid, .initStartTicks, .initExeDev, .initExeIno,
    .initPidNsIno, .initMntNsIno, .initUtsNsIno, .initIpcNsIno, .initCgroupNsIno, .initNetNsIno,
    .waitStatus, .updatedEpoch]

/-- What stands in front of the equals sign. -/
def Key.name : Key → List Char
  | .state => "state".toList
  | .cgroupMode => "cgroup_mode".toList
  | .hostUsbMode => "host_usb_mode".toList
  | .launchMode => "launch_mode".toList
  | .supervisorPid => "supervisor_pid".toList
  | .supervisorStartTicks => "supervisor_start_ticks".toList
  | .supervisorExeDev => "supervisor_exe_dev".toList
  | .supervisorExeIno => "supervisor_exe_ino".toList
  | .initHostPid => "init_host_pid".toList
  | .initStartTicks => "init_start_ticks".toList
  | .initExeDev => "init_exe_dev".toList
  | .initExeIno => "init_exe_ino".toList
  | .initPidNsIno => "init_pid_ns_ino".toList
  | .initMntNsIno => "init_mnt_ns_ino".toList
  | .initUtsNsIno => "init_uts_ns_ino".toList
  | .initIpcNsIno => "init_ipc_ns_ino".toList
  | .initCgroupNsIno => "init_cgroup_ns_ino".toList
  | .initNetNsIno => "init_net_ns_ino".toList
  | .waitStatus => "wait_status".toList
  | .updatedEpoch => "updated_epoch".toList

/-- The branch of the `strcmp` chain that a name selects. -/
def Key.ofName? (name : List Char) : Option Key := Key.all.find? (·.name == name)

/-! ### Writing -/

/-- `%llu`. -/
def unsigned (value : UInt64) : List Char := Nat.toDigits 10 value.toNat

/-- What is printed behind the equals sign. -/
def Key.value (record : LauncherState) : Key → List Char
  | .state => record.state.text
  | .cgroupMode => record.cgroupMode.text
  | .hostUsbMode => record.hostUsbMode.text
  | .launchMode => record.launchMode.text
  | .supervisorPid => decimal record.supervisorPid.toInt
  | .supervisorStartTicks => unsigned record.supervisorStartTicks
  | .supervisorExeDev => unsigned record.supervisorExeDev
  | .supervisorExeIno => unsigned record.supervisorExeIno
  | .initHostPid => decimal record.initHostPid.toInt
  | .initStartTicks => unsigned record.initStartTicks
  | .initExeDev => unsigned record.initExeDev
  | .initExeIno => unsigned record.initExeIno
  | .initPidNsIno => unsigned record.initPidNsIno
  | .initMntNsIno => unsigned record.initMntNsIno
  | .initUtsNsIno => unsigned record.initUtsNsIno
  | .initIpcNsIno => unsigned record.initIpcNsIno
  | .initCgroupNsIno => unsigned record.initCgroupNsIno
  | .initNetNsIno => unsigned record.initNetNsIno
  | .waitStatus => decimal record.waitStatus.toInt
  | .updatedEpoch => decimal record.updatedEpoch.toInt

/-- The line of a field, without its end. -/
def Key.line (record : LauncherState) (key : Key) : List Char :=
  key.name ++ '=' :: key.value record

/-- The lines of the format string. -/
def stateLines (record : LauncherState) : List (List Char) :=
  "format=7".toList :: Key.all.map (Key.line record)

/-- What the format string makes of a record. -/
def stateText (record : LauncherState) : List Char := (stateLines record).flatMap (· ++ ['\n'])

/-- `sizeof(contents)` of `write_state`. -/
def writeBufferBytes : Nat := 1024

/-- `write_state` at a time, up to the file: the record it leaves and the text it writes; `none` is
`EOVERFLOW`. -/
def writeState (now : Int64) (record : LauncherState) : LauncherState × Option (List Char) :=
  let record := { record with updatedEpoch := now }
  (record,
    if writeBufferBytes ≤ (stateText record).length then none else some (stateText record))

/-! ### Reading -/

/-- `parse_u64`; `none` is `-1`, which leaves the field as it is. -/
def parseU64 (value : List Char) : Option UInt64 :=
  let parsed := strtoull value
  if parsed.error ∨ parsed.behind = value ∨ parsed.behind ≠ [] then none else some parsed.value

/-- `parse_pid_value`. -/
def parsePidValue (value : List Char) : Option Int32 :=
  match parseU64 value with
  | none => none
  | some parsed => if 2 ^ 31 - 1 < parsed.toNat then none else some (Int32.ofNat parsed.toNat)

/-- One branch of the chain. -/
def LauncherState.assign (record : LauncherState) (key : Key) (value : List Char) : LauncherState :=
  match key with
  | .state => { record with state := printed 24 value }
  | .cgroupMode => { record with cgroupMode := printed 16 value }
  | .hostUsbMode => { record with hostUsbMode := printed 16 value }
  | .launchMode => { record with launchMode := printed 16 value }
  | .supervisorPid =>
      { record with supervisorPid := (parsePidValue value).getD record.supervisorPid }
  | .supervisorStartTicks =>
      { record with supervisorStartTicks := (parseU64 value).getD record.supervisorStartTicks }
  | .supervisorExeDev =>
      { record with supervisorExeDev := (parseU64 value).getD record.supervisorExeDev }
  | .supervisorExeIno =>
      { record with supervisorExeIno := (parseU64 value).getD record.supervisorExeIno }
  | .initHostPid => { record with initHostPid := (parsePidValue value).getD record.initHostPid }
  | .initStartTicks =>
      { record with initStartTicks := (parseU64 value).getD record.initStartTicks }
  | .initExeDev => { record with initExeDev := (parseU64 value).getD record.initExeDev }
  | .initExeIno => { record with initExeIno := (parseU64 value).getD record.initExeIno }
  | .initPidNsIno => { record with initPidNsIno := (parseU64 value).getD record.initPidNsIno }
  | .initMntNsIno => { record with initMntNsIno := (parseU64 value).getD record.initMntNsIno }
  | .initUtsNsIno => { record with initUtsNsIno := (parseU64 value).getD record.initUtsNsIno }
  | .initIpcNsIno => { record with initIpcNsIno := (parseU64 value).getD record.initIpcNsIno }
  | .initCgroupNsIno =>
      { record with initCgroupNsIno := (parseU64 value).getD record.initCgroupNsIno }
  | .initNetNsIno => { record with initNetNsIno := (parseU64 value).getD record.initNetNsIno }
  | .waitStatus => { record with waitStatus := atoi value }
  | .updatedEpoch => { record with updatedEpoch := Int64.ofInt (strtoll value).value }

/-- One round of the loop of `read_state`. -/
def readLine (record : LauncherState) (line : List Char) : LauncherState :=
  match strchr '=' line with
  | none => record
  | some (name, value) =>
      match Key.ofName? name with
      | none => record
      | some key => record.assign key value

/-- `sizeof(contents)` of `read_state`. -/
def readBufferBytes : Nat := 4096

/-- `read_state` at a time: whether it returns 0, and the record it leaves. -/
def readState (now : Int64) (file : Option (List Char)) : Bool × LauncherState :=
  let initial := initializeState "unknown".toList now
  match file with
  | none => (false, initial)
  | some contents =>
      let read := contents.take (readBufferBytes - 1)
      if read = [] then (false, initial)
      else (true, (strtok '\n' (terminated read)).foldl readLine initial)

end DawnShell.Launcher.StateFile
