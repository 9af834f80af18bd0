/-
Module: DawnShell.Proofs.StateFileRoundTrip
Layer: Proofs
Purpose: What `write_state` writes is what `read_state` reads: every field of every record comes back, and
  no record is too long for the buffer it is formatted in.
Trusted boundary: none
Main exports: StateFile.Writable, StateFile.readLine_line, StateFile.length_stateText,
  StateFile.launcher_state_round_trip
-/
import DawnShell.Launcher.StateFile
import Mathlib.Algebra.Order.BigOperators.Group.List
import Mathlib.Algebra.Order.Group.Nat

namespace DawnShell.Launcher.StateFile

open CString

/-- A record as the launcher writes it: no pid is negative and no string has a line end. -/
structure Writable (record : LauncherState) : Prop where
  supervisorPid : 0 ≤ record.supervisorPid
  initHostPid : 0 ≤ record.initHostPid
  state : '\n' ∉ record.state.text
  cgroupMode : '\n' ∉ record.cgroupMode.text
  hostUsbMode : '\n' ∉ record.hostUsbMode.text
  launchMode : '\n' ∉ record.launchMode.text

section Names

variable {key : Key}

@[simp] theorem ofName?_name : Key.ofName? key.name = some key := by
  cases key <;> decide

/-- No name has a character that ends it, its line or the text. -/
theorem name_plain : '=' ∉ key.name ∧ '\n' ∉ key.name ∧ nul ∉ key.name := by
  cases key <;> decide

end Names

section Values

variable {record target : LauncherState} {key : Key}

/-- A number that is written in decimal is read back. -/
theorem parseU64_unsigned {value : UInt64} : parseU64 (unsigned value) = some value := by
  have filled : [] ≠ Nat.toDigits 10 value.toNat := Ne.symm Nat.toDigits_ne_nil
  simp [parseU64, unsigned, strtoull_decimal, filled]

/-- A pid is not negative, so that it is printed without a sign. -/
theorem parsePidValue_decimal {pid : Int32} (nonnegative : 0 ≤ pid) :
    parsePidValue (decimal pid.toInt) = some pid := by
  have bounded := pid.toInt_lt
  have signless : 0 ≤ pid.toInt := Int32.le_iff_toInt_le.mp nonnegative
  -- The pid as the unsigned number that `strtoull` returns.
  obtain ⟨number, same⟩ := Int.eq_ofNat_of_zero_le signless
  have small : number < 2 ^ 31 := by omega
  have word : (UInt64.ofNat number).toNat = number :=
    UInt64.toNat_ofNat_of_lt' (Nat.lt_trans small (by decide))
  have text : decimal pid.toInt = unsigned (UInt64.ofNat number) := by
    simp [decimal, unsigned, same, word]
  have back : Int32.ofNat number = pid := by
    rw [← Int32.toInt_inj, Int32.toInt_ofNat_of_lt small, same]
  have fits : number ≤ 2147483647 := Nat.le_of_lt_succ small
  simp [parsePidValue, text, parseU64_unsigned, word, back, fits]

/-- The record with one field of another. -/
def Key.copy (target record : LauncherState) : Key → LauncherState
  | .state => { record with state := target.state }
  | .cgroupMode => { record with cgroupMode := target.cgroupMode }
  | .hostUsbMode => { record with hostUsbMode := target.hostUsbMode }
  | .launchMode => { record with launchMode := target.launchMode }
  | .supervisorPid => { record with supervisorPid := target.supervisorPid }
  | .supervisorStartTicks => { record with supervisorStartTicks := target.supervisorStartTicks }
  | .supervisorExeDev => { record with supervisorExeDev := target.supervisorExeDev }
  | .supervisorExeIno => { record with supervisorExeIno := target.supervisorExeIno }
  | .initHostPid => { record with initHostPid := target.initHostPid }
  | .initStartTicks => { record with initStartTicks := target.initStartTicks }
  | .initExeDev => { record with initExeDev := target.initExeDev }
  | .initExeIno => { record with initExeIno := target.initExeIno }
  | .initPidNsIno => { record with initPidNsIno := target.initPidNsIno }
  | .initMntNsIno => { record with initMntNsIno := target.initMntNsIno }
  | .initUtsNsIno => { record with initUtsNsIno := target.initUtsNsIno }
  | .initIpcNsIno => { record with initIpcNsIno := target.initIpcNsIno }
  | .initCgroupNsIno => { record with initCgroupNsIno := target.initCgroupNsIno }
  | .initNetNsIno => { record with initNetNsIno := target.initNetNsIno }
  | .waitStatus => { record with waitStatus := target.waitStatus }
  | .updatedEpoch => { record with updatedEpoch := target.updatedEpoch }

/-- Each branch of the chain reads what the format string prints for its field. -/
theorem assign_value (writable : Writable target) :
    record.assign key (key.value target) = key.copy target record := by
  cases key with
  | state | cgroupMode | hostUsbMode | launchMode =>
      simp [LauncherState.assign, Key.value, Key.copy, printed, CArray.print_text]
  | supervisorPid | initHostPid =>
      simp [LauncherState.assign, Key.value, Key.copy, parsePidValue_decimal, writable.supervisorPid,
        writable.initHostPid]
  | waitStatus => simp [LauncherState.assign, Key.value, Key.copy, atoi_decimal]
  | updatedEpoch =>
      have low := target.updatedEpoch.le_toInt
      have high := target.updatedEpoch.toInt_lt
      simp [LauncherState.assign, Key.value, Key.copy, strtoll_decimal (And.intro low high)]
  | _ => simp [LauncherState.assign, Key.value, Key.copy, parseU64_unsigned]

/-- A line that is written is read into the field of its key, and changes no other. -/
theorem readLine_line (writable : Writable target) :
    readLine record (key.line target) = key.copy target record := by
  rw [readLine, Key.line, strchr_append name_plain.1]
  simp [assign_value writable]

theorem foldl_copy : Key.all.foldl (Key.copy target) record = target := by
  simp only [Key.all, List.foldl_cons, List.foldl_nil, Key.copy]

end Values

section Text

variable {record : LauncherState} {key : Key} {line : List Char}

/-- A number has only digits and perhaps a sign. -/
theorem not_mem_decimal {value : Int} {character : Char} (sign : character ≠ '-')
    (digit : character.isDigit = false) : character ∉ decimal value := by
  intro member
  rcases decimal_plain member with same | other
  · exact sign same
  · simp [digit] at other

/-- A number without a sign has only digits. -/
theorem not_mem_unsigned {value : UInt64} {character : Char} (digit : character.isDigit = false) :
    character ∉ unsigned value := by
  intro member
  simp [isDigit_of_mem member] at digit

theorem value_plain (writable : Writable record) :
    '\n' ∉ key.value record ∧ nul ∉ key.value record := by
  have number : ∀ value : Int, '\n' ∉ decimal value ∧ nul ∉ decimal value := fun value =>
    ⟨not_mem_decimal (by decide) (by decide), not_mem_decimal (by decide) (by decide)⟩
  have counter : ∀ value : UInt64, '\n' ∉ unsigned value ∧ nul ∉ unsigned value := fun value =>
    ⟨not_mem_unsigned (by decide), not_mem_unsigned (by decide)⟩
  cases key with
  | state => exact ⟨writable.state, record.state.plain⟩
  | cgroupMode => exact ⟨writable.cgroupMode, record.cgroupMode.plain⟩
  | hostUsbMode => exact ⟨writable.hostUsbMode, record.hostUsbMode.plain⟩
  | launchMode => exact ⟨writable.launchMode, record.launchMode.plain⟩
  | supervisorPid | initHostPid | waitStatus | updatedEpoch => exact number _
  | _ => exact counter _

/-- The lines of the text, the format line included, are lines. -/
theorem lines_plain (writable : Writable record) (member : line ∈ stateLines record) :
    '\n' ∉ line ∧ nul ∉ line ∧ line ≠ [] := by
  rcases List.mem_cons.mp member with rfl | field
  · decide
  · obtain ⟨key, -, rfl⟩ := List.mem_map.mp field
    obtain ⟨-, nameEnd, nameNul⟩ := @name_plain key
    obtain ⟨valueEnd, valueNul⟩ := @value_plain record key writable
    have equals : nul ≠ '=' := by decide
    simp [Key.line, nameEnd, nameNul, valueEnd, valueNul, equals]

/-- How many characters a value has at most. -/
def Key.width : Key → Nat
  | .state => 23
  | .cgroupMode | .hostUsbMode | .launchMode => 15
  | .supervisorPid | .initHostPid | .waitStatus => 11
  | _ => 20

/-- No value is longer than the width that its key is given in the buffer, which is that of the widest
number of its type. -/
theorem length_value_le : (key.value record).length ≤ key.width := by
  have word : ∀ value : Int32, (decimal value.toInt).length ≤ 11 := by
    intro value
    have low := value.le_toInt
    have high := value.toInt_lt
    exact length_decimal_le 10 (by decide) (by omega)
  have counter : ∀ value : UInt64, (unsigned value).length ≤ 20 := by
    intro value
    refine (Nat.length_toDigits_le_iff (by decide) (by decide)).mpr ?_
    exact Nat.lt_trans value.toNat_lt (by decide)
  cases key with
  | state => exact Nat.le_of_lt_succ record.state.fits
  | cgroupMode => exact Nat.le_of_lt_succ record.cgroupMode.fits
  | hostUsbMode => exact Nat.le_of_lt_succ record.hostUsbMode.fits
  | launchMode => exact Nat.le_of_lt_succ record.launchMode.fits
  | supervisorPid | initHostPid | waitStatus => exact word _
  | updatedEpoch =>
      have low := record.updatedEpoch.le_toInt
      have high := record.updatedEpoch.toInt_lt
      exact length_decimal_le 19 (by decide) (by omega)
  | _ => exact counter _

theorem length_stateText : (stateText record).length < writeBufferBytes := by
  have fields : ((Key.all.map (Key.line record)).flatMap (· ++ ['\n'])).length ≤
      (Key.all.map fun key => key.name.length + key.width + 2).sum := by
    rw [List.length_flatMap, List.map_map]
    refine List.sum_le_sum fun key _ => ?_
    have short := @length_value_le record key
    simp only [Function.comp_apply, Key.line, List.length_append, List.length_cons, List.length_nil]
    omega
  have total : (Key.all.map fun key => key.name.length + key.width + 2).sum = 683 := by decide
  have first : ("format=7".toList ++ ['\n']).length = 9 := by decide
  rw [stateText, stateLines, List.flatMap_cons, List.length_append]
  simp only [writeBufferBytes]
  omega

/-- A state text has no byte that would end it early. -/
theorem nul_notMem_stateText (writable : Writable record) : nul ∉ stateText record := by
  intro member
  obtain ⟨line, within, character⟩ := List.mem_flatMap.mp member
  rcases List.mem_append.mp character with inside | last
  · exact (lines_plain writable within).2.1 inside
  · exact absurd (List.mem_singleton.mp last) (by decide)

/-- The lines of the text bring the fields of the record, whatever record they are read into. -/
theorem foldl_readLine {initial : LauncherState} (writable : Writable record) :
    (stateLines record).foldl readLine initial = record := by
  have skipped : readLine initial "format=7".toList = initial := by
    have cut : strchr '=' "format=7".toList = some ("format".toList, ['7']) := by decide
    have unknown : Key.ofName? "format".toList = none := by decide
    rw [readLine, cut]
    simp only [unknown]
  have copied : ∀ keys : List Key, ∀ read : LauncherState,
      (keys.map (Key.line record)).foldl readLine read = keys.foldl (Key.copy record) read := by
    intro keys
    induction keys with
    | nil => exact fun _ => rfl
    | cons key keys ih =>
        intro read
        rw [List.map_cons, List.foldl_cons, List.foldl_cons, readLine_line writable, ih]
  rw [stateLines, List.foldl_cons, skipped, copied, foldl_copy]

/-- A state text is read back as the record that it was written for, at whatever time it is read. -/
theorem readState_stateText (later : Int64) (writable : Writable record) :
    readState later (some (stateText record)) = (true, record) := by
  have short := @length_stateText record
  have whole : (stateText record).take (readBufferBytes - 1) = stateText record :=
    List.take_of_length_le (Nat.le_trans (Nat.le_of_lt short) (by decide))
  have filled : stateText record ≠ [] := by simp [stateText, stateLines]
  have tokens : strtok '\n' (stateText record) = stateLines record :=
    strtok_lines (fun _ within => (lines_plain writable within).1)
      (fun _ within => (lines_plain writable within).2.2)
  rw [readState]
  simp only [whole, if_neg filled, terminated_of_plain (nul_notMem_stateText writable), tokens,
    foldl_readLine writable]

end Text

/-- What `write_state` writes for a record fits its buffer, and `read_state` finds in it every field of
the record, with the time of the write. -/
theorem launcher_state_round_trip {record : LauncherState} (now later : Int64)
    (writable : Writable record) :
    ∃ text, writeState now record = ({ record with updatedEpoch := now }, some text) ∧
      text.length < writeBufferBytes ∧
      readState later (some text) = (true, { record with updatedEpoch := now }) := by
  have stamped : Writable { record with updatedEpoch := now } :=
    { supervisorPid := writable.supervisorPid
      initHostPid := writable.initHostPid
      state := writable.state
      cgroupMode := writable.cgroupMode
      hostUsbMode := writable.hostUsbMode
      launchMode := writable.launchMode }
  have short := @length_stateText { record with updatedEpoch := now }
  refine ⟨stateText { record with updatedEpoch := now }, ?_, short, readState_stateText later stamped⟩
  rw [writeState]
  simp only [if_neg (Nat.not_le.mpr short)]

/-- A record of a running supervisor with extreme numbers in it. -/
def extremeRecord : LauncherState where
  state := printed 24 "running".toList
  cgroupMode := printed 16 "v2=delegated".toList
  hostUsbMode := printed 16 []
  launchMode := printed 16 "systemd".toList
  supervisorPid := 2147483647
  supervisorStartTicks := 18446744073709551615
  waitStatus := -2147483648
  updatedEpoch := 0

theorem launcher_state_round_trip_extreme :
    ∃ text, writeState (-1) extremeRecord = ({ extremeRecord with updatedEpoch := -1 }, some text) ∧
      text.length < writeBufferBytes ∧
      readState 7 (some text) = (true, { extremeRecord with updatedEpoch := -1 }) :=
  launcher_state_round_trip (-1) 7
    { supervisorPid := by decide
      initHostPid := by decide
      state := by decide
      cgroupMode := by decide
      hostUsbMode := by decide
      launchMode := by decide }

end DawnShell.Launcher.StateFile
