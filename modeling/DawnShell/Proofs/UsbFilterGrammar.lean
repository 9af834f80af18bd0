/-
Module: DawnShell.Proofs.UsbFilterGrammar
Layer: Proofs
Purpose: Which texts `parse_usb_device_filter` accepts, and what it makes of them.  The parser with its
  indices stays inside the string and the table, and is the parser on what is left of the text; one
  iteration of that takes one entry of the grammar off the text.
Trusted boundary: none
Main exports: DeviceEntry, EntryList, Accepts, parseUsbDeviceFilterAt_eq, parse_usb_device_filter_iff
-/
import Mathlib.Data.List.Forall2
import DawnShell.Launcher.Arguments

namespace DawnShell.Launcher

/-! ### Grammar -/

/-- A hexadecimal digit of either case and its value. -/
def HexDigit (character : Char) (value : Nat) : Prop :=
  "0123456789abcdef".toList[value]? = some character ∨ "0123456789ABCDEF".toList[value]? = some character

/-- Four hexadecimal digits and their value. -/
def HexWord (text : Text) (word : Nat) : Prop :=
  text.length = 4 ∧ ∃ digits, List.Forall₂ HexDigit text digits ∧
    word = digits.foldl (fun word digit => word * 16 + digit) 0

/-- `vvvv:pppp`. -/
def DeviceEntry (text : Text) (id : UsbDeviceId) : Prop :=
  ∃ vendor product, HexWord vendor id.vendor ∧ HexWord product id.product ∧
    text = vendor ++ ':' :: product

/-- Entries separated by commas. -/
inductive EntryList : Text → List UsbDeviceId → Prop
  | last {text : Text} {id : UsbDeviceId} (entry : DeviceEntry text id) : EntryList text [id]
  | more {text rest : Text} {id : UsbDeviceId} {ids : List UsbDeviceId} (entry : DeviceEntry text id)
      (others : EntryList rest ids) : EntryList (text ++ ',' :: rest) (id :: ids)

/-- No entry is reached after as many distinct ones as the table holds. -/
def FitsTable (ids : List UsbDeviceId) : Prop :=
  ∀ count < ids.length, (ids.take count).eraseDups.length < maxUsbDeviceFilters

/-- The text is accepted with this filter: the distinct entries in the order in which they first occur. -/
def Accepts (value : Text) (filter : UsbDeviceFilter) : Prop :=
  (value = [] ∨ value = ['-']) ∧ filter = [] ∨
    value.length ≤ 512 ∧ ∃ ids, EntryList value ids ∧ FitsTable ids ∧ filter = ids.eraseDups

/-! ### Digits and words -/

instance {character : Char} {value : Nat} : Decidable (HexDigit character value) :=
  inferInstanceAs (Decidable (_ ∨ _))

/-- The value of a hexadecimal digit is what the grammar says, and other characters have none. -/
theorem hexDigitValue_iff {character : Char} {value : Nat} :
    hexDigitValue character = some value ↔ HexDigit character value := by
  constructor
  · intro read
    have below : character.toNat < 0x67 := by
      simp only [hexDigitValue, Char.le_def, UInt32.le_iff_toNat_le, Char.reduceVal] at read
      rw [Char.toNat]
      grind
    have listed : ∀ number < 0x67, (hexDigitValue (Char.ofNat number)).all
        fun value => decide (HexDigit (Char.ofNat number) value) := by
      decide +kernel
    have known := listed _ below
    rw [Char.ofNat_toNat, read] at known
    simpa using known
  · have lower : ∀ value < 16, ("0123456789abcdef".toList[value]?).all
        fun character => hexDigitValue character = some value := by
      decide
    have upper : ∀ value < 16, ("0123456789ABCDEF".toList[value]?).all
        fun character => hexDigitValue character = some value := by
      decide
    rintro (found | found)
    · have known := lower value (List.getElem?_eq_some_iff.mp found).1
      rw [found] at known
      simpa using known
    · have known := upper value (List.getElem?_eq_some_iff.mp found).1
      rw [found] at known
      simpa using known

/-- `parse_usb_hex_word` on a text of at least four characters. -/
theorem parseUsbHexWord_iff {text rest : Text} {word : Nat} (four : text.length = 4) :
    parseUsbHexWord (text ++ rest) = some word ↔ HexWord text word := by
  rcases text with _ | ⟨first, _ | ⟨second, _ | ⟨third, _ | ⟨fourth, _ | ⟨fifth, more⟩⟩⟩⟩⟩ <;>
    simp only [List.length_cons, List.length_nil] at four
  · omega
  · omega
  · omega
  · omega
  · simp only [List.cons_append, parseUsbHexWord, Option.bind_eq_bind, Option.bind_eq_some_iff,
      Option.pure_def, Option.some.injEq, hexDigitValue_iff]
    constructor
    · rintro ⟨a, one, b, two, c, three, d, four, rfl⟩
      exact ⟨rfl, [a, b, c, d], by simp [one, two, three, four], by simp⟩
    · rintro ⟨-, digits, read, rfl⟩
      simp only [List.forall₂_cons_left_iff, List.forall₂_nil_left_iff] at read
      obtain ⟨a, _, one, ⟨b, _, two, ⟨c, _, three, ⟨d, _, four, rfl, rfl⟩, rfl⟩, rfl⟩, rfl⟩ := read
      exact ⟨a, one, b, two, c, three, d, four, by simp⟩
  · omega

/-! ### One iteration -/

/-- The filter with an entry that it may have already. -/
def addDevice (filter : UsbDeviceFilter) (id : UsbDeviceId) : UsbDeviceFilter :=
  if filter.contains id then filter else filter ++ [id]

theorem exists_device {vendor product : Nat} {P : UsbDeviceId → Prop} :
    (∃ id : UsbDeviceId, vendor = id.vendor ∧ product = id.product ∧ P id) ↔ P ⟨vendor, product⟩ := by
  constructor
  · rintro ⟨id, rfl, rfl, holds⟩
    exact holds
  · exact fun holds => ⟨⟨vendor, product⟩, rfl, rfl, holds⟩

/-- A text of nine characters or more begins with four, one and four. -/
theorem exists_shape {rest : Text} (long : 9 ≤ rest.length) :
    ∃ vendor separator product tail, rest = vendor ++ separator :: (product ++ tail) ∧
      vendor.length = 4 ∧ product.length = 4 := by
  have behind : rest.drop 4 = rest[4] :: rest.drop 5 := List.drop_eq_getElem_cons (by omega)
  refine ⟨rest.take 4, rest[4], (rest.drop 5).take 4, (rest.drop 5).drop 4, ?_, ?_, ?_⟩
  · rw [List.take_append_drop, ← behind, List.take_append_drop]
  · simp
    omega
  · simp
    omega

section Shape

variable {vendor product tail : Text} {separator : Char} {fuel : Nat} {filter result : UsbDeviceFilter}

/-- One iteration on a text with nine characters and a tail: it takes them for an entry if they are one,
and the tail is empty or begins with a comma and goes on. -/
theorem parseFilterEntries_shape (four : vendor.length = 4) (other : product.length = 4) :
    parseFilterEntries (fuel + 1) (vendor ++ separator :: (product ++ tail)) filter = some result ↔
      filter.length < maxUsbDeviceFilters ∧ separator = ':' ∧
        ∃ id : UsbDeviceId, HexWord vendor id.vendor ∧ HexWord product id.product ∧
          (tail = [] ∧ result = addDevice filter id ∨
            ∃ more, more ≠ [] ∧ tail = ',' :: more ∧
              parseFilterEntries fuel more (addDevice filter id) = some result) := by
  generalize whole : vendor ++ separator :: (product ++ tail) = rest
  have length : rest.length = 9 + tail.length := by
    simp only [← whole, List.length_append, List.length_cons, four, other]
    omega
  have colon : rest[4]? = some separator := by
    rw [← whole, List.getElem?_append_right (by omega), four]
    rfl
  have behind : rest[9]? = tail[0]? := by
    rw [← whole, List.getElem?_append_right (by omega), four, List.getElem?_cons_succ,
      List.getElem?_append_right (by omega), other]
  have second : rest.drop 5 = product ++ tail := by
    rw [← whole, List.drop_append, four, List.drop_of_length_le (by omega)]
    rfl
  have last : rest.drop 10 = tail.drop 1 := by
    rw [← whole, List.drop_append, four, List.drop_of_length_le (by omega), List.nil_append,
      List.drop_succ_cons, List.drop_append, other, List.drop_of_length_le (by omega), List.nil_append]
  have read : ∀ {word}, parseUsbHexWord rest = some word ↔ HexWord vendor word := by
    rw [← whole]
    exact parseUsbHexWord_iff four
  have readOther : ∀ {word}, parseUsbHexWord (product ++ tail) = some word ↔ HexWord product word :=
    parseUsbHexWord_iff other
  have filled : rest ≠ [] := by
    rintro rfl
    rw [List.length_nil] at length
    omega
  obtain ⟨first, others, shape⟩ := List.exists_cons_of_ne_nil filled
  rw [shape, parseFilterEntries, ← shape, colon, behind, second, last, length]
  · by_cases refused : maxUsbDeviceFilters ≤ filter.length ∨ 9 + tail.length < 9 ∨
        some separator ≠ some ':'
    · rw [if_pos refused]
      simp only [reduceCtorEq, false_iff]
      rintro ⟨room, rfl, -⟩
      simp at refused
      omega
    · rw [if_neg refused]
      simp only [not_or, not_le, not_not, Option.some.injEq] at refused
      obtain ⟨room, -, rfl⟩ := refused
      simp only [room, true_and]
      simp only [← read, ← readOther]
      generalize parseUsbHexWord rest = vendorRead
      generalize parseUsbHexWord (product ++ tail) = productRead
      cases tail with
      | nil =>
          cases vendorRead <;> cases productRead <;> simp [addDevice, exists_device, eq_comm]
      | cons comma more =>
          have ended : 9 + (more.length + 1) = 10 ↔ more = [] := by
            rw [← List.length_eq_zero_iff]
            omega
          cases vendorRead <;> cases productRead <;>
            simp [addDevice, exists_device, ended, and_left_comm]
  · simp

end Shape

section Grammar

variable {text entry : Text} {id : UsbDeviceId} {ids before : List UsbDeviceId} {fuel : Nat}
  {filter result : UsbDeviceFilter}

/-- An entry of the grammar has nine characters. -/
theorem length_of_deviceEntry (device : DeviceEntry entry id) : entry.length = 9 := by
  obtain ⟨vendor, product, first, second, rfl⟩ := device
  simp [first.1, second.1]

/-- A list of the grammar has nine characters at least. -/
theorem nine_le_of_entryList (entries : EntryList text ids) : 9 ≤ text.length := by
  cases entries with
  | last entry => exact (length_of_deviceEntry entry).ge
  | more entry others =>
      rw [List.length_append, length_of_deviceEntry entry]
      omega

/-- What is left, if it is shorter than an entry, is refused. -/
theorem parseFilterEntries_short (filled : text ≠ []) (short : text.length < 9) :
    parseFilterEntries (fuel + 1) text filter = none := by
  obtain ⟨first, others, rfl⟩ := List.exists_cons_of_ne_nil filled
  rw [parseFilterEntries, if_pos (.inr (.inl short))]
  simp

/-- One iteration takes an entry off the text; the loop goes on exactly if a comma with something behind
it follows. -/
theorem parseFilterEntries_step (filled : text ≠ []) :
    parseFilterEntries (fuel + 1) text filter = some result ↔
      filter.length < maxUsbDeviceFilters ∧ ∃ entry id, DeviceEntry entry id ∧
        (text = entry ∧ result = addDevice filter id ∨
          ∃ rest, rest ≠ [] ∧ text = entry ++ ',' :: rest ∧
            parseFilterEntries fuel rest (addDevice filter id) = some result) := by
  constructor
  · intro read
    have long : 9 ≤ text.length := by
      by_contra short
      rw [parseFilterEntries_short filled (not_le.mp short)] at read
      cases read
    obtain ⟨vendor, separator, product, tail, rfl, four, other⟩ := exists_shape long
    obtain ⟨room, rfl, id, first, second, goes⟩ := (parseFilterEntries_shape four other).mp read
    refine ⟨room, vendor ++ ':' :: product, id, ⟨vendor, product, first, second, rfl⟩, ?_⟩
    rcases goes with ⟨rfl, rfl⟩ | ⟨rest, remains, rfl, more⟩
    · exact .inl ⟨by simp, rfl⟩
    · exact .inr ⟨rest, remains, by simp, more⟩
  · rintro ⟨room, _, id, ⟨vendor, product, first, second, rfl⟩, ends | ⟨rest, remains, goes, more⟩⟩
    · have shape : text = vendor ++ ':' :: (product ++ []) := by simpa using ends.1
      rw [shape, parseFilterEntries_shape first.1 second.1]
      exact ⟨room, rfl, id, first, second, .inl ⟨rfl, ends.2⟩⟩
    · have shape : text = vendor ++ ':' :: (product ++ ',' :: rest) := by simpa using goes
      rw [shape, parseFilterEntries_shape first.1 second.1]
      exact ⟨room, rfl, id, first, second, .inr ⟨rest, remains, rfl, more⟩⟩

/-- Adding a device to a list without repetitions is adding it and dropping the repetition. -/
theorem addDevice_eraseDups : addDevice before.eraseDups id = (before ++ [id]).eraseDups := by
  rw [addDevice, List.eraseDups_append]
  by_cases old : id ∈ before
  · simp [old, List.removeAll]
  · simp [old, List.removeAll, List.eraseDups_cons]

/-- It does not matter whether repetitions are dropped entry by entry or at the end. -/
theorem eraseDups_cons_take {count : Nat} :
    (before ++ (id :: ids).take (count + 1)).eraseDups = (before ++ [id] ++ ids.take count).eraseDups := by
  simp

/-- The loop on the entries that are left behind the ones before: an entry needs room even when it is
there already. -/
theorem parseFilterEntries_iff (filled : text ≠ []) (enough : text.length ≤ fuel) :
    parseFilterEntries fuel text before.eraseDups = some result ↔
      ∃ ids, EntryList text ids ∧
        (∀ count < ids.length, (before ++ ids.take count).eraseDups.length < maxUsbDeviceFilters) ∧
        result = (before ++ ids).eraseDups := by
  induction fuel generalizing text before with
  | zero => exact absurd (List.eq_nil_of_length_eq_zero (Nat.le_zero.mp enough)) filled
  | succ fuel ih =>
      rw [parseFilterEntries_step filled]
      simp only [addDevice_eraseDups]
      constructor
      · rintro ⟨room, entry, id, device, ⟨rfl, rfl⟩ | ⟨rest, remains, rfl, more⟩⟩
        · refine ⟨[id], .last device, fun count one => ?_, rfl⟩
          obtain rfl : count = 0 := by simpa using one
          simpa using room
        · have shorter : rest.length ≤ fuel := by
            simp only [List.length_append, List.length_cons] at enough
            omega
          obtain ⟨ids, others, fits, rfl⟩ := (ih remains shorter).mp more
          refine ⟨id :: ids, .more device others, fun count few => ?_, by simp⟩
          cases count with
          | zero => simpa using room
          | succ count =>
              rw [eraseDups_cons_take]
              exact fits count (by simpa using few)
      · rintro ⟨ids, entries, fits, rfl⟩
        have room : before.eraseDups.length < maxUsbDeviceFilters := by
          have first := fits 0
          cases entries <;> simpa using first
        cases entries with
        | last device => exact ⟨room, _, _, device, .inl ⟨rfl, rfl⟩⟩
        | @more entry rest id ids device others =>
            have remains : rest ≠ [] := by
              rintro rfl
              cases nine_le_of_entryList others
            have shorter : rest.length ≤ fuel := by
              simp only [List.length_append, List.length_cons] at enough
              omega
            refine ⟨room, entry, id, device, .inr ⟨rest, remains, rfl, ?_⟩⟩
            rw [ih remains shorter]
            refine ⟨ids, others, fun count few => ?_, by simp⟩
            rw [← eraseDups_cons_take]
            exact fits (count + 1) (by simpa using few)

end Grammar

/-! ### Indices -/

/-- The result of a parser without indices. -/
def ofOption {α : Type} : Option α → Indexed α
  | some value => pure value
  | none => throw (.failed ())

section Indices

variable {value : Text} {offset index fuel : Nat} {filter : UsbDeviceFilter}

/-- An access inside the text reads its character and faults nowhere. -/
theorem stringAt_of_some {character : Char} (inside : (value.drop offset)[index]? = some character) :
    stringAt value (offset + index) = pure character := by
  rw [List.getElem?_drop] at inside
  have below := (List.getElem?_eq_some_iff.mp inside).1
  rw [stringAt, if_pos below.le, List.getD_eq_getElem?_getD, inside]
  rfl

/-- A word of four digits inside the text is read from its place without an access beyond it. -/
theorem parseUsbHexWordAt_eq (inside : offset + 4 ≤ value.length) :
    parseUsbHexWordAt value offset = ofOption (parseUsbHexWord (value.drop offset)) := by
  have four : 4 ≤ (value.drop offset).length := by
    rw [List.length_drop]
    omega
  have reads := fun index => @stringAt_of_some value offset index
  rw [parseUsbHexWordAt]
  generalize value.drop offset = behind at four reads
  rcases behind with _ | ⟨first, _ | ⟨second, _ | ⟨third, _ | ⟨fourth, rest⟩⟩⟩⟩ <;>
    simp only [List.length_cons, List.length_nil] at four
  · omega
  · omega
  · omega
  · omega
  · have one := reads 0 rfl
    have two := reads 1 rfl
    have three := reads 2 rfl
    have last := reads 3 rfl
    simp only [add_zero] at one
    simp only [hexDigitsAt, add_assoc, one, two, three, last, Nat.reduceAdd, pure_bind, parseUsbHexWord]
    cases hexDigitValue first with
    | none => rfl
    | some a =>
        cases hexDigitValue second with
        | none => rfl
        | some b =>
            cases hexDigitValue third with
            | none => rfl
            | some c => cases hexDigitValue fourth <;> simp [ofOption]

/-- A device is stored inside the table as long as this has room. -/
theorem storeUsbDevice_eq {id : UsbDeviceId} (room : filter.length < maxUsbDeviceFilters) :
    storeUsbDevice filter id = pure (addDevice filter id) := by
  rw [storeUsbDevice, if_neg (not_lt.mpr room.le), if_pos room, addDevice]
  split <;> rfl

/-- The check of the character behind an entry. -/
theorem behindEntry_eq {α : Type} {next : Indexed α} :
    (do
      let behind ← if 9 < value.length - offset then stringAt value (offset + 9) else pure ','
      if behind ≠ ',' then throw (.failed ()) else next) =
      if 9 < value.length - offset ∧ (value.drop offset)[9]? ≠ some ',' then throw (.failed ())
      else next := by
  by_cases longer : 9 < value.length - offset
  · have ninth : (value.drop offset)[9]? = some value[offset + 9] := by
      rw [List.getElem?_drop, List.getElem?_eq_getElem]
    simp [stringAt_of_some ninth, longer]
  · simp [longer]

/-- The parser stays inside the string and the table, and is the parser on what is left. -/
theorem parseFilterEntriesAt_eq (inside : offset ≤ value.length) :
    parseFilterEntriesAt value fuel offset filter =
      ofOption (parseFilterEntries fuel (value.drop offset) filter) := by
  induction fuel generalizing offset filter with
  | zero => rfl
  | succ fuel ih =>
      rw [parseFilterEntriesAt]
      by_cases before : offset < value.length
      · have filled : value.drop offset ≠ [] := by
          rw [Ne, List.drop_eq_nil_iff]
          omega
        obtain ⟨first, others, shape⟩ := List.exists_cons_of_ne_nil filled
        rw [if_pos before, shape, parseFilterEntries, ← shape, List.length_drop]
        · by_cases refused : maxUsbDeviceFilters ≤ filter.length ∨ value.length - offset < 9
          · rw [if_pos refused, if_pos (by tauto)]
            rfl
          · rw [if_neg refused]
            simp only [not_or, not_le, not_lt] at refused
            obtain ⟨room, nine⟩ := refused
            have fourth : (value.drop offset)[4]? = some value[offset + 4] := by
              rw [List.getElem?_drop, List.getElem?_eq_getElem]
            rw [stringAt_of_some fourth, fourth, pure_bind]
            simp only [room.not_ge, nine.not_gt, false_or, ne_eq, Option.some.injEq]
            by_cases colon : value[offset + 4] = ':'
            · rw [if_neg (not_not.mpr colon), if_neg (not_not.mpr colon), behindEntry_eq,
                parseUsbHexWordAt_eq (by omega), parseUsbHexWordAt_eq (by omega), ← List.drop_drop]
              split
              · rfl
              · cases parseUsbHexWord (value.drop offset) with
                | none => rfl
                | some vendor =>
                    cases parseUsbHexWord ((value.drop offset).drop 5) with
                    | none => rfl
                    | some product =>
                        have ended : offset + 9 = value.length ↔ value.length - offset = 9 := by omega
                        have comma : offset + 10 = value.length ↔ value.length - offset = 10 := by omega
                        simp only [ofOption, pure_bind, storeUsbDevice_eq room, ended, comma]
                        split
                        · rfl
                        · split
                          · rfl
                          · rw [ih (by omega), List.drop_drop]
                            rfl
            · rw [if_pos colon, if_pos colon]
              rfl
        · simp
      · obtain rfl : offset = value.length := by omega
        rw [if_neg before, List.drop_length]
        rfl

theorem parseUsbDeviceFilterAt_eq (value : Option Text) :
    parseUsbDeviceFilterAt value = ofOption (parseUsbDeviceFilter value) := by
  cases value with
  | none => rfl
  | some value =>
      rw [parseUsbDeviceFilterAt, parseUsbDeviceFilter]
      split
      · rfl
      · split
        · rfl
        · rw [parseFilterEntriesAt_eq (Nat.zero_le _), List.drop_zero]

end Indices

/-! ### Result -/

/-- The parser accepts a text exactly when it is empty, a dash, or a short list of entries that fits the
table; the filter has the distinct entries in order, and no index leaves the string or the table. -/
theorem parse_usb_device_filter_iff (value : Text) :
    (∀ filter, parseUsbDeviceFilterAt (some value) = .ok filter ↔ Accepts value filter) ∧
      ∀ kind, parseUsbDeviceFilterAt (some value) ≠ .error (.fault kind) := by
  rw [parseUsbDeviceFilterAt_eq]
  have some_iff : ∀ {read : Option UsbDeviceFilter} {filter},
      ofOption read = .ok filter ↔ read = some filter := by
    intro read filter
    cases read <;> simp [ofOption, pure, Except.pure, throw, throwThe, MonadExceptOf.throw]
  constructor
  · intro filter
    rw [some_iff, parseUsbDeviceFilter, Accepts]
    by_cases trivially : value = [] ∨ value = ['-']
    · have none : ¬∃ ids, EntryList value ids ∧ FitsTable ids ∧ filter = ids.eraseDups := by
        rintro ⟨ids, entries, -⟩
        have long := nine_le_of_entryList entries
        rcases trivially with rfl | rfl <;> simp at long
      simp only [trivially, if_true, none, and_false, or_false, true_and, Option.some.injEq, eq_comm]
    · rw [if_neg trivially]
      simp only [trivially, false_and, false_or]
      by_cases long : 512 < value.length
      · simp only [long, if_true, reduceCtorEq, not_le.mpr long, false_and]
      · have filled : value ≠ [] := fun empty => trivially (.inl empty)
        have read := @parseFilterEntries_iff value [] value.length filter filled le_rfl
        rw [if_neg long]
        simpa [FitsTable, not_lt.mp long] using read
  · intro kind
    cases parseUsbDeviceFilter (some value) <;>
      simp [ofOption, pure, Except.pure, throw, throwThe, MonadExceptOf.throw]

end DawnShell.Launcher
