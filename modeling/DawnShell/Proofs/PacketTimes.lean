/-
Module: DawnShell.Proofs.PacketTimes
Layer: Proofs
Purpose: The times and the data of the records that `pack` makes.  A decimal time is read exactly and cut
  toward zero behind six places; the lowest time of the list is taken from every time, which keeps their
  differences as long as they fit the 64 bits that a header has for a time.
Trusted boundary: none
Main exports: DecimalTime, secondsToMicros_of_decimal, SourceTime, packetPts_iff, emittedPts, PackedRecord,
  PackedList, EmittedTimes, packet_timestamps
-/
import Mathlib.Algebra.Order.Ring.Rat
import Mathlib.Tactic.FieldSimp
import Mathlib.Tactic.Linarith
import DawnShell.Codec.AdapterCommands
import DawnShell.Lib.ExceptBind

namespace DawnShell.Adapter

open Wire

/-! ### Digits -/

section Digits

variable {first second digits fraction : Text}

/-- Digits read behind a number shift it to the left and add their own value. -/
theorem foldl_digits (start : Nat) :
    digits.foldl (fun value digit => value * 10 + (digit.toNat - '0'.toNat)) start =
      start * 10 ^ digits.length + digitsValue digits := by
  induction digits generalizing start with
  | nil => simp [digitsValue]
  | cons digit digits ih =>
      rw [digitsValue, List.foldl_cons, List.foldl_cons, ih, ih (0 * 10 + _), List.length_cons]
      ring

/-- Digits in front count for the powers of ten of those behind them. -/
theorem digitsValue_append :
    digitsValue (first ++ second) = digitsValue first * 10 ^ second.length + digitsValue second := by
  rw [digitsValue, List.foldl_append, foldl_digits]
  rfl

/-- Zeros have no value, however many they are. -/
theorem digitsValue_zeros (count : Nat) : digitsValue (List.replicate count '0') = 0 := by
  induction count with
  | zero => rfl
  | succ count ih =>
      rw [List.replicate_succ', digitsValue_append, ih]
      rfl

/-- The value of digits is below the power of ten that their number gives, which keeps a fraction below
one. -/
theorem digitsValue_lt (decimal : digits.all Char.isDigit = true) :
    digitsValue digits < 10 ^ digits.length := by
  induction digits with
  | nil => simp [digitsValue]
  | cons digit digits ih =>
      rw [List.all_cons, Bool.and_eq_true] at decimal
      have below : digit.toNat - '0'.toNat ≤ 9 := by
        have inside := decimal.1
        simp only [Char.isDigit, Bool.and_eq_true, decide_eq_true_eq, UInt32.le_iff_toNat_le] at inside
        have zero : '0'.toNat = 48 := rfl
        have nine : '9'.val.toNat = 57 := rfl
        rw [nine] at inside
        rw [zero, Char.toNat]
        omega
      have rest := ih decimal.2
      have value : digitsValue [digit] = digit.toNat - '0'.toNat := by simp [digitsValue]
      rw [← List.singleton_append, digitsValue_append, value, List.length_append, pow_add,
        List.length_singleton, pow_one]
      have scaled := Nat.mul_le_mul_right (10 ^ digits.length) below
      omega

/-- Six places of a fraction are its value in millionths, cut; zeros fill the places that are missing.
-/
theorem digitsValue_sixPlaces (decimal : fraction.all Char.isDigit = true) :
    digitsValue ((fraction ++ List.replicate 6 '0').take 6) =
      digitsValue fraction * 1000000 / 10 ^ fraction.length := by
  by_cases short : fraction.length ≤ 6
  · have places : (fraction ++ List.replicate 6 '0').take 6 =
        fraction ++ List.replicate (6 - fraction.length) '0' := by
      rw [List.take_append, List.take_of_length_le short, List.take_replicate,
        Nat.min_eq_left (Nat.sub_le ..)]
    have million : 1000000 = 10 ^ (6 - fraction.length) * 10 ^ fraction.length := by
      rw [← pow_add, Nat.sub_add_cancel short]
      rfl
    rw [places, digitsValue_append, digitsValue_zeros, List.length_replicate, add_zero, million,
      ← mul_assoc, Nat.mul_div_cancel _ (Nat.pos_of_ne_zero (by positivity))]
  · obtain ⟨more, length⟩ : ∃ more, fraction.length = 6 + more := ⟨fraction.length - 6, by omega⟩
    have places : (fraction ++ List.replicate 6 '0').take 6 = fraction.take 6 :=
      List.take_append_of_le_length (by omega)
    have cut : (fraction.drop 6).all Char.isDigit = true := by
      rw [List.all_eq_true] at decimal ⊢
      exact fun digit member => decimal digit (List.mem_of_mem_drop member)
    have rest := digitsValue_lt cut
    have whole : digitsValue fraction =
        digitsValue (fraction.take 6) * 10 ^ more + digitsValue (fraction.drop 6) := by
      rw [← List.take_append_drop 6 fraction, digitsValue_append, List.take_append_drop, List.length_drop,
        length, Nat.add_sub_cancel_left]
    rw [List.length_drop, length, Nat.add_sub_cancel_left] at rest
    rw [places, length, pow_add, whole, mul_comm _ 1000000, show (10 : Nat) ^ 6 = 1000000 from rfl,
      Nat.mul_div_mul_left _ _ (by decide), mul_comm (digitsValue (fraction.take 6)),
      Nat.mul_add_div (Nat.pos_of_ne_zero (by positivity)), Nat.div_eq_of_lt rest, add_zero]

end Digits

/-! ### Toward zero -/

section Truncate

variable {value other : ℚ}

/-- For a number that is not negative `int` is the floor. -/
theorem truncate_of_nonneg (nonneg : 0 ≤ value) : truncate value = ⌊value⌋ := by
  rw [truncate, Rat.floor_def', Int.tdiv_eq_ediv_of_nonneg (Rat.num_nonneg.mpr nonneg)]

/-- `int` goes toward zero on both sides, so that a sign may be taken out of it. -/
theorem truncate_neg : truncate (-value) = -truncate value := by
  rw [truncate, truncate, Rat.num_neg_eq_neg_num, Rat.den_neg_eq_den, Int.neg_tdiv]

theorem truncate_nonneg (nonneg : 0 ≤ value) : 0 ≤ truncate value := by
  rw [truncate_of_nonneg nonneg]
  exact Int.floor_nonneg.mpr nonneg

theorem truncate_mono (below : value ≤ other) : truncate value ≤ truncate other := by
  rcases le_total 0 value with nonneg | nonpos
  · rw [truncate_of_nonneg nonneg, truncate_of_nonneg (nonneg.trans below)]
    exact Int.floor_le_floor below
  · have negative : 0 ≤ -value := neg_nonneg.mpr nonpos
    have left : truncate value = -truncate (-value) := by rw [truncate_neg, neg_neg]
    rcases le_total 0 other with nonneg | nonpos
    · have first := truncate_nonneg negative
      have second := truncate_nonneg nonneg
      omega
    · have positive : 0 ≤ -other := neg_nonneg.mpr nonpos
      have right : truncate other = -truncate (-other) := by rw [truncate_neg, neg_neg]
      rw [left, right, truncate_of_nonneg negative, truncate_of_nonneg positive]
      exact neg_le_neg (Int.floor_le_floor (neg_le_neg below))

/-- `int` of a quotient of two naturals is their integer quotient. -/
theorem truncate_natCast_div (numerator denominator : Nat) :
    truncate ((numerator : ℚ) / denominator) = (numerator / denominator : Nat) := by
  rw [truncate_of_nonneg (by positivity), Rat.floor_natCast_div_natCast]
  rfl

theorem truncate_intCast (value : Int) : truncate value = value := by
  simp [truncate]

end Truncate

/-! ### Times -/

section Times

variable {value whole fraction : Text} {micros : Int} {negative : Bool}

/-- A time in seconds without its sign. -/
def magnitude (whole fraction : Text) : ℚ :=
  digitsValue whole + digitsValue fraction / 10 ^ fraction.length

/-- In microseconds a decimal number is one fraction over the power of ten of its digits behind the
point. -/
theorem million_magnitude :
    magnitude whole fraction * 1000000 =
      ((digitsValue whole * 1000000 * 10 ^ fraction.length + digitsValue fraction * 1000000 : Nat) : ℚ) /
        (10 ^ fraction.length : Nat) := by
  rw [magnitude]
  push_cast
  field_simp

/-- A time in microseconds, cut behind six places. -/
theorem truncate_magnitude :
    truncate (magnitude whole fraction * 1000000) =
      (digitsValue whole * 1000000 + digitsValue fraction * 1000000 / 10 ^ fraction.length : Nat) := by
  rw [million_magnitude, truncate_natCast_div, mul_comm _ (10 ^ fraction.length),
    Nat.mul_add_div (Nat.pos_of_ne_zero (by positivity))]

/-- Six places are enough for the exact time. -/
theorem magnitude_of_short (short : fraction.length ≤ 6) :
    ∃ micros : Int, magnitude whole fraction * 1000000 = micros := by
  refine ⟨(digitsValue whole * 1000000 + digitsValue fraction * 10 ^ (6 - fraction.length) : Nat), ?_⟩
  have million : (1000000 : ℚ) = 10 ^ (6 - fraction.length) * 10 ^ fraction.length := by
    rw [← pow_add, Nat.sub_add_cancel short]
    norm_num
  rw [magnitude, add_mul]
  push_cast
  congr 1
  rw [million]
  field_simp

/-- The sign of a time. -/
def signed (negative : Bool) (seconds : ℚ) : ℚ := if negative then -seconds else seconds

/-- `int` of a number with a sign is the sign with `int` of its magnitude. -/
theorem truncate_signed (seconds : ℚ) :
    truncate (signed negative seconds) = if negative then -truncate seconds else truncate seconds := by
  cases negative
  · rfl
  · exact truncate_neg

/-- A sign stays in front when its number is scaled. -/
theorem signed_mul (seconds scale : ℚ) :
    signed negative seconds * scale = signed negative (seconds * scale) := by
  cases negative
  · rfl
  · exact neg_mul ..

/-- `seconds_to_micros` on a time whose digits have been found. -/
theorem secondsToMicros_of_groups (groups : timeGroups (trim value) = some (negative, whole, fraction))
    (digits : ¬(whole = [] ∧ fraction = [])) (decimal : fraction.all Char.isDigit = true) :
    secondsToMicros value = .ok (truncate (signed negative (magnitude whole fraction) * 1000000)) := by
  have filled : digitsValue (if whole = [] then ['0'] else whole) = digitsValue whole := by
    split
    next empty => rw [empty]; rfl
    next => rfl
  rw [secondsToMicros, groups]
  simp only [if_neg digits, filled, digitsValue_sixPlaces decimal]
  rw [signed_mul, truncate_signed, truncate_magnitude]
  push_cast
  rfl

/-- A decimal time between spaces: its value in seconds, and how many places its fraction has. -/
def DecimalTime (value : Text) (seconds : ℚ) (places : Nat) : Prop :=
  ∃ before sign number after whole fraction : Text,
    value = before ++ (sign ++ number) ++ after ∧
      (∀ character ∈ before ++ after, isSpace value character = true) ∧
      (sign = [] ∨ sign = ['+'] ∨ sign = ['-']) ∧
      (whole ++ fraction).all Char.isDigit = true ∧ whole ++ fraction ≠ [] ∧
      (number = whole ∧ fraction = [] ∨ number = whole ++ '.' :: fraction) ∧
      places = fraction.length ∧
      seconds = signed (sign = ['-']) (magnitude whole fraction)

theorem isSpace_eq_false {character : Char} (low : 43 ≤ character.toNat) (high : character.toNat ≤ 57) :
    isSpace value character = false := by
  simp only [isSpace, Bool.or_eq_false_iff, Bool.and_eq_false_iff, decide_eq_false_iff_not,
    beq_eq_false_iff_ne]
  omega

/-- The codes of the digits run from 48 to 57. -/
theorem isDigit_code {character : Char} (digit : character.isDigit = true) :
    48 ≤ character.toNat ∧ character.toNat ≤ 57 := by
  have nine : '9'.val.toNat = 57 := rfl
  simp only [Char.isDigit, Bool.and_eq_true, decide_eq_true_eq, UInt32.le_iff_toNat_le, nine] at digit
  exact digit

/-- Trimming leaves what lies between the spaces at both ends, if that is without spaces and not empty.
-/
theorem trim_of_core {before core after : Text} (whole : value = before ++ core ++ after)
    (spaces : ∀ character ∈ before ++ after, isSpace value character = true)
    (solid : ∀ character ∈ core, isSpace value character = false) (filled : core ≠ []) :
    trim value = core := by
  have front : value.dropWhile (isSpace value) = core ++ after := by
    obtain ⟨first, rest, rfl⟩ := List.exists_cons_of_ne_nil filled
    have kept : (before ++ (first :: rest ++ after)).dropWhile (isSpace value) = first :: rest ++ after := by
      rw [List.dropWhile_append_of_pos fun character member =>
        spaces character (List.mem_append_left _ member)]
      exact List.dropWhile_cons_of_neg (by rw [solid first List.mem_cons_self]; simp)
    rw [← List.append_assoc, ← whole] at kept
    exact kept
  have back : (after.reverse ++ core.reverse).dropWhile (isSpace value) = core.reverse := by
    obtain ⟨last, rest, same⟩ := List.exists_cons_of_ne_nil (List.reverse_ne_nil_iff.mpr filled)
    rw [List.dropWhile_append_of_pos fun character member =>
      spaces character (List.mem_append_right _ (List.mem_reverse.mp member)), same]
    apply List.dropWhile_cons_of_neg
    rw [solid last (List.mem_reverse.mp (by rw [same]; exact List.mem_cons_self))]
    simp
  rw [trim, front, List.reverse_append, back, List.reverse_reverse]

/-- What trimming takes away at either end is spaces only. -/
theorem exists_trim : ∃ before after, value = before ++ trim value ++ after ∧
    ∀ character ∈ before ++ after, isSpace value character = true := by
  have space : ∀ {text : Text}, ∀ character ∈ text.takeWhile (isSpace value),
      isSpace value character = true := fun character member =>
      List.all_eq_true.mp List.all_takeWhile character member
  refine ⟨value.takeWhile (isSpace value),
    ((value.dropWhile (isSpace value)).reverse.takeWhile (isSpace value)).reverse, ?_, ?_⟩
  · rw [trim, List.append_assoc, ← List.reverse_append, List.takeWhile_append_dropWhile,
      List.reverse_reverse, List.takeWhile_append_dropWhile]
  · intro character member
    rcases List.mem_append.mp member with front | back
    · exact space character front
    · exact space character (List.mem_reverse.mp back)

/-- Digits in front of something that is not one. -/
theorem takeWhile_digits {digits rest : Text} (decimal : digits.all Char.isDigit = true)
    (stop : ∀ character ∈ rest.head?, character.isDigit = false) :
    (digits ++ rest).takeWhile Char.isDigit = digits ∧ (digits ++ rest).dropWhile Char.isDigit = rest := by
  rw [List.all_eq_true] at decimal
  rw [List.takeWhile_append_of_pos decimal, List.dropWhile_append_of_pos decimal]
  cases rest with
  | nil => simp
  | cons character rest =>
      have other := stop character rfl
      simp [other]

/-- The groups of the pattern on a decimal number are its sign, its whole part and its fraction, each of
which may be missing but not both numbers. -/
theorem timeGroups_of_number {sign number : Text} (signs : sign = [] ∨ sign = ['+'] ∨ sign = ['-'])
    (decimal : (whole ++ fraction).all Char.isDigit = true) (filled : whole ++ fraction ≠ [])
    (form : number = whole ∧ fraction = [] ∨ number = whole ++ '.' :: fraction) :
    timeGroups (sign ++ number) = some (decide (sign = ['-']), whole, fraction) := by
  rw [List.all_append, Bool.and_eq_true] at decimal
  have unsigned : number.head? ≠ some '+' ∧ number.head? ≠ some '-' := by
    cases whole with
    | nil =>
        rcases form with ⟨-, empty⟩ | dot
        · exact absurd empty filled
        · rw [dot]
          simp
    | cons digit digits =>
        have code := isDigit_code (List.all_eq_true.mp decimal.1 digit List.mem_cons_self)
        have head : number.head? = some digit := by
          rcases form with ⟨same, -⟩ | same <;> rw [same] <;> rfl
        rw [head]
        constructor <;> rintro ⟨⟩ <;> revert code <;> decide
  have split : number.takeWhile Char.isDigit = whole ∧
      (number.dropWhile Char.isDigit = [] ∧ fraction = [] ∨
        number.dropWhile Char.isDigit = '.' :: fraction) := by
    rcases form with ⟨rfl, empty⟩ | rfl
    · have parts := @takeWhile_digits number [] decimal.1 (by simp)
      rw [List.append_nil] at parts
      exact ⟨parts.1, .inl ⟨parts.2, empty⟩⟩
    · have parts := @takeWhile_digits whole ('.' :: fraction) decimal.1 (by simp)
      exact ⟨parts.1, .inr parts.2⟩
  have rest : (if (sign ++ number).head? = some '+' ∨ (sign ++ number).head? = some '-' then
      (sign ++ number).tail else sign ++ number) = number := by
    rcases signs with rfl | rfl | rfl
    · simp [unsigned]
    · rfl
    · rfl
  have minus : (sign ++ number).head? = some '-' ↔ sign = ['-'] := by
    rcases signs with rfl | rfl | rfl
    · simp [unsigned]
    · simp
    · simp
  rw [timeGroups]
  simp only [rest]
  simp only [minus, split.1]
  rcases split.2 with ⟨behind, rfl⟩ | behind
  · rw [behind]
  · rw [behind]
    exact if_pos decimal.2

/-- A decimal time is read exactly and cut toward zero behind six places; with at most six places
nothing is cut. -/
theorem secondsToMicros_of_decimal {seconds : ℚ} {places : Nat} (time : DecimalTime value seconds places) :
    secondsToMicros value = .ok (truncate (seconds * 1000000)) ∧
      (places ≤ 6 → ∃ micros : Int, seconds * 1000000 = micros) := by
  obtain ⟨before, sign, number, after, whole, fraction, same, spaces, signs, decimal, filled, form, rfl,
    rfl⟩ := time
  have solid : ∀ character ∈ sign ++ number, isSpace value character = false := by
    have digits := List.all_eq_true.mp decimal
    have code : ∀ character ∈ number, 43 ≤ character.toNat ∧ character.toNat ≤ 57 := by
      intro character member
      have known : character ∈ whole ++ fraction ∨ character = '.' := by
        rcases form with ⟨rfl, rfl⟩ | rfl
        · exact .inl (List.mem_append_left _ member)
        · simp only [List.mem_append, List.mem_cons] at member ⊢
          tauto
      rcases known with digit | rfl
      · have := isDigit_code (digits character digit)
        omega
      · decide
    intro character member
    rcases List.mem_append.mp member with here | there
    · rcases signs with rfl | rfl | rfl
      · cases here
      · rw [List.mem_singleton.mp here]
        exact isSpace_eq_false (by decide) (by decide)
      · rw [List.mem_singleton.mp here]
        exact isSpace_eq_false (by decide) (by decide)
    · exact isSpace_eq_false (code character there).1 (code character there).2
  have some : sign ++ number ≠ [] := by
    intro none
    obtain ⟨-, rfl⟩ := List.append_eq_nil_iff.mp none
    rcases form with ⟨rfl, rfl⟩ | dot
    · exact filled rfl
    · simp at dot
  have groups : timeGroups (trim value) = .some (decide (sign = ['-']), whole, fraction) := by
    rw [trim_of_core same spaces solid some]
    exact timeGroups_of_number signs decimal filled form
  rw [List.all_append, Bool.and_eq_true] at decimal
  rw [Ne, List.append_eq_nil_iff] at filled
  refine ⟨secondsToMicros_of_groups groups filled decimal.2, fun short => ?_⟩
  obtain ⟨micros, precise⟩ := @magnitude_of_short whole fraction short
  rw [signed_mul, precise]
  exact ⟨if decide (sign = ['-']) then -micros else micros, by
    cases decide (sign = ['-']) <;> simp [signed]⟩

/-- The pattern finds its groups only in a decimal number: a sign if there is one, and then digits with
at most one point among them. -/
theorem number_of_timeGroups {text : Text} (groups : timeGroups text = some (negative, whole, fraction)) :
    ∃ sign number, text = sign ++ number ∧ (sign = [] ∨ sign = ['+'] ∨ sign = ['-']) ∧
      (whole ++ fraction).all Char.isDigit = true ∧
      (number = whole ∧ fraction = [] ∨ number = whole ++ '.' :: fraction) := by
  obtain ⟨sign, number, same, signs, rest⟩ : ∃ sign number : Text, text = sign ++ number ∧
      (sign = [] ∨ sign = ['+'] ∨ sign = ['-']) ∧
      (if text.head? = some '+' ∨ text.head? = some '-' then text.tail else text) = number := by
    by_cases signed : text.head? = some '+' ∨ text.head? = some '-'
    · refine ⟨text.take 1, text.tail, ?_, ?_, if_pos signed⟩
      · rw [← List.drop_one, List.take_append_drop]
      · rcases signed with plus | minus
        · obtain ⟨rest, rfl⟩ := List.head?_eq_some_iff.mp plus
          exact .inr (.inl rfl)
        · obtain ⟨rest, rfl⟩ := List.head?_eq_some_iff.mp minus
          exact .inr (.inr rfl)
    · exact ⟨[], text, rfl, .inl rfl, if_neg signed⟩
  refine ⟨sign, number, same, signs, ?_⟩
  rw [timeGroups] at groups
  simp only [rest] at groups
  have parts := List.takeWhile_append_dropWhile (p := Char.isDigit) (l := number)
  have digits : (number.takeWhile Char.isDigit).all Char.isDigit = true := List.all_takeWhile
  split at groups
  next behind =>
    cases groups
    rw [behind, List.append_nil] at parts
    exact ⟨by rwa [List.append_nil], .inl ⟨parts.symm, rfl⟩⟩
  next more behind =>
    split at groups
    next decimal =>
      cases groups
      rw [behind] at parts
      exact ⟨by rw [List.all_append, digits, decimal, Bool.and_true], .inr parts.symm⟩
    next => cases groups
  next => cases groups

theorem decimal_of_secondsToMicros (accepted : secondsToMicros value = .ok micros) :
    ∃ seconds places, DecimalTime value seconds places := by
  rw [secondsToMicros] at accepted
  split at accepted
  · cases accepted
  next negative whole fraction groups =>
    simp only at accepted
    split at accepted
    · cases accepted
    next filled =>
      obtain ⟨before, after, same, spaces⟩ := @exists_trim value
      obtain ⟨sign, number, parts, signs, decimal, form⟩ := number_of_timeGroups groups
      rw [parts] at same
      refine ⟨_, _, before, sign, number, after, whole, fraction, same, spaces, signs, decimal, ?_, form,
        rfl, rfl⟩
      rwa [Ne, List.append_eq_nil_iff]

end Times

/-! ### Records -/

section Records

variable {packet : Json} {packets : List Json} {index : Nat} {frameRate : Text} {annexB record : Bytes}
  {shift time : Int} {times : List Int} {records : List Bytes}

/-- The times of a list belong to its packets, in order: each is the time of the packet at the same
place, with that place as its frame index. -/
theorem of_packetTimes (read : packetTimes frameRate index packets = .ok times) :
    times.length = packets.length ∧ ∀ (place : Nat) packet time, packets[place]? = some packet →
      times[place]? = some time → packetPts packet (index + place) frameRate = .ok time := by
  induction packets generalizing index times with
  | nil =>
      cases read
      simp
  | cons packet packets ih =>
      obtain ⟨time, first, rest⟩ := Except.ok_of_bind read
      obtain ⟨others, further, same⟩ := Except.ok_of_bind rest
      cases same
      obtain ⟨length, each⟩ := ih further
      refine ⟨by rw [List.length_cons, List.length_cons, length], ?_⟩
      intro place found value at_ reads
      cases place with
      | zero =>
          cases at_
          cases reads
          exact first
      | succ place =>
          rw [← Nat.add_assoc, Nat.add_right_comm]
          exact each place found value at_ reads

/-- The time of a packet: its `pts_time`, where that is missing its `dts_time`, and where both are missing
that of the frame with its index at the frame rate. -/
inductive SourceTime (frameRate : Text) (index : Nat) (packet : Json) : Int → Prop where
  | presentation {text : Text} {seconds : ℚ} {places : Nat}
      (present : packet.field "pts_time".toList = .ok (.text text)) (available : text ≠ "N/A".toList)
      (decimal : DecimalTime text seconds places) :
      SourceTime frameRate index packet (truncate (seconds * 1000000))
  | decoding {missing : Json} {text : Text} {seconds : ℚ} {places : Nat}
      (absent : packet.field "pts_time".toList = .ok missing) (unavailable : missing.unavailable = true)
      (present : packet.field "dts_time".toList = .ok (.text text)) (available : text ≠ "N/A".toList)
      (decimal : DecimalTime text seconds places) :
      SourceTime frameRate index packet (truncate (seconds * 1000000))
  | counted {missing other : Json} {numerator denominator : ℚ}
      (absent : packet.field "pts_time".toList = .ok missing) (unavailable : missing.unavailable = true)
      (absentToo : packet.field "dts_time".toList = .ok other) (unavailableToo : other.unavailable = true)
      (rate : splitRate frameRate = .ok (numerator, denominator)) :
      SourceTime frameRate index packet (truncate (index * 1000000 * denominator / numerator))

/-- A time that is accepted is that of its decimal text. -/
theorem truncate_of_secondsToMicros {text : Text} (accepted : secondsToMicros text = .ok time) :
    ∃ seconds places, DecimalTime text seconds places ∧ truncate (seconds * 1000000) = time := by
  obtain ⟨seconds, places, decimal⟩ := decimal_of_secondsToMicros accepted
  refine ⟨seconds, places, decimal, ?_⟩
  cases (secondsToMicros_of_decimal decimal).1.symm.trans accepted
  rfl

theorem available_text {text : Text} (available : text ≠ "N/A".toList) :
    ¬(Json.text text).unavailable = true := by
  simpa [Json.unavailable] using available

/-- `packet_pts` finds the time of a packet: its presentation time, or else its decoding time, or else
the time of its index at the frame rate. -/
theorem packetPts_iff : packetPts packet index frameRate = .ok time ↔
    SourceTime frameRate index packet time := by
  constructor
  · intro read
    obtain ⟨presented, first, rest⟩ := Except.ok_of_bind read
    dsimp only at rest
    by_cases missing : presented.unavailable = true
    · rw [if_pos missing] at rest
      obtain ⟨value, second, rest⟩ := Except.ok_of_bind rest
      by_cases both : value.unavailable = true
      · rw [if_pos both] at rest
        obtain ⟨⟨numerator, denominator⟩, rate, same⟩ := Except.ok_of_bind rest
        cases same
        exact .counted first missing second both rate
      · rw [if_neg both] at rest
        cases value with
        | text text =>
            obtain ⟨seconds, places, decimal, rfl⟩ := truncate_of_secondsToMicros rest
            exact .decoding first missing second (by simpa [Json.unavailable] using both) decimal
        | null | array | object => cases rest
    · rw [if_neg missing] at rest
      replace rest := (if_neg missing).symm.trans rest
      cases presented with
      | text text =>
          obtain ⟨seconds, places, decimal, rfl⟩ := truncate_of_secondsToMicros rest
          exact .presentation first (by simpa [Json.unavailable] using missing) decimal
      | null | array | object => cases rest
  · intro source
    cases source with
    | presentation present available decimal =>
        simp only [packetPts, present, bind, Except.bind, if_neg (available_text available)]
        exact (secondsToMicros_of_decimal decimal).1
    | decoding absent unavailable present available decimal =>
        simp only [packetPts, absent, bind, Except.bind, if_pos unavailable, present,
          if_neg (available_text available)]
        exact (secondsToMicros_of_decimal decimal).1
    | counted absent unavailable absentToo unavailableToo rate =>
        simp only [packetPts, absent, bind, Except.bind, if_pos unavailable, absentToo,
          if_pos unavailableToo, rate]

/-- The time that the header of a record has. -/
def emittedPts (record : Bytes) : Nat := (parseRecordHeader (record.take recordSize)).1

/-- The header of a record keeps 64 bits of the time. -/
theorem recordHeader_mod (pts flags size : Nat) :
    recordHeader pts flags size = recordHeader (pts % 2 ^ 64) flags size := by
  have word : (256 : Nat) ^ 4 = 4294967296 := rfl
  have high : pts % 2 ^ 64 / 4294967296 = pts / 4294967296 % 4294967296 := by omega
  have low : pts % 2 ^ 64 - pts % 2 ^ 64 / 4294967296 * 4294967296 =
      pts - pts / 4294967296 * 4294967296 := by omega
  rw [recordHeader, recordHeader, low, high]
  simp only [BigEndian.encodeFields]
  rw [← word, BigEndian.encode_mod, word]

/-- Whatever its bytes are, a header has 64 bits for the time. -/
theorem emittedPts_lt (record : Bytes) : emittedPts record < 2 ^ 64 := by
  have word : ∀ bytes : Bytes, BigEndian.decode (bytes.take 4) < 4294967296 := by
    intro bytes
    refine Nat.lt_of_lt_of_le (BigEndian.decode_lt _) ?_
    calc 256 ^ (bytes.take 4).length ≤ 256 ^ 4 :=
          Nat.pow_le_pow_right (by decide) (List.length_take_le 4 bytes)
      _ = 4294967296 := rfl
  have high := word (record.take recordSize)
  have low := word ((record.take recordSize).drop 4)
  rw [emittedPts, parseRecordHeader]
  simp only [BigEndian.fields]
  omega

/-- The record of a packet: a header with its size, and the range of the Annex-B file. -/
structure PackedRecord (annexB : Bytes) (index : Nat) (packet : Json) (record : Bytes) : Prop where
  exists_range : ∃ position size : Nat, packetField packet "pos".toList index = .ok position ∧
    packetField packet "size".toList index = .ok size ∧ 0 < size ∧ position + size ≤ annexB.length ∧
    (parseRecordHeader (record.take recordSize)).2 = (0, size) ∧
    record.drop recordSize = (annexB.drop position).take size

/-- A record that is printed has the range of its packet and 64 bits of its shifted time. -/
theorem of_packPacket (packed : packPacket annexB shift index packet time = .ok record) :
    PackedRecord annexB index packet record ∧
      (emittedPts record : Int) = (time - shift) % 2 ^ 64 := by
  obtain ⟨position, first, rest⟩ := Except.ok_of_bind packed
  obtain ⟨size, second, rest⟩ := Except.ok_of_bind rest
  split at rest
  · cases rest
  next ranged =>
    split at rest
    · cases rest
    next inside =>
      simp only at rest
      split at rest
      · cases rest
      next whole =>
        split at rest
        · cases rest
        next nonneg =>
          cases rest
          simp only [not_or, not_lt, not_le] at ranged inside nonneg
          obtain ⟨position, rfl⟩ := Int.eq_ofNat_of_zero_le ranged.1
          obtain ⟨size, rfl⟩ := Int.eq_ofNat_of_zero_le ranged.2.1.le
          obtain ⟨pts, same⟩ := Int.eq_ofNat_of_zero_le nonneg
          have read : parseRecordHeader ((recordHeader pts 0 size ++
              (annexB.drop position).take size).take recordSize) = (pts % 2 ^ 64, 0, size) := by
            rw [recordHeader_mod]
            apply parseRecordHeader_record (Nat.mod_lt _ (by decide))
            rw [maxMediaPayload, recordSize] at ranged
            rw [maxMediaPayload]
            omega
          simp only [same, Int.toNat_natCast]
          refine ⟨⟨position, size, first, second, by omega, by omega, by rw [read], ?_⟩, ?_⟩
          · exact List.drop_left' length_recordHeader
          · rw [emittedPts, read]
            norm_cast

/-- The records of a list belong to its packets, in order; the time in the header of each is the shifted
time modulo `2 ^ 64`. -/
theorem of_packRecords {timed : List (Json × Int)}
    (packed : packRecords annexB shift index timed = .ok records) :
    records.length = timed.length ∧ ∀ (place : Nat) packet time record,
      timed[place]? = some (packet, time) → records[place]? = some record →
        PackedRecord annexB (index + place) packet record ∧
          (emittedPts record : Int) = (time - shift) % 2 ^ 64 := by
  induction timed generalizing index records with
  | nil =>
      cases packed
      simp
  | cons first timed ih =>
      obtain ⟨record, done, rest⟩ := Except.ok_of_bind packed
      obtain ⟨others, further, same⟩ := Except.ok_of_bind rest
      cases same
      obtain ⟨length, each⟩ := ih further
      refine ⟨by rw [List.length_cons, List.length_cons, length], ?_⟩
      intro place packet time found at_ reads
      cases place with
      | zero =>
          cases at_
          cases reads
          exact of_packPacket done
      | succ place =>
          rw [← Nat.add_assoc, Nat.add_right_comm]
          exact each place packet time found at_ reads

theorem shift_spec {packing : Packing} (some : packing.times ≠ []) :
    packing.shift ∈ packing.times ∧ ∀ time ∈ packing.times, packing.shift ≤ time := by
  obtain ⟨lowest, found⟩ := Option.isSome_iff_exists.mp (List.isSome_min?_of_ne_nil some)
  rw [Packing.shift, found]
  exact List.min?_eq_some_iff.mp found

/-- The records of a packet list: the times of the input packets, and the records with the data of the
Annex-B packets, all in the order of the list. -/
structure PackedList (frameRate : Text) (inputPackets rawPackets : List Json) (annexB : Bytes)
    (times : List Int) (records : List Bytes) : Prop where
  filled : inputPackets ≠ []
  rawCount : rawPackets.length = inputPackets.length
  timeCount : times.length = inputPackets.length
  recordCount : records.length = inputPackets.length
  source : ∀ (place : Nat) packet time, inputPackets[place]? = some packet → times[place]? = some time →
    SourceTime frameRate place packet time
  data : ∀ (place : Nat) packet record, rawPackets[place]? = some packet →
    records[place]? = some record → PackedRecord annexB place packet record

/-- The packets and the rate determine the times. -/
theorem packetTimes_of_source (count : times.length = packets.length)
    (source : ∀ (place : Nat) packet time, packets[place]? = some packet → times[place]? = some time →
      SourceTime frameRate (index + place) packet time) :
    packetTimes frameRate index packets = .ok times := by
  induction packets generalizing index times with
  | nil =>
      rw [List.length_nil, List.length_eq_zero_iff] at count
      rw [count]
      rfl
  | cons packet packets ih =>
      obtain ⟨time, times, rfl⟩ := List.exists_cons_of_length_eq_add_one count
      have first := packetPts_iff.mpr (source 0 packet time rfl rfl)
      have others := @ih (index + 1) times (Nat.succ_inj.mp count) fun place packet time here there => by
        have known := source (place + 1) packet time here there
        rwa [Nat.add_comm place, ← Nat.add_assoc] at known
      rw [Nat.add_zero] at first
      rw [packetTimes, first, others]
      rfl

theorem PackedList.packetTimes_eq {inputPackets rawPackets : List Json}
    (list : PackedList frameRate inputPackets rawPackets annexB times records) :
    packetTimes frameRate 0 inputPackets = .ok times := by
  apply packetTimes_of_source list.timeCount
  intro place packet time here there
  rw [Nat.zero_add]
  exact list.source place packet time here there

/-- The times of records, which are not negative in a header: they begin at zero and differ as the source
times do. -/
structure EmittedTimes (times : List Int) (records : List Bytes) : Prop where
  lowest : ∃ record ∈ records, emittedPts record = 0
  differences : ∀ (place other : Nat) time record otherTime otherRecord,
    times[place]? = some time → records[place]? = some record →
      times[other]? = some otherTime → records[other]? = some otherRecord →
        (emittedPts record : Int) - emittedPts otherRecord = time - otherTime

/-- What `pack` has read when it begins to print: both packet lists, which are of one length and not
empty, the times and the stream. -/
theorem of_preparePack {inputs : Inputs} {inputPath rawPath annexBPath : Text} {packing : Packing}
    (prepared : preparePack inputs inputPath rawPath annexBPath frameRate = .ok packing) :
    ∃ inputValue rawValue inputPackets, inputs.json inputPath = .ok inputValue ∧
      inputs.json rawPath = .ok rawValue ∧ loadPackets inputValue = .ok inputPackets ∧
      loadPackets rawValue = .ok packing.rawPackets ∧ inputs.contents annexBPath = some packing.annexB ∧
      inputPackets ≠ [] ∧ packing.rawPackets.length = inputPackets.length ∧
      packetTimes frameRate 0 inputPackets = .ok packing.times := by
  obtain ⟨inputValue, inputRead, rest⟩ := Except.ok_of_bind prepared
  obtain ⟨inputPackets, inputLoaded, rest⟩ := Except.ok_of_bind rest
  obtain ⟨rawValue, rawRead, rest⟩ := Except.ok_of_bind rest
  obtain ⟨rawPackets, rawLoaded, rest⟩ := Except.ok_of_bind rest
  split at rest
  · cases rest
  next counted =>
    split at rest
    · cases rest
    next annexB found =>
      obtain ⟨times, read, same⟩ := Except.ok_of_bind rest
      cases same
      rw [not_or, List.length_eq_zero_iff, not_not] at counted
      exact ⟨inputValue, rawValue, inputPackets, inputRead, rawRead, inputLoaded, rawLoaded, found,
        counted.1, counted.2.symm, read⟩

theorem packedList_of_packing {inputPackets : List Json} {packing : Packing}
    (filled : inputPackets ≠ []) (counted : packing.rawPackets.length = inputPackets.length)
    (read : packetTimes frameRate 0 inputPackets = .ok packing.times)
    (packed : packRecords packing.annexB packing.shift 0 (packing.rawPackets.zip packing.times) =
      .ok records) :
    PackedList frameRate inputPackets packing.rawPackets packing.annexB packing.times records ∧
      ∀ (place : Nat) time record, packing.times[place]? = some time → records[place]? = some record →
        (emittedPts record : Int) = (time - packing.shift) % 2 ^ 64 := by
  obtain ⟨timeCount, source⟩ := of_packetTimes read
  obtain ⟨recordCount, data⟩ := of_packRecords packed
  rw [List.length_zip, counted, timeCount, Nat.min_self] at recordCount
  constructor
  · refine ⟨filled, counted, timeCount, recordCount, ?_, ?_⟩
    · intro place packet time first second
      have found := source place packet time first second
      rw [Nat.zero_add] at found
      exact packetPts_iff.mp found
    · intro place packet record first second
      have within : place < packing.times.length := by
        rw [timeCount, ← counted]
        exact (List.getElem?_eq_some_iff.mp first).1
      have zipped : (packing.rawPackets.zip packing.times)[place]? =
          some (packet, packing.times[place]) :=
        List.getElem?_zip_eq_some.mpr ⟨first, List.getElem?_eq_getElem within⟩
      have known := (data place packet _ record zipped second).1
      rwa [Nat.zero_add] at known
  · intro place time record first second
    have within : place < packing.rawPackets.length := by
      rw [counted, ← timeCount]
      exact (List.getElem?_eq_some_iff.mp first).1
    exact (data place _ time record
      (List.getElem?_zip_eq_some.mpr ⟨List.getElem?_eq_getElem within, first⟩) second).2

/-- Shifted times of less than 64 bits are the times of the records: nothing is lost in the headers, so
that the lowest is zero and the differences are kept. -/
theorem emittedTimes_of_bounded {packing : Packing} (filled : packing.times ≠ [])
    (counted : records.length = packing.times.length)
    (emitted : ∀ (place : Nat) time record, packing.times[place]? = some time →
      records[place]? = some record → (emittedPts record : Int) = (time - packing.shift) % 2 ^ 64)
    (bounded : ∀ time ∈ packing.times, ∀ other ∈ packing.times, time - other < 2 ^ 64) :
    EmittedTimes packing.times records := by
  obtain ⟨member, lowest⟩ := shift_spec filled
  have shifted : ∀ (place : Nat) time record, packing.times[place]? = some time →
      records[place]? = some record → (emittedPts record : Int) = time - packing.shift := by
    intro place time record first second
    have among := List.mem_of_getElem? first
    rw [emitted place time record first second]
    exact Int.emod_eq_of_lt (sub_nonneg.mpr (lowest time among)) (bounded time among _ member)
  refine ⟨?_, ?_⟩
  · obtain ⟨place, here⟩ := List.mem_iff_getElem?.mp member
    have within : place < records.length := by
      rw [counted]
      exact (List.getElem?_eq_some_iff.mp here).1
    have zero := shifted place _ _ here (List.getElem?_eq_getElem within)
    rw [sub_self] at zero
    exact ⟨_, List.getElem_mem within, by exact_mod_cast zero⟩
  · intro place other time record otherTime otherRecord first second third fourth
    rw [shifted place time record first second, shifted other otherTime otherRecord third fourth]
    omega

end Records

/-! ### Result -/

/-- A decimal time that is accepted is read exactly, cut toward zero behind six places, in order; and the
records of a packet list that `pack` accepts have the ranges of the Annex-B file as their data and, where
the source times lie less than 64 bits apart, times that begin at zero with the differences of the source
times. -/
theorem packet_timestamps :
    (∀ value micros, secondsToMicros value = .ok micros →
      (∃ seconds places, DecimalTime value seconds places) ∧
        ∀ seconds places, DecimalTime value seconds places →
          micros = truncate (seconds * 1000000) ∧ (places ≤ 6 → (micros : ℚ) = seconds * 1000000)) ∧
    (∀ first second firstMicros secondMicros firstSeconds secondSeconds firstPlaces secondPlaces,
      secondsToMicros first = .ok firstMicros → secondsToMicros second = .ok secondMicros →
        DecimalTime first firstSeconds firstPlaces → DecimalTime second secondSeconds secondPlaces →
          firstSeconds ≤ secondSeconds → firstMicros ≤ secondMicros) ∧
    ∀ inputs inputPath rawPath annexBPath frameRate outputPath delivery,
      commandPack inputs [inputPath, rawPath, annexBPath, frameRate, outputPath] = .ok delivery →
        ∃ inputValue rawValue inputPackets rawPackets annexB times records,
          inputs.json inputPath = .ok inputValue ∧ loadPackets inputValue = .ok inputPackets ∧
            inputs.json rawPath = .ok rawValue ∧ loadPackets rawValue = .ok rawPackets ∧
            inputs.contents annexBPath = some annexB ∧
            PackedList frameRate inputPackets rawPackets annexB times records ∧
            ((∀ time ∈ times, ∀ other ∈ times, time - other < 2 ^ 64) → EmittedTimes times records) ∧
            delivery.file = (binaryOutput outputPath records.flatten).file ∧
            ∃ summary,
              delivery.stdout = (binaryOutput outputPath records.flatten).stdout ++ summary := by
  refine ⟨?_, ?_, ?_⟩
  · intro value micros accepted
    refine ⟨decimal_of_secondsToMicros accepted, fun seconds places time => ?_⟩
    obtain ⟨read, precise⟩ := secondsToMicros_of_decimal time
    cases read.symm.trans accepted
    refine ⟨rfl, fun short => ?_⟩
    obtain ⟨micros, same⟩ := precise short
    rw [same, truncate_intCast]
  · intro first second firstMicros secondMicros firstSeconds secondSeconds _ _ read other time
      otherTime below
    cases (secondsToMicros_of_decimal time).1.symm.trans read
    cases (secondsToMicros_of_decimal otherTime).1.symm.trans other
    exact truncate_mono (by linarith)
  · intro inputs inputPath rawPath annexBPath frameRate outputPath delivery succeeded
    obtain ⟨packing, prepared, rest⟩ := Except.ok_of_bind succeeded
    obtain ⟨records, packed, same⟩ := Except.ok_of_bind rest
    cases same
    obtain ⟨inputValue, rawValue, inputPackets, inputRead, rawRead, inputLoaded, rawLoaded, found, filled,
      counted, read⟩ := of_preparePack prepared
    obtain ⟨list, emitted⟩ := packedList_of_packing filled counted read packed
    have timed : packing.times ≠ [] := by
      rw [← List.length_pos_iff, list.timeCount, List.length_pos_iff]
      exact filled
    exact ⟨inputValue, rawValue, inputPackets, packing.rawPackets, packing.annexB, packing.times,
      records, inputRead, inputLoaded, rawRead, rawLoaded, found, list,
      emittedTimes_of_bounded timed (list.recordCount.trans list.timeCount.symm) emitted, rfl, _, rfl⟩

/-- Packets with some fields each. -/
def packetsOf (packets : List (List (String × String))) : List Json :=
  packets.map fun fields => .object (fields.map fun field => (field.1.toList, .text field.2.toList))

/-- Packets of an input, as many packets of an Annex-B file, and the file with a byte for each of them. -/
def packInputs (packets rawPackets : List (List (String × String))) : Inputs where
  json path := .ok (.object [("packets".toList,
    .array (packetsOf (if path = "in".toList then packets else rawPackets)))])
  contents _ := some (packets.map fun _ => 0)

/-- The names of the files of a run, and the rate. -/
def packArguments : List Text :=
  ["in".toList, "raw".toList, "h264".toList, "30/1".toList, "out".toList]

/-- A packet with its time, one with its decoding time alone, and one without a time. -/
def fallbackPackets : List (List (String × String)) :=
  [[("pts_time", "1.5")], [("pts_time", "N/A"), ("dts_time", "-.5")], []]

def fallbackRanges : List (List (String × String)) :=
  [[("pos", "0"), ("size", "1")], [("pos", "1"), ("size", "1")], [("pos", "2"), ("size", "1")]]

/-- The times 1500000, -500000 and 66666, which is that of the third frame, are moved up to zero. -/
theorem packet_timestamps_fallback : ∃ (delivery : Delivery) (records : List Bytes),
    commandPack (packInputs fallbackPackets fallbackRanges) packArguments = .ok delivery ∧
      delivery.file = some records.flatten ∧ records.map emittedPts = [2000000, 0, 566666] := by
  have accepted : (commandPack (packInputs fallbackPackets fallbackRanges) packArguments).isOk = true := by
    decide +kernel
  obtain ⟨delivery, succeeded⟩ := Except.exists_of_isOk accepted
  obtain ⟨inputValue, rawValue, inputPackets, rawPackets, annexB, times, records, inputRead, inputLoaded, -,
    -, -, list, emitted, file, -⟩ := packet_timestamps.2.2 _ _ _ _ _ _ _ succeeded
  cases inputRead
  cases inputLoaded
  have same : times = [1500000, -500000, 66666] := by
    have known : packetTimes "30/1".toList 0 (packetsOf fallbackPackets) =
        .ok [1500000, -500000, 66666] := by decide +kernel
    exact Except.ok.inj (list.packetTimes_eq.symm.trans known)
  subst same
  obtain ⟨lowest, differences⟩ := emitted (by decide)
  obtain ⟨first, second, third, rfl⟩ := List.length_eq_three.mp list.recordCount
  have one := differences 0 1 _ _ _ _ rfl rfl rfl rfl
  have three := differences 2 1 _ _ _ _ rfl rfl rfl rfl
  have zero : emittedPts second = 0 := by
    obtain ⟨record, member, zero⟩ := lowest
    simp only [List.mem_cons, List.not_mem_nil, or_false] at member
    rcases member with rfl | rfl | rfl
    · omega
    · exact zero
    · omega
  refine ⟨delivery, _, succeeded, file, ?_⟩
  rw [zero] at one three
  simp only [List.map_cons, List.map_nil, zero, List.cons.injEq, and_true, true_and]
  omega

/-- Two packets of which the second comes 2 to the 64th microseconds behind the first. -/
def distantPackets : List (List (String × String)) :=
  [[("pts_time", "0")], [("pts_time", "18446744073709.551616")]]

/-- Both times are 0 in the records, because a header has 64 bits for them: the second packet is `2 ^
64` microseconds behind the first. -/
theorem packet_times_wrap : ¬∀ (inputs : Inputs) (inputPath rawPath annexBPath frameRate outputPath : Text)
    (delivery : Delivery),
    commandPack inputs [inputPath, rawPath, annexBPath, frameRate, outputPath] = .ok delivery →
      ∃ inputValue rawValue inputPackets rawPackets annexB times records,
        inputs.json inputPath = .ok inputValue ∧ loadPackets inputValue = .ok inputPackets ∧
          inputs.json rawPath = .ok rawValue ∧ loadPackets rawValue = .ok rawPackets ∧
          inputs.contents annexBPath = some annexB ∧
          PackedList frameRate inputPackets rawPackets annexB times records ∧
          EmittedTimes times records ∧
          delivery.file = (binaryOutput outputPath records.flatten).file := by
  intro every
  have accepted : (commandPack (packInputs distantPackets (fallbackRanges.take 2))
      packArguments).isOk = true := by decide +kernel
  obtain ⟨delivery, succeeded⟩ := Except.exists_of_isOk accepted
  obtain ⟨inputValue, rawValue, inputPackets, rawPackets, annexB, times, records, inputRead, inputLoaded, -,
    -, -, list, emitted, -⟩ := every _ _ _ _ _ _ _ succeeded
  cases inputRead
  cases inputLoaded
  have same : times = [0, 2 ^ 64] := by
    have known : packetTimes "30/1".toList 0 (packetsOf distantPackets) = .ok [0, 2 ^ 64] := by
      decide +kernel
    exact Except.ok.inj (list.packetTimes_eq.symm.trans known)
  subst same
  obtain ⟨first, second, rfl⟩ := List.length_eq_two.mp list.recordCount
  have apart := emitted.differences 1 0 _ _ _ _ rfl rfl rfl rfl
  have below := emittedPts_lt second
  omega

end DawnShell.Adapter
