/-
Module: DawnShell.Lib.CStrings
Layer: Lib
Purpose: Strings of the C language and the functions of its library that take them apart: the search for a
  character from either end, the tokens of a text, bounded copies, and decimal numbers as they are printed
  and read.  A byte is written as the character with its number.
Trusted boundary: the documented behaviour of `strchr`, `strrchr`, `strtok_r` with one delimiter,
  `snprintf` of a string or a decimal number, and `strtoull`, `strtoll` and `atoi` with base 10, where
  `long` has 64 bits
Main exports: CString.terminated, CString.strchr, CString.strrchr, CString.strtok, CString.CArray,
  CString.CArray.print, CString.decimal, CString.strtoull, CString.strtoll, CString.atoi,
  CString.strtok_lines, CString.strtok_words, CString.strtoull_of_all, CString.strtoull_decimal,
  CString.strtoll_decimal
-/
import Mathlib.Data.List.Basic
import Mathlib.Tactic.Ring
import Mathlib.Data.List.TakeWhile

namespace CString

/-- The zero byte. -/
def nul : Char := Char.ofNat 0

/-- The string in a buffer: what stands before its first zero byte. -/
def terminated (buffer : List Char) : List Char := buffer.takeWhile (· != nul)

/-! ### Searching and cutting -/

/-- What stands before the first place `strchr` finds and what stands behind it. -/
def strchr (wanted : Char) (text : List Char) : Option (List Char × List Char) :=
  match text.dropWhile (· != wanted) with
  | [] => none
  | _ :: behind => some (text.takeWhile (· != wanted), behind)

/-- What stands behind the last place, which `strrchr` finds. -/
def strrchr (wanted : Char) (text : List Char) : Option (List Char) :=
  if wanted ∈ text then some (text.reverse.takeWhile (· != wanted)).reverse else none

/-- The tokens `strtok_r` finds between the delimiters. -/
def strtok (delimiter : Char) (text : List Char) : List (List Char) :=
  (text.splitOnP (· == delimiter)).filter (· != [])

section Cutting

variable {wanted delimiter : Char} {text front behind : List Char} {lines : List (List Char)}

theorem terminated_of_plain (plain : nul ∉ text) : terminated text = text := by
  refine List.takeWhile_eq_self_iff.mpr fun character member => ?_
  rw [bne_iff_ne]
  rintro rfl
  exact plain member

theorem takeWhile_ne_append (absent : wanted ∉ front) :
    (front ++ wanted :: behind).takeWhile (· != wanted) = front := by
  induction front with
  | nil => simp
  | cons character front ih =>
      rw [List.mem_cons, not_or] at absent
      simp [Ne.symm absent.1, ih absent.2]

theorem dropWhile_ne_append (absent : wanted ∉ front) :
    (front ++ wanted :: behind).dropWhile (· != wanted) = wanted :: behind := by
  induction front with
  | nil => simp
  | cons character front ih =>
      rw [List.mem_cons, not_or] at absent
      simp [Ne.symm absent.1, ih absent.2]

/-- The first occurrence of a character is behind a text without it. -/
theorem strchr_append (absent : wanted ∉ front) :
    strchr wanted (front ++ wanted :: behind) = some (front, behind) := by
  simp [strchr, dropWhile_ne_append absent, takeWhile_ne_append absent]

/-- The last occurrence of a character is in front of a text without it. -/
theorem strrchr_append (absent : wanted ∉ behind) :
    strrchr wanted (front ++ wanted :: behind) = some behind := by
  have reversed : (front ++ wanted :: behind).reverse = behind.reverse ++ wanted :: front.reverse := by
    simp
  have within : wanted ∈ front ++ wanted :: behind := by simp
  rw [strrchr, if_pos within, reversed, takeWhile_ne_append (by simpa using absent),
    List.reverse_reverse]

theorem strrchr_of_notMem (absent : wanted ∉ text) : strrchr wanted text = none := if_neg absent

/-- The last place is behind what stands in front of any other. -/
theorem strrchr_append_of_mem (present : wanted ∈ behind) :
    strrchr wanted (front ++ behind) = strrchr wanted behind := by
  obtain ⟨after, before, split, absent⟩ :=
    List.eq_append_cons_of_mem (List.mem_reverse.mpr present)
  have last : (front ++ behind).reverse = after ++ wanted :: (before ++ front.reverse) := by
    rw [List.reverse_append, split, List.append_assoc, List.cons_append]
  rw [strrchr, strrchr, if_pos present, if_pos (List.mem_append_right front present), last, split,
    takeWhile_ne_append absent, takeWhile_ne_append absent]

/-- A delimiter separates the tokens in front of it from those behind it. -/
theorem strtok_append :
    strtok delimiter (front ++ delimiter :: behind) = strtok delimiter front ++ strtok delimiter behind := by
  rw [strtok, List.splitOnP_append_cons front behind (by simp), List.filter_append]
  rfl

theorem strtok_word (plain : delimiter ∉ text) (filled : text ≠ []) : strtok delimiter text = [text] := by
  have clean : ∀ character ∈ text, (character == delimiter) = false := by
    intro character member
    rw [beq_eq_false_iff_ne]
    rintro rfl
    exact plain member
  rw [strtok, List.splitOnP_eq_singleton clean, List.filter_cons, if_pos (by simpa using filled),
    List.filter_nil]

/-- The tokens of lines that each end with the delimiter are the lines. -/
theorem strtok_lines (plain : ∀ line ∈ lines, delimiter ∉ line) (filled : ∀ line ∈ lines, line ≠ []) :
    strtok delimiter (lines.flatMap (· ++ [delimiter])) = lines := by
  induction lines with
  | nil => rfl
  | cons line lines ih =>
      have rest := ih (fun other member => plain other (.tail _ member))
        (fun other member => filled other (.tail _ member))
      rw [List.flatMap_cons, List.append_assoc, List.singleton_append, strtok_append, rest,
        strtok_word (plain line (.head _)) (filled line (.head _)), List.singleton_append]

/-- The tokens of words with the delimiter between each two are the words. -/
theorem strtok_words {word : List Char} (plain : ∀ other ∈ word :: lines, delimiter ∉ other)
    (filled : ∀ other ∈ word :: lines, other ≠ []) :
    strtok delimiter (word ++ lines.flatMap (delimiter :: ·)) = word :: lines := by
  have here := strtok_word (plain word (.head _)) (filled word (.head _))
  induction lines generalizing word with
  | nil => rwa [List.flatMap_nil, List.append_nil]
  | cons next lines ih =>
      have rest := ih (fun other member => plain other (.tail _ member))
        (fun other member => filled other (.tail _ member))
        (strtok_word (plain next (.tail _ (.head _))) (filled next (.tail _ (.head _))))
      rw [List.flatMap_cons, List.cons_append, strtok_append, here, rest, List.singleton_append]

end Cutting

/-! ### Arrays of characters -/

/-- A `char` array of a size with a string in it. -/
structure CArray (size : Nat) where
  text : List Char
  plain : nul ∉ text
  fits : text.length < size
deriving DecidableEq

/-- `snprintf` of a string into an array. -/
def CArray.print {size : Nat} (positive : 0 < size) (value : List Char) : CArray size where
  text := (terminated value).take (size - 1)
  plain := fun member => by
    have before := List.mem_takeWhile_imp (List.mem_of_mem_take member)
    simp at before
  fits := by
    have cut := List.length_take_le (size - 1) (terminated value)
    omega

/-- What is in an array is copied whole into another of its size. -/
theorem CArray.print_text {size : Nat} {positive : 0 < size} (array : CArray size) :
    CArray.print positive array.text = array := by
  have whole : array.text.length ≤ size - 1 := by
    have := array.fits
    omega
  cases array
  simp [CArray.print, terminated_of_plain ‹_›, List.take_of_length_le whole]

/-! ### Decimal numbers -/

/-- `%d` and `%lld`. -/
def decimal (value : Int) : List Char :=
  if value < 0 then '-' :: Nat.toDigits 10 value.natAbs else Nat.toDigits 10 value.natAbs

/-- `isspace`. -/
def isSpace (character : Char) : Bool :=
  character == ' ' || (9 ≤ character.toNat && character.toNat ≤ 13)

/-- What a conversion reads: the sign, the digits, and where it stops. -/
structure Numeral where
  negative : Bool
  magnitude : Nat
  behind : List Char
deriving DecidableEq, Repr

/-- The digits of a numeral behind its sign; `none` is a text without digits. -/
def digits (negative : Bool) (text : List Char) : Option Numeral :=
  if text.takeWhile Char.isDigit = [] then none
  else some ⟨negative, Nat.ofDigitChars 10 (text.takeWhile Char.isDigit) 0,
    text.dropWhile Char.isDigit⟩

/-- The numeral at the beginning of a text, behind white space. -/
def numeral (text : List Char) : Option Numeral :=
  match text.dropWhile isSpace with
  | '-' :: behind => digits true behind
  | '+' :: behind => digits false behind
  | unsigned => digits false unsigned

/-- What a conversion returns: the value, where it stopped, and whether it set `errno`. -/
structure Conversion (α : Type) where
  value : α
  behind : List Char
  error : Bool
deriving DecidableEq, Repr

/-- `strtoull`. -/
def strtoull (text : List Char) : Conversion UInt64 :=
  match numeral text with
  | none => ⟨0, text, false⟩
  | some read =>
      if 2 ^ 64 ≤ read.magnitude then ⟨UInt64.ofNat (2 ^ 64 - 1), read.behind, true⟩
      else if read.negative then ⟨0 - UInt64.ofNat read.magnitude, read.behind, false⟩
      else ⟨UInt64.ofNat read.magnitude, read.behind, false⟩

/-- `strtoll`. -/
def strtoll (text : List Char) : Conversion Int :=
  match numeral text with
  | none => ⟨0, text, false⟩
  | some read =>
      let value : Int := if read.negative then -read.magnitude else read.magnitude
      if value < -2 ^ 63 then ⟨-2 ^ 63, read.behind, true⟩
      else if 2 ^ 63 ≤ value then ⟨2 ^ 63 - 1, read.behind, true⟩
      else ⟨value, read.behind, false⟩

/-- `atoi`. -/
def atoi (text : List Char) : Int32 := Int32.ofInt (strtoll text).value

section Decimal

variable {number : Nat} {value : Int}

theorem isDigit_of_mem {character : Char} (member : character ∈ Nat.toDigits 10 number) :
    character.isDigit = true :=
  Nat.isDigit_of_mem_toDigits (by decide) (by decide) member

/-- A text of digits is read to its end. -/
theorem digits_of_all {text : List Char} (negative : Bool) (filled : text ≠ [])
    (all : ∀ character ∈ text, character.isDigit = true) :
    digits negative text = some ⟨negative, Nat.ofDigitChars 10 text 0, []⟩ := by
  rw [digits, List.takeWhile_eq_self_iff.mpr all, List.dropWhile_eq_nil_iff.mpr all, if_neg filled]

/-- The digits of a number are read back as this number, with nothing behind them. -/
theorem digits_toDigits (negative : Bool) :
    digits negative (Nat.toDigits 10 number) = some ⟨negative, number, []⟩ := by
  rw [digits_of_all negative Nat.toDigits_ne_nil fun _ => isDigit_of_mem, Nat.ofDigitChars_ten_toDigits]

/-- No digit is white space or a sign. -/
theorem plain_of_isDigit {character : Char} (digit : character.isDigit = true) :
    isSpace character = false ∧ character ≠ '-' ∧ character ≠ '+' := by
  rw [Char.isDigit, Bool.and_eq_true, decide_eq_true_eq, decide_eq_true_eq, ge_iff_le,
    UInt32.le_iff_toNat_le, UInt32.le_iff_toNat_le] at digit
  have above : 48 ≤ character.toNat := digit.1
  have apart : ∀ other : Char, other.toNat < 48 → character ≠ other := by
    rintro other below rfl
    omega
  refine ⟨?_, apart '-' (by decide), apart '+' (by decide)⟩
  have blank := apart ' ' (by decide)
  have control : ¬character.toNat ≤ 13 := by omega
  simp [isSpace, blank, control]

/-- What begins with a digit has neither white space nor a sign in front. -/
theorem numeral_of_all {text : List Char} (filled : text ≠ [])
    (all : ∀ character ∈ text, character.isDigit = true) :
    numeral text = some ⟨false, Nat.ofDigitChars 10 text 0, []⟩ := by
  obtain ⟨first, rest, rfl⟩ := List.exists_cons_of_ne_nil filled
  obtain ⟨space, minus, plus⟩ := plain_of_isDigit (all first (.head _))
  rw [numeral, List.dropWhile_cons, if_neg (by simp [space])]
  split
  · rename_i same
    cases same
    exact absurd rfl minus
  · rename_i same
    cases same
    exact absurd rfl plus
  · exact digits_of_all false filled all

theorem numeral_toDigits : numeral (Nat.toDigits 10 number) = some ⟨false, number, []⟩ := by
  rw [numeral_of_all Nat.toDigits_ne_nil fun _ => isDigit_of_mem, Nat.ofDigitChars_ten_toDigits]

/-- A number in decimal is read back with its sign. -/
theorem numeral_decimal : numeral (decimal value) = some ⟨decide (value < 0), value.natAbs, []⟩ := by
  rw [decimal]
  split
  next negative =>
    rw [numeral, List.dropWhile_cons, if_neg (by decide)]
    simp [digits_toDigits, negative]
  next nonnegative => simp [numeral_toDigits, nonnegative]

/-- A text of digits whose number has 64 bits is read whole. -/
theorem strtoull_of_all {text : List Char} (filled : text ≠ [])
    (all : ∀ character ∈ text, character.isDigit = true) (small : Nat.ofDigitChars 10 text 0 < 2 ^ 64) :
    strtoull text = ⟨UInt64.ofNat (Nat.ofDigitChars 10 text 0), [], false⟩ := by
  simp only [strtoull, numeral_of_all filled all]
  rw [if_neg (Nat.not_le.mpr small), if_neg Bool.false_ne_true]

/-- A number of 64 bits in decimal is read back, without an overflow. -/
theorem strtoull_decimal {value : UInt64} :
    strtoull (Nat.toDigits 10 value.toNat) = ⟨value, [], false⟩ := by
  have read := Nat.ofDigitChars_ten_toDigits (n := value.toNat)
  rw [strtoull_of_all Nat.toDigits_ne_nil (fun _ => isDigit_of_mem) (by rw [read]; exact value.toNat_lt), read,
    UInt64.ofNat_toNat]

/-- A number that is printed is read back. -/
theorem strtoll_decimal (small : -2 ^ 63 ≤ value ∧ value < 2 ^ 63) :
    strtoll (decimal value) = ⟨value, [], false⟩ := by
  have signed : (if value < 0 then -(value.natAbs : Int) else value.natAbs) = value := by
    split <;> omega
  rw [strtoll, numeral_decimal]
  simp only [decide_eq_true_eq, signed]
  rw [if_neg (by omega), if_neg (by omega)]

/-- An integer of 32 bits in decimal is read back. -/
theorem atoi_decimal {value : Int32} : atoi (decimal value.toInt) = value := by
  have low := value.le_toInt
  have high := value.toInt_lt
  rw [atoi, strtoll_decimal (by omega), Int32.ofInt_toInt]

/-- No digit and no sign is a line end, an equals sign or a zero byte. -/
theorem decimal_plain {character : Char} (member : character ∈ decimal value) :
    character = '-' ∨ character.isDigit = true := by
  rw [decimal] at member
  split at member
  · rcases List.mem_cons.mp member with sign | digit
    · exact .inl sign
    · exact .inr (isDigit_of_mem digit)
  · exact .inr (isDigit_of_mem member)

/-- A number in decimal has a digit for each power of ten below it, and perhaps a sign. -/
theorem length_decimal_le (width : Nat) (positive : 0 < width) (small : value.natAbs < 10 ^ width) :
    (decimal value).length ≤ width + 1 := by
  have short := (Nat.length_toDigits_le_iff (by decide) positive).mpr small
  rw [decimal]
  split
  · exact Nat.succ_le_succ short
  · exact Nat.le_succ_of_le short

end Decimal

end CString
