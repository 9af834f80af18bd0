/-
Module: DawnShell.Lib.JavaStrings
Layer: Lib
Purpose: Strings of the Java language as sequences of UTF-16 units, with the operations of its library
  that cut them into pieces, and the bytes a process receives for such a string as an argument.  A byte
  is written as the character with its number.
Trusted boundary: the documented behaviour of `String.trim`, `String.split` with a class of separators,
  `String.toLowerCase` on ASCII text, the UTF-8 encoder, which puts a question mark for a lone
  surrogate, and the ASCII encoder and decoder; that of `java.util.regex` on Android, where the
  predefined classes are always those of Unicode
Main exports: Java.JavaString, Java.literal, Java.trim, Java.split, Java.splitLimit, Java.join,
  Java.toLowerCase, Java.encoded, Java.encodedAscii, Java.decodedAscii, Java.split_join,
  Java.trim_of_above, Java.encoded_singles_append, Java.encoded_append, Java.beyond_of_mem_encodedUnit,
  Java.not_mem_encoded, Java.encoded_literal
-/
import Mathlib.Data.List.Basic

namespace Java

/-- A `String`: its UTF-16 units. -/
abbrev JavaString := List UInt16

/-- An ASCII text as a string. -/
def literal (text : List Char) : JavaString := text.map fun character => UInt16.ofNat character.toNat

/-- `String.trim`: what is not above a blank is taken off both ends. -/
def trim (value : JavaString) : JavaString :=
  ((value.dropWhile (· ≤ 0x20)).reverse.dropWhile (· ≤ 0x20)).reverse

/-- The class `\s` of a regular expression where the classes are those of Unicode, as on Android: the
characters with the property White_Space, none of which needs a pair of surrogates. -/
def isSpace (unit : UInt16) : Bool :=
  unit == 0x20 || (0x09 ≤ unit && unit ≤ 0x0d) || unit == 0x85 || unit == 0xa0 || unit == 0x1680 ||
    (0x2000 ≤ unit && unit ≤ 0x200a) || unit == 0x2028 || unit == 0x2029 || unit == 0x202f ||
    unit == 0x205f || unit == 0x3000

/-- The pieces between the runs of separators, the empty ones at the ends included. -/
def pieces (separates : UInt16 → Bool) : JavaString → List JavaString
  | [] => [[]]
  | unit :: rest =>
      if separates unit then
        match rest with
        | [] => [[], []]
        | next :: _ => if separates next then pieces separates rest else [] :: pieces separates rest
      else
        match pieces separates rest with
        | [] => [[unit]]
        | piece :: more => (unit :: piece) :: more

/-- `String.split` at runs of separators: the empty pieces at the end are dropped, and a string without
a separator is its own piece. -/
def split (separates : UInt16 → Bool) (value : JavaString) : List JavaString :=
  if value.any separates then ((pieces separates value).reverse.dropWhile (· == [])).reverse
  else [value]

/-- `String.split` with a limit, which is one more than the cuts that are left: what is behind the last
cut stays whole. -/
def splitLimit (separates : UInt16 → Bool) : Nat → JavaString → List JavaString
  | 0, value => [value]
  | cuts + 1, value =>
      if value.any separates then
        value.takeWhile (!separates ·) ::
          splitLimit separates cuts ((value.dropWhile (!separates ·)).dropWhile separates)
      else [value]

/-- The strings with a separator between each two. -/
def join (separator : UInt16) : List JavaString → JavaString
  | [] => []
  | [value] => value
  | value :: rest => value ++ separator :: join separator rest

/-- `String.toLowerCase` of a character of ASCII text. -/
def lowerUnit (unit : UInt16) : UInt16 := if 0x41 ≤ unit ∧ unit ≤ 0x5a then unit + 0x20 else unit

/-- `String.toLowerCase` on ASCII text. -/
def toLowerCase (value : JavaString) : JavaString := value.map lowerUnit

section Cutting

variable {separates : UInt16 → Bool} {separator : UInt16} {value piece rest : JavaString}
  {list : List JavaString}

/-- A string without blanks is not trimmed. -/
theorem trim_of_above (above : ∀ unit ∈ value, 0x20 < unit) : trim value = value := by
  have kept : ∀ {text : JavaString}, (∀ unit ∈ text, 0x20 < unit) →
      text.dropWhile (· ≤ 0x20) = text := by
    intro text above
    cases text with
    | nil => rfl
    | cons unit text => simp [UInt16.not_le.mpr (above unit (.head _))]
  rw [trim, kept above, kept fun unit member => above unit (List.mem_reverse.mp member),
    List.reverse_reverse]

/-- A text without a separator is one piece. -/
theorem pieces_unseparated (unseparated : ∀ unit ∈ piece, separates unit = false) :
    pieces separates piece = [piece] := by
  induction piece with
  | nil => rfl
  | cons unit piece ih =>
      simp [pieces, unseparated unit (.head _), ih fun other member => unseparated other (.tail _ member)]

/-- A piece, one separator, and something that begins with no separator. -/
theorem pieces_append (unseparated : ∀ unit ∈ piece, separates unit = false)
    (separating : separates separator = true) {unit : UInt16} (next : separates unit = false) :
    pieces separates (piece ++ separator :: unit :: rest) =
      piece :: pieces separates (unit :: rest) := by
  induction piece with
  | nil => simp [pieces, separating, next]
  | cons first piece ih =>
      have here := unseparated first (.head _)
      have after := ih fun other member => unseparated other (.tail _ member)
      simp [pieces, here, after]

/-- What separates nothing is not empty. -/
structure Pieces (separates : UInt16 → Bool) (list : List JavaString) : Prop where
  unseparated : ∀ piece ∈ list, ∀ unit ∈ piece, separates unit = false
  filled : ∀ piece ∈ list, piece ≠ []

theorem Pieces.tail {first : JavaString} (cut : Pieces separates (first :: list)) :
    Pieces separates list :=
  ⟨fun piece member => cut.unseparated piece (.tail _ member),
    fun piece member => cut.filled piece (.tail _ member)⟩

/-- Pieces that are joined by a separator are cut apart again. -/
theorem pieces_join (cut : Pieces separates list) (separating : separates separator = true)
    (some : list ≠ []) : pieces separates (join separator list) = list := by
  induction list with
  | nil => exact absurd rfl some
  | cons piece list ih =>
      have unseparated := cut.unseparated piece (.head _)
      cases list with
      | nil => exact pieces_unseparated unseparated
      | cons next list =>
          have rest := ih cut.tail (List.cons_ne_nil next list)
          -- The rest begins with the first unit of the next piece.
          obtain ⟨unit, more, begins, apart⟩ : ∃ unit more,
              join separator (next :: list) = unit :: more ∧ separates unit = false := by
            cases next with
            | nil => exact absurd rfl (cut.filled [] (.tail _ (.head _)))
            | cons unit next =>
                have apart := cut.unseparated _ (.tail _ (.head _)) unit (.head _)
                cases list with
                | nil => exact ⟨unit, next, rfl, apart⟩
                | cons other list => exact ⟨unit, _, rfl, apart⟩
          have cons : join separator (piece :: next :: list) =
              piece ++ separator :: join separator (next :: list) := rfl
          rw [cons, begins, pieces_append unseparated separating apart, ← begins, rest]

/-- Strings that are joined by a separator are what the result is split into. -/
theorem split_join (cut : Pieces separates list) (separating : separates separator = true)
    (some : list ≠ []) : split separates (join separator list) = list := by
  cases list with
  | nil => exact absurd rfl some
  | cons piece list =>
      cases list with
      | nil =>
          have unseparated : piece.any separates = false :=
            List.any_eq_false.mpr fun unit member => by
              simp [cut.unseparated piece (.head _) unit member]
          rw [join, split, unseparated]
          rfl
      | cons next list =>
          have separated : (join separator (piece :: next :: list)).any separates = true := by
            simp [join, separating]
          have kept : (piece :: next :: list).reverse.dropWhile (· == []) =
              (piece :: next :: list).reverse := by
            obtain ⟨last, others, same⟩ := List.exists_cons_of_ne_nil
              (mt List.reverse_eq_nil_iff.mp some)
            have filled : last ≠ [] :=
              cut.filled last (List.mem_reverse.mp (same ▸ List.mem_cons_self))
            rw [same, List.dropWhile_cons, if_neg (by simpa using filled)]
          rw [split, if_pos separated, pieces_join cut separating some, kept, List.reverse_reverse]

end Cutting

/-! ### Encoding -/

def isHighSurrogate (unit : UInt16) : Bool := 0xd800 ≤ unit && unit ≤ 0xdbff

def isLowSurrogate (unit : UInt16) : Bool := 0xdc00 ≤ unit && unit ≤ 0xdfff

/-- The UTF-8 bytes of a code point. -/
def utf8 (point : Nat) : List Char :=
  if point < 0x80 then [Char.ofNat point]
  else if point < 0x800 then [Char.ofNat (0xc0 + point / 0x40), Char.ofNat (0x80 + point % 0x40)]
  else if point < 0x10000 then
    [Char.ofNat (0xe0 + point / 0x1000), Char.ofNat (0x80 + point / 0x40 % 0x40),
      Char.ofNat (0x80 + point % 0x40)]
  else
    [Char.ofNat (0xf0 + point / 0x40000), Char.ofNat (0x80 + point / 0x1000 % 0x40),
      Char.ofNat (0x80 + point / 0x40 % 0x40), Char.ofNat (0x80 + point % 0x40)]

/-- The bytes of a unit that is no half of a pair. -/
def encodedUnit (unit : UInt16) : List Char :=
  if isHighSurrogate unit || isLowSurrogate unit then ['?'] else utf8 unit.toNat

/-- The code point of a pair of surrogates. -/
def surrogatePoint (high low : UInt16) : Nat :=
  0x10000 + (high.toNat - 0xd800) * 0x400 + (low.toNat - 0xdc00)

/-- The bytes of a string. -/
def encoded : JavaString → List Char
  | [] => []
  | [unit] => encodedUnit unit
  | unit :: next :: rest =>
      if isHighSurrogate unit && isLowSurrogate next
      then utf8 (surrogatePoint unit next) ++ encoded rest
      else encodedUnit unit ++ encoded (next :: rest)

/-- The bytes of a string in the ASCII encoding, which has a question mark for everything else. -/
def encodedAscii : JavaString → List Char
  | [] => []
  | [unit] => [asciiByte unit]
  | unit :: next :: rest =>
      if isHighSurrogate unit && isLowSurrogate next then '?' :: encodedAscii rest
      else asciiByte unit :: encodedAscii (next :: rest)
where
  asciiByte (unit : UInt16) : Char := if unit < 0x80 then Char.ofNat unit.toNat else '?'

/-- The string of bytes in the ASCII encoding, with the replacement character for what is not ASCII. -/
def decodedAscii (bytes : List Char) : JavaString :=
  bytes.map fun byte => if byte.toNat < 0x80 then UInt16.ofNat byte.toNat else 0xfffd

section Encoding

variable {unit : UInt16} {first rest : JavaString} {text : List Char}

/-- An ASCII unit is not half of a surrogate pair. -/
theorem not_surrogate_of_ascii (ascii : unit < 0x80) :
    isHighSurrogate unit = false ∧ isLowSurrogate unit = false := by
  have below : unit.toNat < 0x80 := UInt16.lt_iff_toNat_lt.mp ascii
  have apart : ∀ bound : UInt16, 0x80 ≤ bound.toNat → decide (bound ≤ unit) = false := by
    intro bound above
    rw [decide_eq_false_iff_not, UInt16.le_iff_toNat_le]
    omega
  constructor
  · rw [isHighSurrogate, apart 0xd800 (by decide), Bool.false_and]
  · rw [isLowSurrogate, apart 0xdc00 (by decide), Bool.false_and]

theorem encodedUnit_ascii (ascii : unit < 0x80) : encodedUnit unit = [Char.ofNat unit.toNat] := by
  obtain ⟨high, low⟩ := not_surrogate_of_ascii ascii
  have below : unit.toNat < 0x80 := UInt16.lt_iff_toNat_lt.mp ascii
  rw [encodedUnit, high, low, utf8, if_pos below]
  rfl

/-- The code points of pairs are those behind the first 65536. -/
theorem surrogatePoint_bounds {high low : UInt16}
    (pair : (isHighSurrogate high && isLowSurrogate low) = true) :
    0x10000 ≤ surrogatePoint high low ∧ surrogatePoint high low < 0x110000 := by
  simp only [isHighSurrogate, isLowSurrogate, Bool.and_eq_true, decide_eq_true_eq,
    UInt16.le_iff_toNat_le, UInt16.reduceToNat] at pair
  unfold surrogatePoint
  omega

/-- A unit in front of another with which it is no pair. -/
theorem encoded_cons_of_not_pair {next : UInt16}
    (apart : (isHighSurrogate unit && isLowSurrogate next) = false) :
    encoded (unit :: next :: rest) = encodedUnit unit ++ encoded (next :: rest) := by
  rw [encoded, apart]
  rfl

/-- A unit that is no first half of a pair is encoded by itself. -/
theorem encoded_cons_single (single : isHighSurrogate unit = false) :
    encoded (unit :: rest) = encodedUnit unit ++ encoded rest := by
  cases rest with
  | nil => exact (List.append_nil _).symm
  | cons next rest => exact encoded_cons_of_not_pair (by rw [single, Bool.false_and])

/-- An ASCII unit is one byte, whatever follows it. -/
theorem encoded_cons_ascii (ascii : unit < 0x80) :
    encoded (unit :: rest) = Char.ofNat unit.toNat :: encoded rest := by
  rw [encoded_cons_single (not_surrogate_of_ascii ascii).1, encodedUnit_ascii ascii,
    List.singleton_append]

/-- An ASCII character is no half of a pair, so that a string may be cut in front of it. -/
theorem encoded_append (ascii : unit < 0x80) :
    encoded (first ++ unit :: rest) = encoded first ++ encoded (unit :: rest) := by
  induction first using encoded.induct with
  | case1 => rfl
  | case2 last =>
      rw [List.singleton_append, encoded_cons_of_not_pair
        (by rw [(not_surrogate_of_ascii ascii).2, Bool.and_false]), encoded]
  | case3 high low first pair ih =>
      rw [List.cons_append, List.cons_append, encoded, encoded, if_pos pair, if_pos pair, ih,
        List.append_assoc]
  | case4 high low first apart ih =>
      rw [List.cons_append] at ih
      rw [List.cons_append, List.cons_append, encoded, encoded, if_neg apart, if_neg apart, ih,
        List.append_assoc]

/-- Units that are no first halves of pairs are encoded one after another in front of a string. -/
theorem encoded_singles_append (single : ∀ unit ∈ first, isHighSurrogate unit = false) :
    encoded (first ++ rest) = first.flatMap encodedUnit ++ encoded rest := by
  induction first with
  | nil => rfl
  | cons unit first ih =>
      have after := ih fun other member => single other (.tail _ member)
      rw [List.cons_append, encoded_cons_single (single unit (.head _)), after, List.flatMap_cons,
        List.append_assoc]

/-- Without a high surrogate a text is encoded unit by unit. -/
theorem encoded_singles (single : ∀ unit ∈ first, isHighSurrogate unit = false) :
    encoded first = first.flatMap encodedUnit := by
  have whole : encoded (first ++ []) = first.flatMap encodedUnit ++ encoded [] :=
    encoded_singles_append single
  rwa [List.append_nil, encoded, List.append_nil] at whole

/-- ASCII characters in front of a string are bytes of their own. -/
theorem encoded_ascii_append (ascii : ∀ unit ∈ first, unit < 0x80) :
    encoded (first ++ rest) = first.map (fun unit => Char.ofNat unit.toNat) ++ encoded rest := by
  rw [encoded_singles_append fun unit member => (not_surrogate_of_ascii (ascii unit member)).1]
  congr 1
  rw [List.map_eq_flatMap]
  exact List.flatMap_congr fun unit member => encodedUnit_ascii (ascii unit member)

/-- An ASCII text is encoded as its own characters. -/
theorem encoded_ascii (ascii : ∀ unit ∈ first, unit < 0x80) :
    encoded first = first.map fun unit => Char.ofNat unit.toNat := by
  have whole : encoded (first ++ []) =
      first.map (fun unit => Char.ofNat unit.toNat) ++ encoded [] := encoded_ascii_append ascii
  rwa [List.append_nil, encoded, List.append_nil] at whole

theorem toNat_ofNat_byte {number : Nat} (small : number < 0x100) :
    (Char.ofNat number).toNat = number := by
  have valid : number.isValidChar := .inl (by omega)
  rw [Char.ofNat, dif_pos valid]
  rfl

/-- The bytes of a character beyond ASCII are not ASCII. -/
theorem beyond_of_mem_utf8 {byte : Char} {point : Nat} (beyond : 0x80 ≤ point)
    (small : point < 0x110000) (member : byte ∈ utf8 point) : 0x80 ≤ byte.toNat := by
  have above : ∀ number < 0x100, 0x80 ≤ number → byte = Char.ofNat number → 0x80 ≤ byte.toNat := by
    rintro number low high rfl
    rwa [toNat_ofNat_byte low]
  rw [utf8, if_neg (Nat.not_lt.mpr beyond)] at member
  split at member
  · rcases List.mem_pair.mp member with first | second
    · exact above _ (by omega) (by omega) first
    · exact above _ (by omega) (by omega) second
  · split at member
    · simp only [List.mem_cons, List.not_mem_nil, or_false] at member
      rcases member with first | second | third
      · exact above _ (by omega) (by omega) first
      · exact above _ (by omega) (by omega) second
      · exact above _ (by omega) (by omega) third
    · simp only [List.mem_cons, List.not_mem_nil, or_false] at member
      rcases member with first | second | third | fourth
      · exact above _ (by omega) (by omega) first
      · exact above _ (by omega) (by omega) second
      · exact above _ (by omega) (by omega) third
      · exact above _ (by omega) (by omega) fourth

/-- No byte of another character than an ASCII one is the byte of that one. -/
theorem not_mem_utf8 {byte : Char} {point : Nat} (ascii : byte.toNat < 0x80)
    (other : point ≠ byte.toNat) (small : point < 0x110000) : byte ∉ utf8 point := by
  by_cases low : point < 0x80
  · rw [utf8, if_pos low, List.mem_singleton]
    rintro rfl
    exact other (toNat_ofNat_byte (Nat.lt_trans low (by decide))).symm
  · intro member
    exact absurd ascii (Nat.not_lt.mpr (beyond_of_mem_utf8 (Nat.not_lt.mp low) small member))

/-- The bytes of a unit beyond ASCII that is no half of a pair. -/
theorem beyond_of_mem_encodedUnit {byte : Char} (beyond : 0x80 ≤ unit.toNat)
    (high : isHighSurrogate unit = false) (low : isLowSurrogate unit = false)
    (member : byte ∈ encodedUnit unit) : 0x80 ≤ byte.toNat := by
  rw [encodedUnit, high, low] at member
  exact beyond_of_mem_utf8 beyond (Nat.lt_trans unit.toNat_lt (by decide)) member

theorem encodedUnit_ne_nil (unit : UInt16) : encodedUnit unit ≠ [] := by
  unfold encodedUnit utf8
  split_ifs <;> exact List.cons_ne_nil _ _

/-- An ASCII byte occurs only in the encoding of its own unit; a lone surrogate becomes a question mark.
-/
theorem not_mem_encodedUnit {byte : Char} (ascii : byte.toNat < 0x80) (replaced : byte ≠ '?')
    (other : unit.toNat ≠ byte.toNat) : byte ∉ encodedUnit unit := by
  rw [encodedUnit]
  split
  · simpa using replaced
  · exact not_mem_utf8 ascii other (Nat.lt_trans unit.toNat_lt (by decide))

/-- An ASCII character among the bytes of a string is one of its units. -/
theorem not_mem_encoded {byte : Char} {value : JavaString} (ascii : byte.toNat < 0x80)
    (replaced : byte ≠ '?') (others : ∀ unit ∈ value, unit.toNat ≠ byte.toNat) :
    byte ∉ encoded value := by
  induction value using encoded.induct with
  | case1 => exact List.not_mem_nil
  | case2 last => exact not_mem_encodedUnit ascii replaced (others last (.head _))
  | case3 high low rest pair ih =>
      obtain ⟨above, below⟩ := surrogatePoint_bounds pair
      have point : surrogatePoint high low ≠ byte.toNat := by omega
      rw [encoded, if_pos pair, List.mem_append, not_or]
      exact ⟨not_mem_utf8 ascii point below,
        ih fun unit member => others unit (.tail _ (.tail _ member))⟩
  | case4 unit next rest apart ih =>
      rw [encoded, if_neg apart, List.mem_append, not_or]
      exact ⟨not_mem_encodedUnit ascii replaced (others unit (.head _)),
        ih fun other member => others other (.tail _ member)⟩

/-- ASCII text arrives as it is. -/
theorem encoded_literal (ascii : ∀ character ∈ text, character.toNat < 0x80) :
    encoded (literal text) = text := by
  induction text with
  | nil => rfl
  | cons character text ih =>
      have here := ascii character (.head _)
      have value : (UInt16.ofNat character.toNat).toNat = character.toNat :=
        UInt16.toNat_ofNat_of_lt' (Nat.lt_trans here (by decide))
      have small : UInt16.ofNat character.toNat < 0x80 := by
        rw [UInt16.lt_iff_toNat_lt, value]
        exact here
      have rest := ih fun other member => ascii other (.tail _ member)
      rw [literal] at rest
      rw [literal, List.map_cons, encoded_cons_ascii small, rest, value, Char.ofNat_toNat]

end Encoding

end Java
