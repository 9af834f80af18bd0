/-
Module: DawnShell.Proofs.AuthorizedKeyLines
Layer: Proofs
Purpose: The stored file of authorized keys as the SSH server reads it.  The app takes its fields apart
  at any white space and the server at blanks and tabs alone, so that a line is a bare key for the server
  exactly if it has no other white space around the key.
Trusted boundary: the server skips blanks and tabs in front of a field and ends it at the next one
Main exports: nextField, BareKey, BareFile, keptLines, PlainSpaces, stored_keys_bare_iff
-/
import Mathlib.Data.List.TakeWhile
import DawnShell.Lib.Base64
import DawnShell.Lib.FieldLine
import DawnShell.Proofs.AtomicPublication

namespace DawnShell.App

open Java Interaction

/-! ### Statement -/

/-- What stands between the fields of a line for the server. -/
def isBlank (character : Char) : Bool := character == ' ' || character == '\t'

/-- The next field of a line and what is behind it. -/
def nextField (line : Contents) : Contents × Contents :=
  let text := line.dropWhile isBlank
  (text.takeWhile (!isBlank ·), text.dropWhile (!isBlank ·))

/-- A string of a key blob: its length in four bytes in front of it. -/
def lengthPrefixed (text : Contents) : Contents :=
  [16777216, 65536, 256, 1].map (fun place => Char.ofNat (text.length / place % 256)) ++ text

/-- A line that is a bare key for the server, of this type and with this key. -/
structure BareKey (decode : JavaString → Option Contents) (line : Contents) (type key : JavaString)
    (blob : Contents) : Prop where
  first : (nextField line).1 = encoded type
  second : (nextField (nextField line).2).1 = encoded key
  allowed : type ∈ allowedTypes
  base64 : isBase64Text key = true
  decoded : decode key = some blob
  typed : lengthPrefixed (encoded type) <+: blob
  filled : line ≠ []
  noComment : line.head? ≠ some '#'

/-- A file of so many bare keys, with a newline behind each. -/
def BareFile (decode : JavaString → Option Contents) (contents : Contents) (count : Nat) : Prop :=
  ∃ lines, contents.splitOn '\n' = lines ++ [[]] ∧ lines.length = count ∧
    ∀ line ∈ lines, ∃ type key blob, BareKey decode line type key blob

/-- A trimmed line that is neither empty nor a comment. -/
def isKeyLine (line : JavaString) : Bool := !(line == [] || line.head? == some 0x23)

/-- The lines of an input that are looked at, trimmed. -/
def keptLines (input : JavaString) : List JavaString :=
  (((normalizedInput input).splitOn 0x0a).map trim).filter isKeyLine

/-- The type of a key line: what is in front of the first white space. -/
def typeOf (line : JavaString) : JavaString := line.takeWhile (!isSpace ·)

/-- The white space behind the type. -/
def gapOf (line : JavaString) : JavaString := (line.dropWhile (!isSpace ·)).takeWhile isSpace

/-- The key of a key line. -/
def keyOf (line : JavaString) : JavaString :=
  ((line.dropWhile (!isSpace ·)).dropWhile isSpace).takeWhile (!isSpace ·)

/-- What is behind the key. -/
def behindKey (line : JavaString) : JavaString :=
  ((line.dropWhile (!isSpace ·)).dropWhile isSpace).dropWhile (!isSpace ·)

/-- Blanks and tabs are the only white space between the type and the key and directly behind the key. -/
def PlainSpaces (line : JavaString) : Prop :=
  (∀ unit ∈ gapOf line, unit = 0x20 ∨ unit = 0x09) ∧
    ∀ unit ∈ (behindKey line).head?, unit = 0x20 ∨ unit = 0x09

/-! ### Lines that are accepted -/

/-- What is checked of a line. -/
structure AcceptedLine (decode : JavaString → Option Contents) (line : JavaString) (blob : Contents) :
    Prop where
  separated : gapOf line ≠ []
  allowed : typeOf line ∈ allowedTypes
  base64 : isBase64Text (keyOf line) = true
  decoded : decode (keyOf line) = some blob
  typed : lengthPrefixed (encoded (typeOf line)) <+: blob

section Lines

variable {decode : JavaString → Option Contents} {line original type key : JavaString}
  {rest : List JavaString} {blob : Contents} {keys next : AcceptedKeys}

/-- A line is its type, the gap behind that, its key and what is behind the key, each of which may be
empty. -/
theorem line_eq (line : JavaString) :
    line = typeOf line ++ (gapOf line ++ (keyOf line ++ behindKey line)) := by
  rw [typeOf, gapOf, keyOf, behindKey, List.takeWhile_append_dropWhile,
    List.takeWhile_append_dropWhile, List.takeWhile_append_dropWhile]

/-- The fields that the app compares are the type and the key: what stands in front of the first white
space and what stands between this and the next. -/
theorem splitLimit_fields (fields : splitLimit isSpace 2 line = type :: key :: rest) :
    type = typeOf line ∧ key = keyOf line ∧ gapOf line ≠ [] := by
  rw [splitLimit] at fields
  split at fields
  next separated =>
    obtain ⟨rfl, behind⟩ := List.cons.inj fields
    refine ⟨rfl, ?_, ?_⟩
    · rw [splitLimit] at behind
      split at behind
      · exact (List.cons.inj behind).1.symm
      next unseparated =>
        have whole : ∀ unit ∈ (line.dropWhile (!isSpace ·)).dropWhile isSpace,
            (!isSpace unit) = true := by
          intro unit member
          have none := List.any_eq_false.mp (Bool.not_eq_true _ ▸ unseparated) unit member
          rw [Bool.not_eq_true] at none
          rw [none, Bool.not_false]
        rw [keyOf, List.takeWhile_eq_self_iff.mpr whole]
        exact (List.cons.inj behind).1.symm
    · intro nothing
      obtain ⟨unit, member, space⟩ := List.any_eq_true.mp separated
      have some : line.dropWhile (!isSpace ·) ≠ [] := by
        intro none
        have clean := List.dropWhile_eq_nil_iff.mp none unit member
        rw [space] at clean
        cases clean
      obtain ⟨first, behind, begins⟩ := List.exists_cons_of_ne_nil some
      have head := List.head?_dropWhile_not (!isSpace ·) line
      rw [begins] at head
      rw [gapOf, begins, List.takeWhile_cons_of_pos (by simpa using head)] at nothing
      cases nothing
  next => cases fields

theorem passes_of_ok {α β : Type} {condition : Prop} [Decidable condition] {error : JavaString}
    {after : α → Except JavaString β} {rest : Except JavaString β} {value : β}
    (ok : (if condition then throw error >>= after else rest) = .ok value) :
    ¬condition ∧ rest = .ok value := by
  split at ok
  · cases ok
  next passed => exact ⟨passed, ok⟩

/-- The allowed types are printable ASCII texts of less than 256 characters, and none looks like a
comment. -/
theorem allowedTypes_printable : ∀ type ∈ allowedTypes,
    (∀ unit ∈ type, 0x20 < unit ∧ unit < 0x80) ∧ type.length < 256 ∧ type ≠ [] ∧
      type.head? ≠ some 0x23 := by
  have checked : ∀ type ∈ allowedTypes,
      (type.all fun unit => decide (0x20 < unit ∧ unit < 0x80)) = true ∧ type.length < 256 ∧
        type ≠ [] ∧ type.head? ≠ some 0x23 := by decide
  intro type allowed
  obtain ⟨printable, rest⟩ := checked type allowed
  exact ⟨fun unit member => of_decide_eq_true (List.all_eq_true.mp printable unit member), rest⟩

/-- The bytes that read as an ASCII text are those of the text. -/
theorem encoded_decodedAscii {bytes : Contents} (ascii : ∀ unit ∈ decodedAscii bytes, unit < 0x80) :
    encoded (decodedAscii bytes) = bytes := by
  induction bytes with
  | nil => rfl
  | cons byte bytes ih =>
      have here : (if byte.toNat < 0x80 then UInt16.ofNat byte.toNat else 0xfffd) < 0x80 :=
        ascii _ (.head _)
      have rest := ih fun unit member => ascii unit (.tail _ member)
      have small : byte.toNat < 0x80 := by
        by_contra large
        rw [if_neg large] at here
        exact absurd here (by decide)
      have value : (UInt16.ofNat byte.toNat).toNat = byte.toNat :=
        UInt16.toNat_ofNat_of_lt' (Nat.lt_trans small (by decide))
      rw [if_pos small] at here
      have front : decodedAscii (byte :: bytes) = UInt16.ofNat byte.toNat :: decodedAscii bytes := by
        simp [decodedAscii, small]
      rw [front, encoded_cons_ascii here, value, Char.ofNat_toNat, rest]

theorem four_bytes {a b c d : Char} {number : Nat}
    (sum : ((a.toNat * 256 + b.toNat) * 256 + c.toNat) * 256 + d.toNat = number)
    (small : number < 256) :
    [16777216, 65536, 256, 1].map (fun place => Char.ofNat (number / place % 256)) = [a, b, c, d] := by
  have first : a.toNat = number / 16777216 % 256 := by omega
  have second : b.toNat = number / 65536 % 256 := by omega
  have third : c.toNat = number / 256 % 256 := by omega
  have last : d.toNat = number / 1 % 256 := by omega
  rw [List.map_cons, List.map_cons, List.map_cons, List.map_singleton, ← first, ← second, ← third,
    ← last, Char.ofNat_toNat, Char.ofNat_toNat, Char.ofNat_toNat, Char.ofNat_toNat]

/-- Contents of at least five units begin with four, which is what the length field of a blob takes. -/
theorem exists_four {bytes : Contents} (long : ¬bytes.length < 5) :
    ∃ a b c d rest, bytes = a :: b :: c :: d :: rest := by
  rcases bytes with _ | ⟨a, _ | ⟨b, _ | ⟨c, _ | ⟨d, rest⟩⟩⟩⟩
  · simp at long
  · simp at long
  · simp at long
  · simp at long
  · exact ⟨a, b, c, d, rest, rfl⟩

/-- A blob that is accepted begins with its type as a string with its length in front, which is how the
server recognizes it. -/
theorem validateBlobType_typed (allowed : type ∈ allowedTypes)
    (valid : validateBlobType type blob = .ok ()) : lengthPrefixed (encoded type) <+: blob := by
  obtain ⟨printable, short, -, -⟩ := allowedTypes_printable type allowed
  unfold validateBlobType at valid
  split at valid
  · cases valid
  next long =>
    obtain ⟨a, b, c, d, rest, rfl⟩ := exists_four long
    simp only [List.take_succ_cons, List.take_zero, List.foldl_cons, List.foldl_nil,
      List.drop_succ_cons, List.drop_zero, Nat.zero_mul, Nat.zero_add, List.length_cons] at valid
    generalize sum : ((a.toNat * 256 + b.toNat) * 256 + c.toNat) * 256 + d.toNat = number at valid
    split at valid
    · cases valid
    next field =>
      split at valid
      · cases valid
      next equal =>
        have same := Decidable.not_not.mp equal
        have text : encoded type = rest.take number := by
          rw [same]
          exact encoded_decodedAscii fun unit member => (printable unit (same ▸ member)).2
        have length : type.length = number := by
          rw [same, decodedAscii, List.length_map, List.length_take]
          omega
        have bytes : (rest.take number).length = number := by
          rw [List.length_take]
          omega
        rw [lengthPrefixed, text, bytes, four_bytes sum (by omega)]
        exact ⟨rest.drop number, by simp⟩

/-- What becomes of a line that is not refused: an empty line or a comment changes nothing, and any
other is appended as it is and counted. -/
theorem acceptLine_ok (accepted : acceptLine decode keys original = .ok next) :
    (isKeyLine (trim original) = false ∧ next = keys) ∨
      (isKeyLine (trim original) = true ∧ (∃ blob, AcceptedLine decode (trim original) blob) ∧
        next = ⟨keys.normalized ++ trim original ++ [0x0a], keys.keyCount + 1⟩) := by
  unfold acceptLine at accepted
  by_cases skipped : trim original = [] ∨ (trim original).head? = some 0x23
  · left
    simp only [if_pos skipped] at accepted
    cases accepted
    simp only [isKeyLine]
    rcases skipped with empty | comment
    · simp [empty]
    · simp [comment]
  · right
    simp only [if_neg skipped] at accepted
    obtain ⟨-, accepted⟩ := passes_of_ok accepted
    split at accepted
    next type key rest fields =>
      obtain ⟨rfl, rfl, separated⟩ := splitLimit_fields fields
      obtain ⟨allowed, accepted⟩ := passes_of_ok accepted
      obtain ⟨base64, accepted⟩ := passes_of_ok accepted
      split at accepted
      · cases accepted
      next blob decoded =>
        cases valid : validateBlobType (typeOf (trim original)) blob with
        | error message =>
            rw [valid] at accepted
            cases accepted
        | ok nothing =>
            rw [valid] at accepted
            obtain ⟨-, accepted⟩ := passes_of_ok accepted
            obtain ⟨-, accepted⟩ := passes_of_ok accepted
            cases accepted
            have typed := validateBlobType_typed (Decidable.not_not.mp allowed) valid
            refine ⟨?_, ⟨blob, separated, Decidable.not_not.mp allowed, ?_, decoded, typed⟩, rfl⟩
            · rw [not_or] at skipped
              simp [isKeyLine, skipped]
            · simpa using base64
    next => cases accepted

/-- The lines of the result are those that are looked at, and all of them are accepted. -/
theorem foldlM_acceptLine {lines : List JavaString}
    (accepted : lines.foldlM (acceptLine decode) keys = .ok next) :
    next.normalized = keys.normalized ++ ((lines.map trim).filter isKeyLine).flatMap (· ++ [0x0a]) ∧
      next.keyCount = keys.keyCount + ((lines.map trim).filter isKeyLine).length ∧
      ∀ line ∈ (lines.map trim).filter isKeyLine, ∃ blob, AcceptedLine decode line blob := by
  induction lines generalizing keys with
  | nil =>
      cases accepted
      simp
  | cons line lines ih =>
      rw [List.foldlM_cons] at accepted
      cases first : acceptLine decode keys line with
      | error message =>
          rw [first] at accepted
          cases accepted
      | ok middle =>
          rw [first] at accepted
          obtain ⟨text, count, all⟩ := ih accepted
          rw [List.map_cons]
          rcases acceptLine_ok first with ⟨skipped, rfl⟩ | ⟨looked, valid, rfl⟩
          · rw [List.filter_cons_of_neg (by simp [skipped])]
            exact ⟨text, count, all⟩
          · rw [List.filter_cons_of_pos looked]
            refine ⟨?_, ?_, ?_⟩
            · simp only [text, List.flatMap_cons, List.append_assoc]
            · rw [count, List.length_cons, Nat.add_assoc, Nat.add_comm 1]
            · intro other member
              rcases List.mem_cons.mp member with rfl | later
              · exact valid
              · exact all other later

/-- What is written for an input, and how many lines are counted. -/
theorem normalizedKeys_ok {input : JavaString}
    (accepted : normalizedKeys decode (some input) = .ok next) :
    next.normalized = (keptLines input).flatMap (· ++ [0x0a]) ∧
      next.keyCount = (keptLines input).length ∧
      ∀ line ∈ keptLines input, ∃ blob, AcceptedLine decode line blob := by
  unfold normalizedKeys at accepted
  simp only [] at accepted
  split at accepted
  · cases accepted
  cases folded : ((normalizedInput input).splitOn 0x0a).foldlM (acceptLine decode) {} with
  | error message =>
      rw [folded] at accepted
      cases accepted
  | ok keys =>
      rw [folded] at accepted
      obtain ⟨-, accepted⟩ := passes_of_ok accepted
      cases accepted
      obtain ⟨text, count, all⟩ := foldlM_acceptLine folded
      exact ⟨text, by rw [count, Nat.zero_add, keptLines], all⟩

theorem newline_not_mem {input : JavaString} (member : line ∈ keptLines input) : 0x0a ∉ line := by
  obtain ⟨trimmed, -⟩ := List.mem_filter.mp member
  obtain ⟨piece, inside, rfl⟩ := List.mem_map.mp trimmed
  intro within
  have sub : ∀ {p : UInt16 → Bool} {text : JavaString}, text.dropWhile p ⊆ text :=
    fun {_ _} => (List.dropWhile_sublist _).subset
  have there : 0x0a ∈ piece := sub (List.mem_reverse.mp (sub (List.mem_reverse.mp within)))
  have clean : Fields.Clean (· == 0x0a) piece := Fields.clean_of_mem_words inside
  exact absurd (clean 0x0a there) (by decide)

end Lines

/-! ### Fields for the server -/

section ServerFields

variable {decode : JavaString → Option Contents} {line value type key gap : JavaString}
  {blob front word rest : Contents} {unit : UInt16} {character : Char}

/-- A field with blanks in front of it goes on to the next blank. -/
theorem nextField_append (blanks : ∀ character ∈ front, isBlank character = true)
    (clean : ∀ character ∈ word, isBlank character = false) (filled : word ≠ []) :
    nextField (front ++ (word ++ rest)) =
      (word ++ rest.takeWhile (!isBlank ·), rest.dropWhile (!isBlank ·)) := by
  have inside : ∀ character ∈ word, (!isBlank character) = true := fun character member => by
    rw [clean character member, Bool.not_false]
  have begins : (word ++ rest).dropWhile isBlank = word ++ rest := by
    obtain ⟨first, more, rfl⟩ := List.exists_cons_of_ne_nil filled
    rw [List.cons_append, List.dropWhile_cons_of_neg (by simp [clean first (.head _)])]
  rw [nextField, List.dropWhile_append_of_pos blanks, begins, List.takeWhile_append_of_pos inside,
    List.dropWhile_append_of_pos inside]

/-- The characters of a text that is printable ASCII. -/
def Printable (value : JavaString) : Prop := ∀ unit ∈ value, 0x20 < unit ∧ unit < 0x80

/-- The names of the key types that are allowed are printable. -/
theorem printable_of_allowed (allowed : type ∈ allowedTypes) : Printable type :=
  (allowedTypes_printable type allowed).1

theorem printable_of_base64 (base64 : isBase64Text key = true) : Printable key ∧ key ≠ [] := by
  simp only [isBase64Text, Bool.and_eq_true, List.all_eq_true, beq_iff_eq, decide_eq_true_eq] at base64
  obtain ⟨⟨filled, padding⟩, -⟩ := base64
  refine ⟨fun unit member => ?_, fun nothing => ?_⟩
  · rw [← @List.takeWhile_append_dropWhile _ isBase64Text.isBase64Digit key, List.mem_append] at member
    rw [UInt16.lt_iff_toNat_lt, UInt16.lt_iff_toNat_lt]
    rcases member with digit | fill
    · have kind := List.mem_takeWhile_imp digit
      simp only [isBase64Text.isBase64Digit, Bool.or_eq_true, Bool.and_eq_true, decide_eq_true_eq,
        beq_iff_eq, UInt16.le_iff_toNat_le, ← UInt16.toNat_inj, UInt16.reduceToNat] at kind ⊢
      omega
    · rw [padding unit fill]
      decide
  · rw [nothing] at filled
    exact absurd filled (by decide)

/-- White space is a control character or a blank, or lies beyond ASCII and is no half of a pair. -/
theorem isSpace_bounds (space : isSpace unit = true) :
    unit.toNat ≤ 0x20 ∨
      0x80 ≤ unit.toNat ∧ isHighSurrogate unit = false ∧ isLowSurrogate unit = false := by
  simp only [isSpace, isHighSurrogate, isLowSurrogate, Bool.or_eq_true, Bool.and_eq_true,
    Bool.and_eq_false_iff, decide_eq_true_eq, decide_eq_false_iff_not, beq_iff_eq,
    UInt16.le_iff_toNat_le, ← UInt16.toNat_inj, UInt16.reduceToNat] at space ⊢
  omega

/-- A unit that is no higher than the blank is ASCII, so that it stands for itself in UTF-8. -/
theorem ascii_of_low (low : unit.toNat ≤ 0x20) : unit < 0x80 :=
  UInt16.lt_iff_toNat_lt.mpr (Nat.lt_of_le_of_lt low (by decide))

/-- A space is a character of one unit and begins no surrogate pair. -/
theorem single_of_space (space : isSpace unit = true) : isHighSurrogate unit = false := by
  rcases isSpace_bounds space with low | ⟨-, high, -⟩
  · exact (not_surrogate_of_ascii (ascii_of_low low)).1
  · exact high

/-- An ASCII unit and a character are the same when their numbers are. -/
theorem ofNat_unit (ascii : unit < 0x80) :
    Char.ofNat unit.toNat = character ↔ unit.toNat = character.toNat := by
  have small : unit.toNat < 0x100 := Nat.lt_trans (UInt16.lt_iff_toNat_lt.mp ascii) (by decide)
  constructor
  · rintro rfl
    exact (toNat_ofNat_byte small).symm
  · intro value
    rw [value, Char.ofNat_toNat]

/-- Of the ASCII units sshd takes the blank and the tabulator for gaps, and no other. -/
theorem isBlank_unit (ascii : unit < 0x80) :
    isBlank (Char.ofNat unit.toNat) = true ↔ unit = 0x20 ∨ unit = 0x09 := by
  rw [isBlank, Bool.or_eq_true, beq_iff_eq, beq_iff_eq, ofNat_unit ascii, ofNat_unit ascii,
    ← UInt16.toNat_inj, ← UInt16.toNat_inj]
  rfl

/-- The bytes of a printable text are printable. -/
theorem bounds_of_printable (printable : Printable value) (member : character ∈ encoded value) :
    0x20 < character.toNat ∧ character.toNat < 0x80 := by
  rw [encoded_ascii fun unit within => (printable unit within).2] at member
  obtain ⟨unit, within, rfl⟩ := List.mem_map.mp member
  obtain ⟨above, below⟩ := printable unit within
  rw [UInt16.lt_iff_toNat_lt] at above below
  rw [toNat_ofNat_byte (Nat.lt_trans below (by decide))]
  exact ⟨above, below⟩

/-- A character above the blank is no gap for sshd. -/
theorem unblank_of_above (above : 0x20 < character.toNat) : isBlank character = false := by
  rw [isBlank, Bool.or_eq_false_iff]
  constructor
  · rw [beq_eq_false_iff_ne]
    rintro rfl
    exact absurd above (by decide)
  · rw [beq_eq_false_iff_ne]
    rintro rfl
    exact absurd above (by decide)

/-- The gap between type and key consists of what `\s` matches on Android. -/
theorem gapOf_space (member : unit ∈ gapOf line) : isSpace unit = true :=
  List.mem_takeWhile_imp (p := isSpace) member

/-- What is behind the key begins with what `\s` matches on Android, for the key ends there. -/
theorem behindKey_space (begins : (behindKey line).head? = some unit) : isSpace unit = true := by
  have head := List.head?_dropWhile_not (!isSpace ·) ((line.dropWhile (!isSpace ·)).dropWhile isSpace)
  rw [behindKey] at begins
  rw [begins] at head
  simpa using head

theorem unprintable_of_space (space : isSpace unit = true) (member : character ∈ encodedUnit unit) :
    character.toNat ≤ 0x20 ∨ 0x80 ≤ character.toNat := by
  rcases isSpace_bounds space with small | ⟨beyond, high, low⟩
  · rw [encodedUnit_ascii (ascii_of_low small), List.mem_singleton] at member
    rw [member, toNat_ofNat_byte (Nat.lt_of_le_of_lt small (by decide))]
    exact .inl small
  · exact .inr (beyond_of_mem_encodedUnit beyond high low member)

/-- Blanks and tabs are the white space whose bytes are blanks for the server. -/
theorem isBlank_byte (space : isSpace unit = true) (member : character ∈ encodedUnit unit) :
    isBlank character = true ↔ unit = 0x20 ∨ unit = 0x09 := by
  rcases isSpace_bounds space with small | ⟨beyond, high, low⟩
  · have ascii := ascii_of_low small
    rw [encodedUnit_ascii ascii, List.mem_singleton] at member
    rw [member, isBlank_unit ascii]
  · have apart := beyond_of_mem_encodedUnit beyond high low member
    refine iff_of_false ?_ ?_
    · rw [isBlank, Bool.or_eq_true, beq_iff_eq, beq_iff_eq]
      rintro (rfl | rfl) <;> exact absurd apart (by decide)
    · rintro (rfl | rfl) <;> exact absurd beyond (by decide)

/-- No unit of the gap is half of a surrogate pair, so that the gap is encoded unit by unit. -/
theorem single_of_gapOf : ∀ unit ∈ gapOf line, isHighSurrogate unit = false :=
  fun _ member => single_of_space (gapOf_space member)

/-- The bytes of the gap are those of its units. -/
theorem mem_encoded_gapOf :
    character ∈ encoded (gapOf line) ↔ ∃ unit ∈ gapOf line, character ∈ encodedUnit unit := by
  rw [encoded_singles single_of_gapOf, List.mem_flatMap]

/-- The parts of an accepted line are encoded separately, since no surrogate pair is cut at their ends.
-/
theorem encoded_line (accepted : AcceptedLine decode line blob) :
    encoded line = encoded (typeOf line) ++
      (encoded (gapOf line) ++ (encoded (keyOf line) ++ encoded (behindKey line))) := by
  have type : ∀ unit ∈ typeOf line, unit < 0x80 :=
    fun unit member => (printable_of_allowed accepted.allowed unit member).2
  have key : ∀ unit ∈ keyOf line, unit < 0x80 :=
    fun unit member => ((printable_of_base64 accepted.base64).1 unit member).2
  conv_lhs => rw [line_eq line]
  rw [encoded_ascii_append type, encoded_singles_append single_of_gapOf, encoded_ascii_append key,
    ← encoded_ascii type, ← encoded_singles single_of_gapOf, ← encoded_ascii key]

/-- Text that is printable and not empty has bytes. -/
theorem encoded_ne_nil (printable : Printable value) (filled : value ≠ []) : encoded value ≠ [] := by
  rw [encoded_ascii fun unit member => (printable unit member).2]
  exact mt List.map_eq_nil_iff.mp filled

/-- Printable text has no byte that sshd takes for a gap. -/
theorem encoded_clean (printable : Printable value) :
    ∀ character ∈ encoded value, isBlank character = false :=
  fun _ member => unblank_of_above (bounds_of_printable printable member).1

/-- White space begins what is behind the key, for the app and for the server. -/
theorem encoded_behindKey (begins : (behindKey line).head? = some unit) :
    ∃ rest, encoded (behindKey line) = encodedUnit unit ++ rest := by
  obtain ⟨rest, there⟩ := List.head?_eq_some_iff.mp begins
  rw [there, encoded_cons_single (single_of_space (behindKey_space begins))]
  exact ⟨_, rfl⟩

/-- A field that ends at a blank or at the end of the line. -/
theorem nextField_word (blanks : ∀ character ∈ front, isBlank character = true)
    (clean : ∀ character ∈ word, isBlank character = false) (filled : word ≠ [])
    (ends : ∀ character ∈ rest.head?, isBlank character = true) :
    nextField (front ++ (word ++ rest)) = (word, rest) := by
  rw [nextField_append blanks clean filled]
  cases rest with
  | nil => rw [List.takeWhile_nil, List.append_nil, List.dropWhile_nil]
  | cons character rest =>
      have blank : ¬(!isBlank character) = true := by
        rw [ends character rfl]
        decide
      rw [List.takeWhile_cons_of_neg (p := (!isBlank ·)) blank, List.append_nil,
        List.dropWhile_cons_of_neg (p := (!isBlank ·)) blank]

theorem encoded_gapOf_ne_nil (separated : gapOf line ≠ []) : encoded (gapOf line) ≠ [] := by
  obtain ⟨unit, member⟩ := List.exists_mem_of_ne_nil _ separated
  obtain ⟨character, byte⟩ := List.exists_mem_of_ne_nil _ (encodedUnit_ne_nil unit)
  exact List.ne_nil_of_mem (mem_encoded_gapOf.mpr ⟨unit, member, byte⟩)

/-- A line with plain spaces is a bare key for the server, which finds the same type and the same key in
its first two fields. -/
theorem bareKey_of_plain (accepted : AcceptedLine decode line blob) (plain : PlainSpaces line) :
    BareKey decode (encoded line) (typeOf line) (keyOf line) blob := by
  obtain ⟨printable, -, typed, noComment⟩ := allowedTypes_printable _ accepted.allowed
  obtain ⟨keyPrintable, keyFilled⟩ := printable_of_base64 accepted.base64
  have blanks : ∀ character ∈ encoded (gapOf line), isBlank character = true := by
    intro character member
    obtain ⟨unit, within, byte⟩ := mem_encoded_gapOf.mp member
    exact (isBlank_byte (gapOf_space within) byte).mpr (plain.1 unit within)
  have ends : ∀ character ∈ (encoded (behindKey line)).head?, isBlank character = true := by
    intro character begins
    cases behind : behindKey line with
    | nil =>
        rw [behind] at begins
        cases begins
    | cons unit others =>
        have here : (behindKey line).head? = some unit := by rw [behind, List.head?_cons]
        obtain ⟨rest, bytes⟩ := encoded_behindKey here
        rw [bytes, List.head?_append_of_ne_nil _ (encodedUnit_ne_nil unit)] at begins
        exact (isBlank_byte (behindKey_space here) (List.mem_of_mem_head? begins)).mpr
          (plain.2 unit here)
  have gapFilled := encoded_gapOf_ne_nil accepted.separated
  have first : nextField (encoded line) = (encoded (typeOf line),
      encoded (gapOf line) ++ (encoded (keyOf line) ++ encoded (behindKey line))) := by
    rw [encoded_line accepted, ← List.nil_append (encoded (typeOf line) ++ _)]
    refine nextField_word (fun _ member => absurd member List.not_mem_nil) (encoded_clean printable)
      (encoded_ne_nil printable typed) ?_
    intro character begins
    obtain ⟨blank, more, gap⟩ := List.exists_cons_of_ne_nil gapFilled
    rw [gap, List.cons_append, List.head?_cons] at begins
    cases begins
    exact blanks _ (gap ▸ .head _)
  have second : nextField (nextField (encoded line)).2 =
      (encoded (keyOf line), encoded (behindKey line)) := by
    rw [first]
    exact nextField_word blanks (encoded_clean keyPrintable)
      (encoded_ne_nil keyPrintable keyFilled) ends
  have begins : encoded line = encoded (typeOf line) ++ _ := encoded_line accepted
  obtain ⟨unit, units, type⟩ := List.exists_cons_of_ne_nil typed
  have ascii : unit < 0x80 := (printable unit (type ▸ .head _)).2
  rw [type, encoded_cons_ascii ascii, List.cons_append] at begins
  exact
    { first := by rw [first]
      second := by rw [second]
      allowed := accepted.allowed
      base64 := accepted.base64
      decoded := accepted.decoded
      typed := accepted.typed
      filled := by
        rw [begins]
        exact List.cons_ne_nil _ _
      noComment := by
        rw [begins, List.head?_cons]
        intro comment
        have same := (ofNat_unit ascii).mp (Option.some.inj comment)
        rw [type, List.head?_cons] at noComment
        exact noComment (congrArg some (UInt16.toNat_inj.mp same)) }

/-- A field of the server that is a printable text has no other white space in it. -/
theorem no_space_in_field (printable : Printable value) (field : word ++ rest = encoded value)
    (member : character ∈ word ++ rest) (space : isSpace unit = true)
    (byte : character ∈ encodedUnit unit) : False := by
  rw [field] at member
  obtain ⟨above, below⟩ := bounds_of_printable printable member
  rcases unprintable_of_space space byte with low | beyond
  · exact absurd above (Nat.not_lt.mpr low)
  · exact absurd below (Nat.not_lt.mpr beyond)

/-- The white space behind the type begins with a blank, because a field of the server ends there. -/
theorem dropWhile_gapOf {more : Contents} (separated : gapOf line ≠ []) (printable : Printable value)
    (field : word ++ (encoded (gapOf line) ++ more).takeWhile (!isBlank ·) = encoded value) :
    (encoded (gapOf line) ++ more).dropWhile (!isBlank ·) = encoded (gapOf line) ++ more := by
  cases gap : encoded (gapOf line) with
  | nil => exact absurd gap (encoded_gapOf_ne_nil separated)
  | cons character gapRest =>
      obtain ⟨unit, within, byte⟩ := mem_encoded_gapOf.mp
        (gap ▸ List.mem_cons_self : character ∈ encoded (gapOf line))
      rw [List.cons_append, List.dropWhile_cons_of_neg (p := (!isBlank ·))]
      intro unblank
      rw [gap, List.cons_append, List.takeWhile_cons_of_pos (p := (!isBlank ·)) unblank] at field
      exact no_space_in_field printable field (List.mem_append_right _ (.head _)) (gapOf_space within) byte

/-- All of the white space behind the type is blank, because the next field of the server begins behind
it. -/
theorem blank_gapOf {more : Contents} (printable : Printable value)
    (field : (nextField (encoded (gapOf line) ++ more)).1 = encoded value) :
    ∀ character ∈ encoded (gapOf line), isBlank character = true := by
  by_contra some
  have rest : (encoded (gapOf line)).dropWhile isBlank ≠ [] :=
    mt List.dropWhile_eq_nil_iff.mp some
  obtain ⟨character, behindBlanks, begins⟩ := List.exists_cons_of_ne_nil rest
  have unblank := List.head?_dropWhile_not isBlank (encoded (gapOf line))
  rw [begins] at unblank
  have next : nextField ((encoded (gapOf line)).takeWhile isBlank ++
      ([character] ++ (behindBlanks ++ more))) = _ :=
    nextField_append (fun _ => List.mem_takeWhile_imp) (by simpa using unblank) (List.cons_ne_nil _ _)
  have whole : (encoded (gapOf line)).takeWhile isBlank ++ ([character] ++ (behindBlanks ++ more)) =
      encoded (gapOf line) ++ more := by
    rw [← List.append_assoc [character], List.singleton_append, ← begins, ← List.append_assoc,
      List.takeWhile_append_dropWhile]
  rw [whole] at next
  rw [next] at field
  have member : character ∈ encoded (gapOf line) :=
    (List.dropWhile_sublist isBlank).subset (begins ▸ .head _)
  obtain ⟨unit, within, byte⟩ := mem_encoded_gapOf.mp member
  exact no_space_in_field printable field (.head _) (gapOf_space within) byte

/-- A line that is a bare key for the server has plain spaces: any other white space would have been
part of one of the server's fields. -/
theorem plain_of_bareKey {other : Contents} (accepted : AcceptedLine decode line blob)
    (bare : BareKey decode (encoded line) type key other) : PlainSpaces line := by
  obtain ⟨printable, -, typed, -⟩ := allowedTypes_printable _ accepted.allowed
  obtain ⟨keyPrintable, keyFilled⟩ := printable_of_base64 accepted.base64
  have typePrintable := printable_of_allowed bare.allowed
  obtain ⟨fieldPrintable, -⟩ := printable_of_base64 bare.base64
  have first := bare.first
  have second := bare.second
  generalize behind : encoded (keyOf line) ++ encoded (behindKey line) = more at *
  have split : nextField ([] ++ (encoded (typeOf line) ++ (encoded (gapOf line) ++ more))) = _ :=
    nextField_append (fun _ member => absurd member List.not_mem_nil) (encoded_clean printable)
      (encoded_ne_nil printable typed)
  rw [List.nil_append, ← behind, ← encoded_line accepted, behind] at split
  rw [split] at first second
  rw [dropWhile_gapOf accepted.separated typePrintable first] at second
  have blanks := blank_gapOf fieldPrintable second
  have field : nextField (encoded (gapOf line) ++
      (encoded (keyOf line) ++ encoded (behindKey line))) = _ :=
    nextField_append blanks (encoded_clean keyPrintable) (encoded_ne_nil keyPrintable keyFilled)
  rw [behind] at field
  rw [field] at second
  constructor
  · intro unit member
    obtain ⟨character, byte⟩ := List.exists_mem_of_ne_nil _ (encodedUnit_ne_nil unit)
    exact (isBlank_byte (gapOf_space member) byte).mp
      (blanks character (mem_encoded_gapOf.mpr ⟨unit, member, byte⟩))
  · intro unit begins
    have space := behindKey_space begins
    obtain ⟨character, others, bytes⟩ := List.exists_cons_of_ne_nil (encodedUnit_ne_nil unit)
    have byte : character ∈ encodedUnit unit := bytes ▸ .head _
    rw [← isBlank_byte space byte]
    -- Otherwise the second field does not end with the key.
    by_contra unblank
    obtain ⟨rest, there⟩ := encoded_behindKey begins
    rw [there, bytes, List.cons_append,
      List.takeWhile_cons_of_pos (p := (!isBlank ·)) (by simpa using unblank)] at second
    exact no_space_in_field fieldPrintable second (List.mem_append_right _ (.head _)) space byte

/-- Exactly the lines with plain spaces are bare keys for the server. -/
theorem bareKey_iff (accepted : AcceptedLine decode line blob) :
    (∃ type key blob, BareKey decode (encoded line) type key blob) ↔ PlainSpaces line := by
  constructor
  · rintro ⟨type, key, other, bare⟩
    exact plain_of_bareKey accepted bare
  · intro plain
    exact ⟨_, _, _, bareKey_of_plain accepted plain⟩

end ServerFields

/-! ### The stored file -/

section Stored

variable {decode : JavaString → Option Contents} {authorizedKeys : File} {input : JavaString}
  {before after : FileWorld} {log : List FileExchange} {count : Nat} {keys : AcceptedKeys}

/-- Lines with their newlines are encoded line by line. -/
theorem encoded_lines (lines : List JavaString) :
    encoded (lines.flatMap (· ++ [0x0a])) = (lines.map encoded).flatMap (· ++ ['\n']) ++ [] := by
  induction lines with
  | nil => rfl
  | cons line lines ih =>
      have newline : encoded (0x0a :: lines.flatMap (· ++ [0x0a])) =
          '\n' :: encoded (lines.flatMap (· ++ [0x0a])) := encoded_cons_ascii (by decide)
      rw [List.flatMap_cons, List.append_assoc, List.singleton_append,
        encoded_append (by decide), newline, ih, List.map_cons, List.flatMap_cons]
      simp [List.append_assoc]

/-- What is stored for an input is a file of bare keys exactly if the spaces are plain. -/
theorem bareFile_iff (accepted : normalizedKeys decode (some input) = .ok keys) :
    BareFile decode (encoded keys.normalized) keys.keyCount ↔
      ∀ line ∈ keptLines input, PlainSpaces line := by
  obtain ⟨text, number, all⟩ := normalizedKeys_ok accepted
  have plain : ∀ bytes ∈ (keptLines input).map encoded, '\n' ∉ bytes := by
    intro bytes member
    obtain ⟨line, within, rfl⟩ := List.mem_map.mp member
    refine not_mem_encoded (by decide) (by decide) ?_
    intro unit inside same
    have newline : unit = 0x0a := UInt16.toNat_inj.mp same
    exact newline_not_mem within (newline ▸ inside)
  have split : (encoded keys.normalized).splitOn '\n' = (keptLines input).map encoded ++ [[]] := by
    rw [text, encoded_lines, Fields.splitOn_terminated plain List.not_mem_nil]
  constructor
  · rintro ⟨lines, cut, -, bare⟩ line member
    obtain ⟨blob, valid⟩ := all line member
    have same := List.append_cancel_right (split.symm.trans cut)
    exact (bareKey_iff valid).mp (bare _ (same ▸ List.mem_map_of_mem member))
  · intro spaces
    refine ⟨_, split, by rw [List.length_map, number], fun bytes member => ?_⟩
    obtain ⟨line, within, rfl⟩ := List.mem_map.mp member
    obtain ⟨blob, valid⟩ := all line within
    exact (bareKey_iff valid).mpr (spaces line within)

/-- A run that returns has stored the keys it has counted; whatever was in the file before, the rename
has put the new text in its place. -/
theorem validateAndSave_stores
    (run : Runs (validateAndSave decode authorizedKeys (some input)).run log (.ok count))
    (seen : observed FileWorld.observe before log = some after) :
    ∃ keys, normalizedKeys decode (some input) = .ok keys ∧
      after.contents authorizedKeys = some (encoded keys.normalized) ∧ count = keys.keyCount := by
  cases valid : normalizedKeys decode (some input) with
  | error message =>
      rw [validateAndSave, valid] at run
      cases run
  | ok keys =>
      have kept : Kept authorizedKeys (before.contents authorizedKeys) (before, false) := ⟨rfl, rfl⟩
      have staged : Staged authorizedKeys (before.contents authorizedKeys) (encoded keys.normalized)
          (before, false) (validateAndSave decode authorizedKeys (some input)) fun last number =>
            Replaced authorizedKeys (encoded keys.normalized) last ∧ number = keys.keyCount := by
        rw [validateAndSave, valid]
        apply staged_bind
        apply (publish_stages (staged_writeSynced (temporary_ne (by decide)) kept)).mono
        intro last _ replaced
        exact survives_pure (.replaced replaced) ⟨replaced, rfl⟩
      have ended := staged log _ _ (cut_some.mpr run) (observed_alongside seen false)
      exact ⟨keys, rfl, ended.1.contents, ended.2⟩

/-- After every run that returns, the stored file has one bare key for the server in each line, as many
as the run has counted, exactly if no other white space than blanks and tabs is around a key. -/
theorem stored_keys_bare_iff
    (run : Runs (validateAndSave decode authorizedKeys (some input)).run log (.ok count))
    (seen : observed FileWorld.observe before log = some after) :
    ∃ contents, after.contents authorizedKeys = some contents ∧
      (BareFile decode contents count ↔ ∀ line ∈ keptLines input, PlainSpaces line) := by
  obtain ⟨keys, accepted, stored, rfl⟩ := validateAndSave_stores run seen
  exact ⟨_, stored, bareFile_iff accepted⟩

/-! ### Examples -/

/-- The decoder on canonical base64 text. -/
def decodeText (text : JavaString) : Option Contents :=
  (Base64.decode (text.map fun unit => Char.ofNat unit.toNat)).map fun bytes =>
    bytes.map fun byte => Char.ofNat byte.toNat

/-- A device without stored keys. -/
def noKeys : FileWorld where
  contents _ := none
  assets _ := []

def keyFile : File := ⟨literal "/data".toList, literal "authorized_keys".toList⟩

/-- The calls of a run that stores these contents where nothing was. -/
def storing (contents : Contents) : List FileExchange :=
  let temporary := keyFile.temporary ".new".toList
  let modes (file : File) : List FileExchange :=
    [⟨.setReadable file false false, true⟩, ⟨.setWritable file false false, true⟩,
      ⟨.setExecutable file false false, true⟩, ⟨.setReadable file true true, true⟩,
      ⟨.setWritable file true true, true⟩]
  [⟨.openOutput temporary, true⟩, ⟨.write temporary contents, .complete⟩, ⟨.sync temporary, true⟩,
    ⟨.closeOutput temporary, true⟩] ++ modes temporary ++
    [⟨.fileExists keyFile, false⟩, ⟨.renameTo temporary keyFile, true⟩] ++ modes keyFile

theorem runs_storing {keys : AcceptedKeys}
    (accepted : normalizedKeys decodeText (some input) = .ok keys) :
    Runs (validateAndSave decodeText keyFile (some input)).run (storing (encoded keys.normalized))
      (.ok keys.keyCount) := by
  rw [validateAndSave, accepted]
  iterate 16 refine .ask _ _ _ ?_
  exact .done _

/-- An Ed25519 key of zeros. -/
def zeroKey : JavaString :=
  literal "AAAAC3NzaC1lZDI1NTE5AAAAIAAAAAAAAAAAAAAAAAAAAAAAAAAAAAAAAAAAAAAAAAAA".toList

/-- The key in one line with its type. -/
def zeroLine (gap : JavaString) : JavaString := literal "ssh-ed25519".toList ++ gap ++ zeroKey

/-- The line with the zero key is accepted and stored with a blank behind its type, and with a vertical
tab too. -/
theorem zeroLine_accepted : ∀ gap ∈ [[0x20], [0x0b]],
    normalizedKeys decodeText (some (zeroLine gap)) = .ok ⟨zeroLine gap ++ [0x0a], 1⟩ := by
  decide +kernel

/-- A no-break space is white space for the app as well. -/
example : normalizedKeys decodeText (some (zeroLine [0xa0])) = .ok ⟨zeroLine [0xa0] ++ [0x0a], 1⟩ := by
  decide +kernel

theorem stored_keys_bare_iff_zero : ∃ after contents,
    observed FileWorld.observe noKeys (storing (encoded (zeroLine [0x20] ++ [0x0a]))) = some after ∧
    after.contents keyFile = some contents ∧
    (BareFile decodeText contents 1 ↔ ∀ line ∈ keptLines (zeroLine [0x20]), PlainSpaces line) := by
  have run := runs_storing (zeroLine_accepted [0x20] (.head _))
  obtain ⟨contents, stored, bare⟩ := stored_keys_bare_iff run rfl
  exact ⟨_, contents, rfl, stored, bare⟩

/-- With a vertical tab behind the type the stored line has no type for the server: its first field goes
on to the end of the key. -/
theorem stored_keys_not_bare : ¬∀ (decode : JavaString → Option Contents) (authorizedKeys : File)
    (input : JavaString) (before after : FileWorld) (log : List FileExchange) (count : Nat),
    Runs (validateAndSave decode authorizedKeys (some input)).run log (.ok count) →
    observed FileWorld.observe before log = some after →
    ∃ contents, after.contents authorizedKeys = some contents ∧ BareFile decode contents count := by
  intro bare
  have accepted := zeroLine_accepted [0x0b] (.tail _ (.head _))
  obtain ⟨contents, stored, lines⟩ :=
    bare decodeText keyFile _ noKeys _ _ _ (runs_storing accepted) rfl
  have same : encoded (zeroLine [0x0b] ++ [0x0a]) = contents := Option.some.inj stored
  have kept : zeroLine [0x0b] ∈ keptLines (zeroLine [0x0b]) := by decide +kernel
  have plain := (bareFile_iff accepted).mp (same ▸ lines) _ kept
  have gap : 0x0b ∈ gapOf (zeroLine [0x0b]) := by decide +kernel
  exact absurd (plain.1 0x0b gap) (by decide)

end Stored

end DawnShell.App
