/-
Module: DawnShell.Proofs.JsonTokens
Layer: Proofs
Purpose: What the matches of the reader take.  A number is read to its end wherever it does not go on, and a
  string to the quote behind it; what is read as either is one by the grammar.
Trusted boundary: pure consequence of `JsonReader` and of the grammar
Main exports: taken_eq_some, jsonNumber_sound, jsonNumber_append, jsonString_sound, jsonString_body,
  jsonString_ends
-/
import Mathlib.Data.List.DropRight
import Mathlib.Data.List.TakeWhile
import DawnShell.Codec.JsonReader

namespace DawnShell.Codec.JsonReader

open JsonGrammar

/-! ### Matches at the position -/

/-- What is behind a fixed text stands behind it. -/
theorem taken_eq_some {word : String} {text rest : Text} :
    taken word text = some rest ↔ text = points word ++ rest := by
  unfold taken
  constructor
  · intro found
    split at found
    · rename_i starts
      obtain ⟨behind, rfl⟩ := starts
      rw [List.drop_left] at found
      rw [Option.some.inj found]
    · cases found
  · rintro rfl
    rw [if_pos (List.prefix_append _ _), List.drop_left]

/-- A fixed text is found in front of any other. -/
@[simp] theorem taken_append (word : String) (rest : Text) : taken word (points word ++ rest) = some rest :=
  taken_eq_some.mpr rfl

/-- A text that starts with another character does not start with a fixed text. -/
theorem taken_cons {word : String} {first point : Nat} {behind rest : Text}
    (starts : points word = point :: behind) (other : first ≠ point) :
    taken word (first :: rest) = none := by
  unfold taken
  rw [if_neg]
  rw [starts, List.cons_prefix_cons]
  exact fun both => other both.1.symm

/-- Nothing can be taken from the end of the text. -/
theorem taken_nil {word : String} {point : Nat} {behind : Text} (starts : points word = point :: behind) :
    taken word [] = none := by
  unfold taken
  rw [if_neg]
  rw [starts, List.prefix_nil]
  exact List.cons_ne_nil _ _

/-- White space in front of a text is skipped with the white space of the text. -/
theorem jsonSkipSpace_append {space : Text} (blank : Space space) (text : Text) :
    jsonSkipSpace (space ++ text) = jsonSkipSpace text :=
  List.dropWhile_append_of_pos blank

/-- A character that is no space is left where it is. -/
theorem jsonSkipSpace_cons {first : Nat} {rest : Text} (filled : isSpace first = false) :
    jsonSkipSpace (first :: rest) = first :: rest := by
  rw [jsonSkipSpace, List.dropWhile_cons_of_neg (by rw [filled]; decide)]

@[simp] theorem jsonSkipSpace_jsonSkipSpace (text : Text) :
    jsonSkipSpace (jsonSkipSpace text) = jsonSkipSpace text :=
  List.dropWhile_idempotent isSpace text

theorem exists_space (text : Text) : ∃ space, Space space ∧ text = space ++ jsonSkipSpace text :=
  ⟨text.takeWhile isSpace, fun _ found => List.mem_takeWhile_imp found,
    (List.takeWhile_append_dropWhile).symm⟩

/-- A run of characters ends where the next one is of another kind. -/
theorem takeWhile_run {test : Nat → Bool} {run rest : Text} (all : ∀ point ∈ run, test point = true)
    (stops : ∀ point ∈ rest.head?, test point = false) :
    (run ++ rest).takeWhile test = run ∧ (run ++ rest).dropWhile test = rest := by
  rw [List.takeWhile_append_of_pos all, List.dropWhile_append_of_pos all]
  cases rest with
  | nil => exact ⟨List.append_nil run, rfl⟩
  | cons first rest =>
      have other : ¬ test first = true := by rw [stops first rfl]; decide
      rw [List.takeWhile_cons_of_neg other, List.dropWhile_cons_of_neg other, List.append_nil]
      exact ⟨rfl, rfl⟩

/-- The run of digits at the front of a text consists of digits. -/
theorem run_digits (text : Text) : ∀ point ∈ text.takeWhile isDigit, isDigit point = true :=
  fun _ found => List.mem_takeWhile_imp found

/-! ### Numbers -/

/-- What is read as an integer is one of the grammar: a zero alone, or digits that do not begin with
one. -/
theorem jsonInteger_sound {text integer rest : Text} (read : jsonInteger text = some (integer, rest)) :
    Integer integer ∧ text = integer ++ rest := by
  cases text with
  | nil => cases read
  | cons first behind =>
      rw [jsonInteger] at read
      split at read
      · rename_i zero
        cases read
        rw [zero]
        exact ⟨.zero, rfl⟩
      · rename_i positive
        split at read
        · rename_i digit
          cases read
          refine ⟨.digits digit positive (run_digits behind), ?_⟩
          rw [List.cons_append, List.takeWhile_append_dropWhile]
        · cases read

/-- What is read as a fraction is one of the grammar, and the empty text is one. -/
theorem jsonFraction_sound (text : Text) :
    Fraction (jsonFraction text).1 ∧ text = (jsonFraction text).1 ++ (jsonFraction text).2 := by
  unfold jsonFraction
  split
  · exact ⟨.none, rfl⟩
  · rename_i rest found
    dsimp only
    split
    · exact ⟨.none, rfl⟩
    · rename_i filled
      refine ⟨.digits ⟨filled, run_digits rest⟩, ?_⟩
      rw [taken_eq_some.mp found, List.cons_append, List.takeWhile_append_dropWhile]
      rfl

/-- What is read as the sign of an exponent is one of the grammar, and the empty text is one. -/
theorem jsonSign_sound (text : Text) :
    Sign (jsonSign text).1 ∧ text = (jsonSign text).1 ++ (jsonSign text).2 := by
  cases text with
  | nil => exact ⟨.none, rfl⟩
  | cons first rest =>
      rw [jsonSign]
      split
      · rename_i sign
        rcases sign with rfl | rfl
        · exact ⟨.minus, rfl⟩
        · exact ⟨.plus, rfl⟩
      · exact ⟨.none, rfl⟩

/-- What is read as an exponent is one of the grammar; a letter without digits behind it is left in the
text. -/
theorem jsonExponent_sound (text : Text) :
    Exponent (jsonExponent text).1 ∧ text = (jsonExponent text).1 ++ (jsonExponent text).2 := by
  cases text with
  | nil => exact ⟨.none, rfl⟩
  | cons letter rest =>
      rw [jsonExponent]
      obtain ⟨signed, whole⟩ := jsonSign_sound rest
      split
      · rename_i isLetter
        dsimp only
        split
        · exact ⟨.none, rfl⟩
        · rename_i filled
          refine ⟨.digits isLetter signed ⟨filled, run_digits _⟩, ?_⟩
          rw [List.cons_append, List.append_assoc, List.takeWhile_append_dropWhile, ← whole]
      · exact ⟨.none, rfl⟩

/-- The parts of a number behind its sign are read from the text. -/
theorem jsonUnsigned_sound {text number rest : Text} (read : jsonUnsigned text = some (number, rest)) :
    ∃ integer fraction exponent, Integer integer ∧ Fraction fraction ∧ Exponent exponent ∧
      number = integer ++ (fraction ++ exponent) ∧ text = number ++ rest := by
  unfold jsonUnsigned at read
  split at read
  · cases read
  · rename_i integer behind found
    simp only [Option.some.injEq, Prod.mk.injEq] at read
    obtain ⟨rfl, rfl⟩ := read
    obtain ⟨whole, cut⟩ := jsonInteger_sound found
    obtain ⟨part, cutPart⟩ := jsonFraction_sound behind
    obtain ⟨power, cutPower⟩ := jsonExponent_sound (jsonFraction behind).2
    refine ⟨integer, _, _, whole, part, power, rfl, ?_⟩
    rw [List.append_assoc, List.append_assoc, ← cutPower, ← cutPart]
    exact cut

/-- What is read as a number is one, and stands in front of what is left. -/
theorem jsonNumber_sound {text number rest : Text} (read : jsonNumber text = some (number, rest)) :
    Number number ∧ text = number ++ rest := by
  unfold jsonNumber at read
  split at read
  · obtain ⟨_, _, _, whole, part, power, rfl, cut⟩ := jsonUnsigned_sound read
    exact ⟨.positive whole part power, cut⟩
  · rename_i behind minus
    obtain ⟨⟨unsigned, left⟩, found, same⟩ := Option.map_eq_some_iff.mp read
    cases same
    obtain ⟨_, _, _, whole, part, power, rfl, cut⟩ := jsonUnsigned_sound found
    refine ⟨.negative whole part power, ?_⟩
    rw [taken_eq_some.mp minus, cut]
    rfl

/-- What may stand behind a number: a number does not go on there. -/
def Stops (rest : Text) : Prop :=
  ∀ point ∈ rest.head?, isDigit point = false ∧ point ≠ 0x2e ∧ point ≠ 0x65 ∧ point ≠ 0x45

/-- An integer of the grammar is read whole when no digit follows it. -/
theorem jsonInteger_append {integer rest : Text} (whole : Integer integer)
    (stops : ∀ point ∈ rest.head?, isDigit point = false) :
    jsonInteger (integer ++ rest) = some (integer, rest) := by
  cases whole with
  | zero => rfl
  | digits digit positive all =>
      obtain ⟨run, behind⟩ := takeWhile_run all stops
      rw [List.cons_append, jsonInteger, if_neg positive, if_pos digit, run, behind]

/-- A fraction of the grammar is read whole when neither a digit nor a point follows it. -/
theorem jsonFraction_append {fraction rest : Text} (part : Fraction fraction)
    (stops : ∀ point ∈ rest.head?, isDigit point = false ∧ point ≠ 0x2e) :
    jsonFraction (fraction ++ rest) = (fraction, rest) := by
  cases part with
  | none =>
      have missing : taken "." rest = none := by
        cases rest with
        | nil => exact taken_nil rfl
        | cons first rest => exact taken_cons rfl (stops first rfl).2
      rw [List.nil_append, jsonFraction, missing]
  | @digits digits some =>
      have found : taken "." (0x2e :: (digits ++ rest)) = .some (digits ++ rest) := taken_eq_some.mpr rfl
      obtain ⟨run, behind⟩ := takeWhile_run some.all fun point first => (stops point first).1
      rw [List.cons_append, jsonFraction, found]
      dsimp only
      rw [run, behind, if_neg some.filled]

/-- A sign of the grammar is read whole when no other sign follows it. -/
theorem jsonSign_append {sign rest : Text} (signed : Sign sign)
    (unsigned : ∀ point ∈ rest.head?, point ≠ 0x2d ∧ point ≠ 0x2b) :
    jsonSign (sign ++ rest) = (sign, rest) := by
  cases signed with
  | plus => rfl
  | minus => rfl
  | none =>
      cases rest with
      | nil => rfl
      | cons first rest =>
          rw [List.nil_append, jsonSign, if_neg]
          rintro (minus | plus)
          · exact (unsigned first rfl).1 minus
          · exact (unsigned first rfl).2 plus

/-- An exponent of the grammar is read whole when nothing follows that could continue the number. -/
theorem jsonExponent_append {exponent rest : Text} (power : Exponent exponent)
    (stops : ∀ point ∈ rest.head?, isDigit point = false ∧ point ≠ 0x65 ∧ point ≠ 0x45) :
    jsonExponent (exponent ++ rest) = (exponent, rest) := by
  cases power with
  | none =>
      cases rest with
      | nil => rfl
      | cons first rest =>
          rw [List.nil_append, jsonExponent, if_neg]
          rintro (small | large)
          · exact (stops first rfl).2.1 small
          · exact (stops first rfl).2.2 large
  | @digits letter sign digits isLetter signed some =>
      have unsigned : ∀ point ∈ (digits ++ rest).head?, point ≠ 0x2d ∧ point ≠ 0x2b := by
        obtain ⟨first, more, rfl⟩ := List.exists_cons_of_ne_nil some.filled
        have digit := some.all first List.mem_cons_self
        intro point starts
        cases starts
        constructor
        · rintro rfl
          exact absurd digit (by decide)
        · rintro rfl
          exact absurd digit (by decide)
      obtain ⟨run, behind⟩ := takeWhile_run some.all fun point first => (stops point first).1
      rw [List.cons_append, List.append_assoc, jsonExponent, if_pos isLetter,
        jsonSign_append signed unsigned]
      dsimp only
      rw [run, behind, if_neg some.filled]

/-- An exponent does not go on with what comes before it. -/
theorem head_exponent {exponent rest : Text} (power : Exponent exponent) (stops : Stops rest) :
    ∀ point ∈ (exponent ++ rest).head?, isDigit point = false ∧ point ≠ 0x2e := by
  cases power with
  | none => exact fun point first => ⟨(stops point first).1, (stops point first).2.1⟩
  | digits isLetter signed some =>
      intro point starts
      cases starts
      rcases isLetter with rfl | rfl
      · decide
      · decide

/-- A fraction, or what follows an empty one, does not begin with a digit, so that the integer in front
of it ends there. -/
theorem head_fraction {fraction rest : Text} (part : Fraction fraction)
    (stops : ∀ point ∈ rest.head?, isDigit point = false ∧ point ≠ 0x2e) :
    ∀ point ∈ (fraction ++ rest).head?, isDigit point = false := by
  cases part with
  | none => exact fun point first => (stops point first).1
  | digits some =>
      intro point starts
      cases starts
      decide

/-- An unsigned number of the grammar is read whole when nothing follows that could continue it. -/
theorem jsonUnsigned_append {integer fraction exponent rest : Text} (whole : Integer integer)
    (part : Fraction fraction) (power : Exponent exponent) (stops : Stops rest) :
    jsonUnsigned (integer ++ (fraction ++ exponent) ++ rest) =
      some (integer ++ (fraction ++ exponent), rest) := by
  have stopsPower := head_exponent power stops
  rw [List.append_assoc, List.append_assoc, jsonUnsigned,
    jsonInteger_append whole (head_fraction part stopsPower)]
  dsimp only
  rw [jsonFraction_append part stopsPower]
  dsimp only
  rw [jsonExponent_append power fun point first =>
    ⟨(stops point first).1, (stops point first).2.2⟩]

/-- A number that does not go on is read to its end. -/
theorem jsonNumber_append {number rest : Text} (is : Number number) (stops : Stops rest) :
    jsonNumber (number ++ rest) = some (number, rest) := by
  cases is with
  | positive whole part power =>
      rw [jsonNumber]
      obtain ⟨first, more, rfl, digit⟩ := Integer.head whole
      have unsigned : first ≠ 0x2d := by
        rintro rfl
        exact absurd digit (by decide)
      have missing (text : Text) : taken "-" (first :: text) = none := taken_cons rfl unsigned
      rw [List.cons_append, List.cons_append, missing]
      exact jsonUnsigned_append whole part power stops
  | negative whole part power =>
      have minus (text : Text) : taken "-" (0x2d :: text) = some text := taken_append "-" text
      rw [jsonNumber, List.cons_append, minus]
      dsimp only
      rw [jsonUnsigned_append whole part power stops]
      rfl

/-! ### Strings -/

/-- A hexadecimal digit has the value the grammar gives it, and anything else has none. -/
theorem hexDigit_eq (point : Nat) :
    hexDigit point = if isHexDigit point = true then some (hexValue point) else none := by
  unfold hexDigit isHexDigit hexValue isDigit
  simp only [Bool.or_eq_true, Bool.and_eq_true, decide_eq_true_eq]
  split_ifs <;> first | rfl | omega

/-- Four digits make a unit when the match takes them. -/
theorem hexUnit_eq (first second third last : Nat) :
    hexUnit first second third last =
      if [first, second, third, last].all isHexDigit = true then some (hex [first, second, third, last])
      else none := by
  simp only [hexUnit, hexDigit_eq, List.all_cons, List.all_nil, Bool.and_true, Bool.and_eq_true]
  by_cases one : isHexDigit first = true
  · by_cases two : isHexDigit second = true
    · by_cases three : isHexDigit third = true
      · by_cases four : isHexDigit last = true
        · simp [one, two, three, four, hex]
        · simp [one, two, three, four]
      · simp [one, two, three]
    · simp [one, two]
  · simp [one]

/-- Looking a key up in a table asks for its first entry and then for the others. -/
theorem lookup_cons_eq_ite (point key meant : Nat) (table : List (Nat × Nat)) :
    ((key, meant) :: table).lookup point = if point = key then some meant else table.lookup point := by
  by_cases same : point = key
  · rw [if_pos same, same, List.lookup_cons_self]
  · rw [if_neg same, List.lookup_cons, beq_eq_false_iff_ne.mpr same]

/-- The table of the reader has the escapes of the grammar and no others. -/
theorem jsonEscapes_lookup (point : Nat) : jsonEscapes.lookup point = escaped point := by
  simp only [jsonEscapes, lookup_cons_eq_ite, List.lookup_nil, escaped]

/-- A Unicode escape is a backslash, a `u` and four hexadecimal digits, and it stands for their number.
-/
theorem unicodeEscape_eq_some {text rest : Text} {unit : Nat} :
    unicodeEscape text = some (unit, rest) ↔
      ∃ first second third last, hexUnit first second third last = some unit ∧
        text = 0x5c :: 0x75 :: first :: second :: third :: last :: rest := by
  constructor
  · intro found
    unfold unicodeEscape at found
    split at found
    · rename_i first second third last behind starts
      dsimp only at found
      split at found
      · rename_i digits
        cases found
        refine ⟨first, second, third, last, ?_, taken_eq_some.mp starts⟩
        rw [hexUnit_eq, if_pos digits]
      · cases found
    · cases found
  · rintro ⟨first, second, third, last, digits, rfl⟩
    have starts : taken "\\u" (0x5c :: 0x75 :: first :: second :: third :: last :: rest) =
        some (first :: second :: third :: last :: rest) := taken_append "\\u" _
    rw [hexUnit_eq] at digits
    rw [unicodeEscape, starts]
    dsimp only
    split at digits
    · rename_i hexadecimal
      cases digits
      exact if_pos hexadecimal
    · cases digits

/-- Any other escape is a backslash and one character, which the pattern does not let be a newline. -/
theorem characterEscape_eq_some {text rest : Text} {point : Nat} :
    characterEscape text = some (point, rest) ↔ point ≠ 0x0a ∧ text = 0x5c :: point :: rest := by
  constructor
  · intro found
    unfold characterEscape at found
    split at found
    · rename_i starts
      split at found
      · cases found
      · rename_i noNewline
        cases found
        exact ⟨noNewline, taken_eq_some.mp starts⟩
    · cases found
  · rintro ⟨noNewline, rfl⟩
    have starts : taken "\\" (0x5c :: point :: rest) = some (point :: rest) := taken_append "\\" _
    rw [characterEscape, starts]
    exact if_neg noNewline

/-- What stands for itself in a string is everything but the quotation mark and the backslash. -/
theorem isPlain_iff {point : Nat} : isPlain point = true ↔ point ≠ 0x22 ∧ point ≠ 0x5c := by
  rw [isPlain, Bool.and_eq_true, bne_iff_ne, bne_iff_ne]

/-- A turn of the loop over a string takes a run of plain characters, else the quote at the end, else an
escape. -/
theorem jsonString_turn (fuel : Nat) (result text : Text) :
    jsonString (fuel + 1) result text =
      if text.takeWhile isPlain ≠ [] then
        jsonString fuel (result ++ text.takeWhile isPlain) (text.dropWhile isPlain)
      else
        match taken "\"" text with
        | some rest => .ok (result, rest)
        | none =>
            match unicodeEscape text with
            | some (unit, rest) => jsonString fuel (result ++ [unit]) rest
            | none =>
                match characterEscape text with
                | none => .error (.message "unterminated JSON string")
                | some (point, rest) =>
                    match jsonEscapes.lookup point with
                    | none => .error (.message "invalid JSON string escape")
                    | some meant => jsonString fuel (result ++ [meant]) rest :=
  rfl

/-- What is read as a string stands in front of its quote, and it is a body of the grammar with the
meaning that the loop has collected. -/
theorem jsonString_sound (fuel : Nat) {result text value rest : Text}
    (read : jsonString fuel result text = .ok (value, rest)) :
    ∃ body meant, StringBody body meant ∧ text = body ++ 0x22 :: rest ∧ value = result ++ meant := by
  induction fuel generalizing result text with
  | zero => cases read
  | succ fuel ih =>
      rw [jsonString_turn] at read
      split at read
      · obtain ⟨body, meant, is, cut, rfl⟩ := ih read
        refine ⟨text.takeWhile isPlain ++ body, text.takeWhile isPlain ++ meant, ?_, ?_, ?_⟩
        · exact is.append fun point found => isPlain_iff.mp (List.mem_takeWhile_imp found)
        · rw [List.append_assoc, ← cut, List.takeWhile_append_dropWhile]
        · rw [List.append_assoc]
      · split at read
        · rename_i found
          cases read
          exact ⟨[], [], .nil, taken_eq_some.mp found, (List.append_nil _).symm⟩
        · split at read
          · rename_i unit behind found
            obtain ⟨_, _, _, _, digits, rfl⟩ := unicodeEscape_eq_some.mp found
            obtain ⟨body, meant, is, rfl, rfl⟩ := ih read
            exact ⟨_, unit :: meant, .unicode digits is, rfl, List.append_assoc _ _ _⟩
          · split at read
            · cases read
            · rename_i point behind found
              obtain ⟨-, rfl⟩ := characterEscape_eq_some.mp found
              split at read
              · cases read
              · rename_i meant known
                rw [jsonEscapes_lookup] at known
                obtain ⟨body, more, is, rfl, rfl⟩ := ih read
                exact ⟨_, meant :: more, .escape known is, rfl, List.append_assoc _ _ _⟩

/-- No escape is a newline, and none is the one of a unit. -/
theorem escaped_ne {point meant : Nat} (known : escaped point = some meant) :
    point ≠ 0x0a ∧ point ≠ 0x75 := by
  constructor
  · rintro rfl
    cases known
  · rintro rfl
    cases known

/-- At a quotation mark the loop returns what it has collected, and the text goes on behind the mark. -/
theorem jsonString_quote (fuel : Nat) (result rest : Text) :
    jsonString (fuel + 1) result (0x22 :: rest) = .ok (result, rest) := by
  have found : taken "\"" (0x22 :: rest) = some rest := taken_append "\"" rest
  have run : (0x22 :: rest).takeWhile isPlain = [] := rfl
  rw [jsonString_turn, run, if_neg (not_not_intro rfl), found]

theorem taken_quote_backslash (text : Text) : taken "\"" (0x5c :: text) = none :=
  taken_cons rfl (by decide)

theorem run_backslash (text : Text) : (0x5c :: text).takeWhile isPlain = [] := rfl

/-- A Unicode escape takes one turn of the loop and adds the unit that it stands for. -/
theorem jsonString_unicode {first second third last unit : Nat}
    (digits : hexUnit first second third last = some unit) (fuel : Nat) (result rest : Text) :
    jsonString (fuel + 1) result (0x5c :: 0x75 :: first :: second :: third :: last :: rest) =
      jsonString fuel (result ++ [unit]) rest := by
  have found : unicodeEscape (0x5c :: 0x75 :: first :: second :: third :: last :: rest) = some (unit, rest) :=
    unicodeEscape_eq_some.mpr ⟨first, second, third, last, digits, rfl⟩
  rw [jsonString_turn, run_backslash, if_neg (not_not_intro rfl), taken_quote_backslash, found]

/-- A known escape takes one turn of the loop and adds the character that it stands for. -/
theorem jsonString_escape {point meant : Nat} (known : escaped point = some meant) (fuel : Nat)
    (result rest : Text) :
    jsonString (fuel + 1) result (0x5c :: point :: rest) = jsonString fuel (result ++ [meant]) rest := by
  obtain ⟨noNewline, noUnit⟩ := escaped_ne known
  have found : characterEscape (0x5c :: point :: rest) = some (point, rest) :=
    characterEscape_eq_some.mpr ⟨noNewline, rfl⟩
  have noUnicode : unicodeEscape (0x5c :: point :: rest) = none := by
    refine Option.eq_none_iff_forall_ne_some.mpr fun read some => ?_
    obtain ⟨_, _, _, _, -, same⟩ := unicodeEscape_eq_some.mp some
    exact noUnit (List.cons.inj (List.cons.inj same).2).1
  rw [jsonString_turn, run_backslash, if_neg (not_not_intro rfl), taken_quote_backslash, noUnicode, found]
  dsimp only
  rw [jsonEscapes_lookup, known]

/-- A plain character is taken with the run behind it, if there is one. -/
theorem jsonString_plain {point : Nat} (plain : isPlain point = true) {fuel : Nat} {result text : Text}
    {read : Except JsonFailure (Text × Text)} (alone : jsonString fuel (result ++ [point]) text = read)
    (more : jsonString (fuel + 1) (result ++ [point]) text = read) :
    jsonString (fuel + 1) result (point :: text) = read := by
  rw [jsonString_turn, List.takeWhile_cons_of_pos plain, if_pos (List.cons_ne_nil _ _),
    List.dropWhile_cons_of_pos plain]
  by_cases run : text.takeWhile isPlain = []
  · have behind : text.dropWhile isPlain = text := by
      have whole := @List.takeWhile_append_dropWhile _ isPlain text
      rwa [run, List.nil_append] at whole
    rw [run, behind]
    exact alone
  · rw [jsonString_turn, if_pos run, List.append_assoc] at more
    exact more

/-- A string is read to the quote behind it, provided that the loop has a turn for every character of
the body. -/
theorem jsonString_body {body meant : Text} (is : StringBody body meant) {fuel : Nat}
    (enough : body.length ≤ fuel) (result rest : Text) :
    jsonString (fuel + 1) result (body ++ 0x22 :: rest) = .ok (result ++ meant, rest) := by
  induction is generalizing fuel result with
  | nil =>
      rw [List.append_nil]
      exact jsonString_quote fuel result rest
  | plain noQuote noEscape more ih =>
      rw [List.length_cons] at enough
      obtain ⟨fuel, rfl⟩ : ∃ less, fuel = less + 1 := ⟨fuel - 1, by omega⟩
      rw [List.cons_append]
      refine jsonString_plain (isPlain_iff.mpr ⟨noQuote, noEscape⟩) ?_ ?_
      · rw [ih (by omega) _, List.append_assoc]
        rfl
      · rw [ih (by omega) _, List.append_assoc]
        rfl
  | escape known more ih =>
      rw [List.length_cons, List.length_cons] at enough
      obtain ⟨fuel, rfl⟩ : ∃ less, fuel = less + 1 := ⟨fuel - 1, by omega⟩
      rw [List.cons_append, List.cons_append, jsonString_escape known, ih (by omega) _, List.append_assoc]
      rfl
  | unicode digits more ih =>
      simp only [List.length_cons] at enough
      obtain ⟨fuel, rfl⟩ : ∃ less, fuel = less + 1 := ⟨fuel - 1, by omega⟩
      simp only [List.cons_append]
      rw [jsonString_unicode digits, ih (by omega) _, List.append_assoc]
      rfl

/-- The loop over a string ends: every turn of it takes a character, so that more turns than characters
are enough. -/
theorem jsonString_ends {fuel : Nat} {text : Text} (enough : text.length < fuel) (result : Text) :
    jsonString fuel result text ≠ .error .exhausted := by
  induction fuel generalizing text result with
  | zero => exact absurd enough (Nat.not_lt_zero _)
  | succ fuel ih =>
      rw [jsonString_turn]
      split
      · rename_i run
        refine ih ?_ _
        have whole := congrArg List.length (@List.takeWhile_append_dropWhile _ isPlain text)
        have taken := List.length_pos_iff.mpr run
        rw [List.length_append] at whole
        omega
      · split
        · simp
        · split
          · rename_i found
            obtain ⟨_, _, _, _, -, rfl⟩ := unicodeEscape_eq_some.mp found
            simp only [List.length_cons] at enough
            exact ih (by omega) _
          · split
            · simp
            · rename_i found
              obtain ⟨-, rfl⟩ := characterEscape_eq_some.mp found
              split
              · simp
              · simp only [List.length_cons] at enough
                exact ih (by omega) _

end DawnShell.Codec.JsonReader
