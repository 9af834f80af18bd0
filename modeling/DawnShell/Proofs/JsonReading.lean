/-
Module: DawnShell.Proofs.JsonReading
Layer: Proofs
Purpose: The reader takes the documents of the grammar and no others, gives each the value the grammar
  gives it, and ends on every text; what `json_quote` writes is read back.
Trusted boundary: pure consequence of `JsonReader` and of the grammar
Main exports: valueOf, sound, complete, ends, jsonDecode_eq_ok, valueOf_unique, document_jsonQuote,
  json_documents
-/
import DawnShell.Lib.ExceptBind
import DawnShell.Proofs.JsonTokens

namespace DawnShell.Codec.JsonReader

open JsonGrammar

/-! ### The values of trees -/

mutual

/-- The value of a tree. -/
def valueOf : Tree → JsonValue
  | .string value => .text value
  | .number text => .text text
  | .true => .text (points "1")
  | .false => .text (points "0")
  | .null => .null
  | .array items => .array (valuesOf items)
  | .object members => .object (fieldsOf members)

def valuesOf : List Tree → List JsonValue
  | [] => []
  | tree :: trees => valueOf tree :: valuesOf trees

/-- The fields of an object: the last member of a name gives its value. -/
def fieldsOf : List (Text × Tree) → Text → Option JsonValue
  | [], _ => none
  | (name, tree) :: members, key =>
      (fieldsOf members key).or (if key = name then some (valueOf tree) else none)

end

/-- The fields of members that come to an object. -/
def extended (object : Text → Option JsonValue) (members : List (Text × Tree)) : Text → Option JsonValue :=
  fun key => (fieldsOf members key).or (object key)

/-- No members more leave an object as it is. -/
theorem extended_nil (object : Text → Option JsonValue) : extended object [] = object := by
  funext key
  rw [extended, fieldsOf, Option.none_or]

/-- A member is assigned before the members behind it. -/
theorem extended_cons (object : Text → Option JsonValue) (name : Text) (tree : Tree)
    (members : List (Text × Tree)) :
    extended object ((name, tree) :: members) = extended (assigned object name (valueOf tree)) members := by
  funext key
  rw [extended, extended, fieldsOf, Option.or_assoc, assigned]
  split
  · rfl
  · rfl

/-- Members put into the empty object are the object that the grammar means by them. -/
theorem extended_none (members : List (Text × Tree)) :
    extended (fun _ => none) members = fieldsOf members := by
  funext key
  rw [extended, Option.or_none]

/-! ### What is read is in the grammar -/

/-- What is read as a scalar is a value, and stands in front of what is left. -/
theorem jsonScalar_sound {text rest : Text} {value : JsonValue} (read : jsonScalar text = .ok (value, rest)) :
    ∃ part tree, Value part tree ∧ text = part ++ rest ∧ value = valueOf tree := by
  unfold jsonScalar at read
  split at read
  · rename_i behind quote
    obtain ⟨⟨meant, left⟩, string, same⟩ := Except.ok_of_bind read
    cases same
    obtain ⟨body, _, is, cut, rfl⟩ := jsonString_sound _ string
    refine ⟨_, .string meant, .string is, ?_, rfl⟩
    rw [taken_eq_some.mp quote, cut]
    simp [points]
  · split at read
    · rename_i number behind found
      cases read
      obtain ⟨is, cut⟩ := jsonNumber_sound found
      exact ⟨number, .number number, .number is, cut, rfl⟩
    · split at read
      · rename_i found
        cases read
        exact ⟨_, .true, .true, taken_eq_some.mp found, rfl⟩
      · split at read
        · rename_i found
          cases read
          exact ⟨_, .false, .false, taken_eq_some.mp found, rfl⟩
        · split at read
          · rename_i found
            cases read
            exact ⟨_, .null, .null, taken_eq_some.mp found, rfl⟩
          · cases read

/-- What the functions read with some fuel is in the grammar, and stands in front of what is left. -/
structure Sound (fuel : Nat) : Prop where
  value : ∀ {text rest : Text} {value : JsonValue}, jsonValue fuel text = .ok (value, rest) →
    ∃ part tree, Element part tree ∧ text = part ++ rest ∧ value = valueOf tree
  members : ∀ {object : Text → Option JsonValue} {text rest : Text} {value : JsonValue},
    jsonMembers fuel object text = .ok (value, rest) →
      ∃ part fields, Members part fields ∧ text = part ++ 0x7d :: rest ∧
        value = .object (extended object fields)
  elements : ∀ {array : List JsonValue} {text rest : Text} {value : JsonValue},
    jsonElements fuel array text = .ok (value, rest) →
      ∃ part trees, Elements part trees ∧ text = part ++ 0x5d :: rest ∧
        value = .array (array ++ valuesOf trees)

/-- A value that the reader takes from the front of a text is an element of the grammar, and what it
returns is the meaning of that element; the readers of members and elements are known to be sound for
less fuel. -/
theorem jsonValue_sound {fuel : Nat} (less : Sound fuel) {text rest : Text} {value : JsonValue}
    (read : jsonValue (fuel + 1) text = .ok (value, rest)) :
    ∃ part tree, Element part tree ∧ text = part ++ rest ∧ value = valueOf tree := by
  obtain ⟨front, blank, cut⟩ := exists_space text
  rw [jsonValue] at read
  -- a value of what is left behind the white space makes an element
  suffices inner : ∃ part tree, Value part tree ∧ jsonSkipSpace text = part ++ rest ∧
      value = valueOf tree by
    obtain ⟨part, tree, is, found, rfl⟩ := inner
    refine ⟨front ++ (part ++ []), tree, .intro blank is (List.forall_mem_nil _), ?_, rfl⟩
    rw [List.append_nil, List.append_assoc, ← found]
    exact cut
  split at read
  · rename_i behind brace
    obtain ⟨space, blankSpace, cutSpace⟩ := exists_space behind
    rw [taken_eq_some.mp brace, cutSpace]
    split at read
    · rename_i closed
      cases read
      refine ⟨_, .object [], .emptyObject blankSpace, ?_, ?_⟩
      · rw [taken_eq_some.mp closed]
        simp [points]
      · rw [valueOf, ← extended_none, extended_nil]
    · obtain ⟨part, fields, members, found, rfl⟩ := less.members read
      refine ⟨_, .object fields, .object (members.blank blankSpace), ?_, ?_⟩
      · rw [found]
        simp [points]
      · rw [extended_none, valueOf]
  · split at read
    · rename_i behind bracket
      obtain ⟨space, blankSpace, cutSpace⟩ := exists_space behind
      rw [taken_eq_some.mp bracket, cutSpace]
      split at read
      · rename_i closed
        cases read
        refine ⟨_, .array [], .emptyArray blankSpace, ?_, ?_⟩
        · rw [taken_eq_some.mp closed]
          simp [points]
        · rw [valueOf, valuesOf]
      · obtain ⟨part, trees, elements, found, rfl⟩ := less.elements read
        refine ⟨_, .array trees, .array (elements.blank blankSpace), ?_, ?_⟩
        · rw [found]
          simp [points]
        · rw [valueOf, List.nil_append]
    · exact jsonScalar_sound read

/-- How a turn of a loop can end with a value. -/
theorem turnEnd_sound {close failure : String} {whole value : JsonValue}
    {next : Text → Except JsonFailure (JsonValue × Text)} {text rest : Text}
    (read : turnEnd close failure whole next text = .ok (value, rest)) :
    ∃ space, Space space ∧
      ((∃ more, text = space ++ 0x2c :: more ∧ next more = .ok (value, rest)) ∨
        (text = space ++ (points close ++ rest) ∧ value = whole)) := by
  obtain ⟨space, blank, cut⟩ := exists_space text
  refine ⟨space, blank, ?_⟩
  unfold turnEnd at read
  split at read
  · rename_i more comma
    rw [taken_eq_some.mp comma] at cut
    exact .inl ⟨more, cut, read⟩
  · split at read
    · rename_i closed
      cases read
      rw [taken_eq_some.mp closed] at cut
      exact .inr ⟨cut, rfl⟩
    · cases read

/-- The loop over members takes one, and those behind a comma, up to the brace; what it has read are
members of the grammar, which extend the object. -/
theorem jsonMembers_sound {fuel : Nat} (less : Sound fuel) {object : Text → Option JsonValue}
    {text rest : Text} {value : JsonValue} (read : jsonMembers (fuel + 1) object text = .ok (value, rest)) :
    ∃ part fields, Members part fields ∧ text = part ++ 0x7d :: rest ∧
      value = .object (extended object fields) := by
  rw [jsonMembers] at read
  split at read
  · cases read
  · rename_i name quote
    obtain ⟨⟨key, behindName⟩, named, read⟩ := Except.ok_of_bind read
    obtain ⟨body, _, is, cutName, rfl⟩ := jsonString_sound _ named
    dsimp only at read
    split at read
    · cases read
    · rename_i element colon
      obtain ⟨⟨inner, behind⟩, valued, read⟩ := Except.ok_of_bind read
      obtain ⟨part, tree, whole, cutValue, rfl⟩ := less.value valued
      obtain ⟨front, blank, cutFront⟩ := exists_space text
      obtain ⟨middle, blankMiddle, cutMiddle⟩ := exists_space behindName
      rw [taken_eq_some.mp quote] at cutFront
      rw [taken_eq_some.mp colon] at cutMiddle
      dsimp only at read
      obtain ⟨space, blankBehind, ⟨more, cutBehind, goesOn⟩ | ⟨cutBehind, rfl⟩⟩ := turnEnd_sound read
      · obtain ⟨parts, fields, members, cutMore, rfl⟩ := less.members goesOn
        have member := Member.intro blank is blankMiddle (whole.behind blankBehind)
        refine ⟨_, (key, tree) :: fields, .cons member members, ?_, ?_⟩
        · rw [cutFront, cutName, cutMiddle, cutValue, cutBehind, cutMore]
          simp [points]
        · rw [extended_cons]
      · have member := Member.intro blank is blankMiddle (whole.behind blankBehind)
        refine ⟨_, [(key, tree)], .last member, ?_, ?_⟩
        · rw [cutFront, cutName, cutMiddle, cutValue, cutBehind]
          simp [points]
        · rw [extended_cons, extended_nil]

/-- The loop over elements takes one, and those behind a comma. -/
theorem jsonElements_sound {fuel : Nat} (less : Sound fuel) {array : List JsonValue}
    {text rest : Text} {value : JsonValue} (read : jsonElements (fuel + 1) array text = .ok (value, rest)) :
    ∃ part trees, Elements part trees ∧ text = part ++ 0x5d :: rest ∧
      value = .array (array ++ valuesOf trees) := by
  rw [jsonElements] at read
  obtain ⟨⟨inner, behind⟩, valued, read⟩ := Except.ok_of_bind read
  obtain ⟨part, tree, whole, rfl, rfl⟩ := less.value valued
  dsimp only at read
  obtain ⟨space, blankBehind, ⟨more, rfl, goesOn⟩ | ⟨rfl, rfl⟩⟩ := turnEnd_sound read
  · obtain ⟨parts, trees, elements, rfl, rfl⟩ := less.elements goesOn
    refine ⟨_, tree :: trees, .cons (whole.behind blankBehind) elements, ?_, ?_⟩
    · simp
    · rw [valuesOf, List.append_assoc, List.singleton_append]
  · refine ⟨_, [tree], .last (whole.behind blankBehind), ?_, ?_⟩
    · simp [points]
    · rw [valuesOf, valuesOf]

/-- By induction on the fuel all three readers take elements of the grammar only, and return what these
mean. -/
theorem sound (fuel : Nat) : Sound fuel := by
  induction fuel with
  | zero =>
      constructor
      · intro text rest value read
        cases read
      · intro object text rest value read
        cases read
      · intro array text rest value read
        cases read
  | succ fuel less => exact ⟨jsonValue_sound less, jsonMembers_sound less, jsonElements_sound less⟩

/-! ### What is in the grammar is read -/

/-- Spaces are skipped up to the first character that is none. -/
theorem jsonSkipSpace_front {front : Text} (blank : Space front) {first : Nat}
    (filled : isSpace first = false) (rest : Text) :
    jsonSkipSpace (front ++ first :: rest) = first :: rest := by
  rw [jsonSkipSpace_append blank, jsonSkipSpace_cons filled]

/-- White space is skipped in front of a value anyway. -/
theorem jsonValue_skip (fuel : Nat) (text : Text) :
    jsonValue fuel (jsonSkipSpace text) = jsonValue fuel text := by
  cases fuel with
  | zero => rfl
  | succ fuel => rw [jsonValue, jsonValue, jsonSkipSpace_jsonSkipSpace]

/-- The reader of members does not see spaces in front of what it reads. -/
theorem jsonMembers_skip (fuel : Nat) (object : Text → Option JsonValue) (text : Text) :
    jsonMembers fuel object (jsonSkipSpace text) = jsonMembers fuel object text := by
  cases fuel with
  | zero => rfl
  | succ fuel => rw [jsonMembers, jsonMembers, jsonSkipSpace_jsonSkipSpace]

/-- The reader of elements does not see spaces in front of what it reads. -/
theorem jsonElements_skip (fuel : Nat) (array : List JsonValue) (text : Text) :
    jsonElements fuel array (jsonSkipSpace text) = jsonElements fuel array text := by
  cases fuel with
  | zero => rfl
  | succ fuel => rw [jsonElements, jsonElements, jsonValue_skip]

/-- A number may be followed by the end of the text. -/
theorem stops_nil : Stops [] := by
  intro point first
  cases first

/-- A number may be followed by anything that could not go on with it. -/
theorem stops_cons {first : Nat} (other : isDigit first = false ∧ first ≠ 0x2e ∧ first ≠ 0x65 ∧ first ≠ 0x45)
    (rest : Text) : Stops (first :: rest) := by
  intro point same
  cases same
  exact other

theorem stops_append {space rest : Text} (blank : Space space) (stops : Stops rest) :
    Stops (space ++ rest) := by
  cases space with
  | nil => exact stops
  | cons first space =>
      refine stops_cons ?_ _
      have isBlank := blank first List.mem_cons_self
      simp only [isSpace, Bool.or_eq_true, beq_iff_eq] at isBlank
      rcases isBlank with ((rfl | rfl) | rfl) | rfl
      · decide
      · decide
      · decide
      · decide

/-- The reader of strings takes the body of a string up to its quotation mark and returns what the body
means. -/
theorem jsonStringOf_body {body meant : Text} (is : StringBody body meant) (rest : Text) :
    jsonStringOf (body ++ 0x22 :: rest) = .ok (meant, rest) := by
  have enough : body.length ≤ (body ++ 0x22 :: rest).length := by
    rw [List.length_append]
    exact Nat.le_add_right _ _
  rw [jsonStringOf, jsonString_body is enough, List.nil_append]

/-- Only a digit or a minus starts a number. -/
theorem jsonNumber_cons {first : Nat} (noDigit : isDigit first = false) (noMinus : first ≠ 0x2d)
    (rest : Text) : jsonNumber (first :: rest) = none := by
  have noZero : first ≠ 0x30 := by
    rintro rfl
    exact absurd noDigit (by decide)
  have missing : taken "-" (first :: rest) = none := taken_cons rfl noMinus
  rw [jsonNumber, missing]
  dsimp only
  rw [jsonUnsigned, jsonInteger, if_neg noZero, noDigit]
  rfl

/-- A string of the grammar is read whole, whatever follows its closing mark. -/
theorem jsonScalar_string {body meant : Text} (is : StringBody body meant) (rest : Text) :
    jsonScalar (0x22 :: (body ++ 0x22 :: rest)) = .ok (.text meant, rest) := by
  have quote (text : Text) : taken "\"" (0x22 :: text) = some text := taken_append "\"" text
  rw [jsonScalar, quote]
  dsimp only
  rw [jsonStringOf_body is]
  rfl

/-- A number is read to its last digit and kept as its text, so that no precision is lost. -/
theorem jsonScalar_number {number rest : Text} (is : Number number) (stops : Stops rest) :
    jsonScalar (number ++ rest) = .ok (.text number, rest) := by
  have noQuote : taken "\"" (number ++ rest) = none := by
    obtain ⟨first, more, rfl, starts⟩ := is.head
    refine taken_cons rfl ?_
    rintro rfl
    rcases starts with digit | minus
    · exact absurd digit (by decide)
    · exact absurd minus (by decide)
  rw [jsonScalar, noQuote, jsonNumber_append is stops]

/-- The literal `true` is read as the text 1. -/
theorem jsonScalar_true (rest : Text) :
    jsonScalar (points "true" ++ rest) = .ok (.text (points "1"), rest) := by
  have noQuote : taken "\"" (points "true" ++ rest) = none := taken_cons rfl (by decide)
  have noNumber : jsonNumber (points "true" ++ rest) = none := jsonNumber_cons rfl (by decide) _
  rw [jsonScalar, noQuote, noNumber, taken_append]

/-- The literal `false` is read as the text 0. -/
theorem jsonScalar_false (rest : Text) :
    jsonScalar (points "false" ++ rest) = .ok (.text (points "0"), rest) := by
  have noQuote : taken "\"" (points "false" ++ rest) = none := taken_cons rfl (by decide)
  have noNumber : jsonNumber (points "false" ++ rest) = none := jsonNumber_cons rfl (by decide) _
  have noTrue : taken "true" (points "false" ++ rest) = none := taken_cons rfl (by decide)
  rw [jsonScalar, noQuote, noNumber, noTrue, taken_append]

theorem jsonScalar_null (rest : Text) : jsonScalar (points "null" ++ rest) = .ok (.null, rest) := by
  have noQuote : taken "\"" (points "null" ++ rest) = none := taken_cons rfl (by decide)
  have noNumber : jsonNumber (points "null" ++ rest) = none := jsonNumber_cons rfl (by decide) _
  have noTrue : taken "true" (points "null" ++ rest) = none := taken_cons rfl (by decide)
  have noFalse : taken "false" (points "null" ++ rest) = none := taken_cons rfl (by decide)
  rw [jsonScalar, noQuote, noNumber, noTrue, noFalse, taken_append]

/-! How the dispatch goes on what stands behind white space. -/

/-- Behind its spaces a value that opens neither an object nor an array is a scalar. -/
theorem jsonValue_scalar {front : Text} (blank : Space front) {first : Nat}
    (filled : isSpace first = false) (noBrace : first ≠ 0x7b) (noBracket : first ≠ 0x5b) (fuel : Nat)
    (text : Text) : jsonValue (fuel + 1) (front ++ first :: text) = jsonScalar (first :: text) := by
  have brace : taken "\x7b" (first :: text) = none := taken_cons rfl noBrace
  have bracket : taken "[" (first :: text) = none := taken_cons rfl noBracket
  rw [jsonValue, jsonSkipSpace_front blank filled, brace, bracket]

/-- Behind a brace that is not closed at once the members are read, beginning with an empty object. -/
theorem jsonValue_object {front : Text} (blank : Space front) {text : Text}
    (opened : taken "\x7d" (jsonSkipSpace text) = none) (fuel : Nat) :
    jsonValue (fuel + 1) (front ++ 0x7b :: text) = jsonMembers fuel (fun _ => none) text := by
  have brace : taken "\x7b" (0x7b :: text) = some text := taken_append "\x7b" text
  rw [jsonValue, jsonSkipSpace_front blank rfl, brace]
  dsimp only
  rw [opened, jsonMembers_skip]

/-- An object that is closed at once, with spaces inside or not, is the empty object. -/
theorem jsonValue_emptyObject {front space : Text} (blank : Space front) (inside : Space space)
    (fuel : Nat) (rest : Text) :
    jsonValue (fuel + 1) (front ++ 0x7b :: (space ++ 0x7d :: rest)) = .ok (.object fun _ => none, rest) := by
  have brace (text : Text) : taken "\x7b" (0x7b :: text) = some text := taken_append "\x7b" text
  have closed : taken "\x7d" (0x7d :: rest) = some rest := taken_append "\x7d" rest
  rw [jsonValue, jsonSkipSpace_front blank rfl, brace]
  dsimp only
  rw [jsonSkipSpace_front inside rfl, closed]

/-- Behind a bracket that is not closed at once the elements are read, beginning with an empty array. -/
theorem jsonValue_array {front : Text} (blank : Space front) {text : Text}
    (opened : taken "]" (jsonSkipSpace text) = none) (fuel : Nat) :
    jsonValue (fuel + 1) (front ++ 0x5b :: text) = jsonElements fuel [] text := by
  have noBrace : taken "\x7b" (0x5b :: text) = none := taken_cons rfl (by decide)
  have bracket : taken "[" (0x5b :: text) = some text := taken_append "[" text
  rw [jsonValue, jsonSkipSpace_front blank rfl, noBrace, bracket]
  dsimp only
  rw [opened, jsonElements_skip]

/-- An array that is closed at once, with spaces inside or not, is the empty array. -/
theorem jsonValue_emptyArray {front space : Text} (blank : Space front) (inside : Space space)
    (fuel : Nat) (rest : Text) :
    jsonValue (fuel + 1) (front ++ 0x5b :: (space ++ 0x5d :: rest)) = .ok (.array [], rest) := by
  have noBrace (text : Text) : taken "\x7b" (0x5b :: text) = none := taken_cons rfl (by decide)
  have bracket (text : Text) : taken "[" (0x5b :: text) = some text := taken_append "[" text
  have closed : taken "]" (0x5d :: rest) = some rest := taken_append "]" rest
  rw [jsonValue, jsonSkipSpace_front blank rfl, noBrace, bracket]
  dsimp only
  rw [jsonSkipSpace_front inside rfl, closed]

/-- What of the grammar the functions read when the fuel is enough for it. -/
structure Complete (fuel : Nat) : Prop where
  value : ∀ {front part rest : Text} {tree : Tree}, Space front → Value part tree → Stops rest →
    2 * part.length + 1 ≤ fuel → jsonValue fuel (front ++ (part ++ rest)) = .ok (valueOf tree, rest)
  members : ∀ {part : Text} {fields : List (Text × Tree)}, Members part fields →
    2 * part.length + 2 ≤ fuel → ∀ (object : Text → Option JsonValue) (rest : Text),
      jsonMembers fuel object (part ++ 0x7d :: rest) = .ok (.object (extended object fields), rest)
  elements : ∀ {part : Text} {trees : List Tree}, Elements part trees →
    2 * part.length + 2 ≤ fuel → ∀ (array : List JsonValue) (rest : Text),
      jsonElements fuel array (part ++ 0x5d :: rest) = .ok (.array (array ++ valuesOf trees), rest)

/-- With fuel for twice its length every value of the grammar is read to its end, if the readers below
it are complete. -/
theorem jsonValue_complete {fuel : Nat} (less : Complete fuel) {front part rest : Text} {tree : Tree}
    (blank : Space front) (is : Value part tree) (stops : Stops rest)
    (enough : 2 * part.length + 1 ≤ fuel + 1) :
    jsonValue (fuel + 1) (front ++ (part ++ rest)) = .ok (valueOf tree, rest) := by
  cases is with
  | string reads =>
      rw [List.cons_append, List.append_assoc, jsonValue_scalar blank rfl (by decide) (by decide)]
      exact jsonScalar_string reads rest
  | number is =>
      have read := jsonScalar_number is stops
      obtain ⟨first, more, rfl, starts⟩ := is.head
      have other : isSpace first = false ∧ first ≠ 0x7b ∧ first ≠ 0x5b := by
        rcases starts with digit | rfl
        · simp only [isDigit, Bool.and_eq_true, decide_eq_true_eq] at digit
          simp only [isSpace, Bool.or_eq_false_iff, beq_eq_false_iff_ne]
          omega
        · decide
      rw [List.cons_append, jsonValue_scalar blank other.1 other.2.1 other.2.2]
      exact read
  | true => exact (jsonValue_scalar blank rfl (by decide) (by decide) fuel _).trans (jsonScalar_true rest)
  | false => exact (jsonValue_scalar blank rfl (by decide) (by decide) fuel _).trans (jsonScalar_false rest)
  | null => exact (jsonValue_scalar blank rfl (by decide) (by decide) fuel _).trans (jsonScalar_null rest)
  | emptyArray inside =>
      rw [List.cons_append, List.append_assoc, List.singleton_append, jsonValue_emptyArray blank inside,
        valueOf, valuesOf]
  | @array text items elements =>
      have opened : taken "]" (jsonSkipSpace (text ++ 0x5d :: rest)) = none := by
        obtain ⟨space, first, more, rfl, inside, filled, other⟩ := elements.head
        rw [List.append_assoc, List.cons_append, jsonSkipSpace_front inside filled]
        exact taken_cons rfl other
      rw [List.length_cons, List.length_append, List.length_singleton] at enough
      rw [List.cons_append, List.append_assoc, List.singleton_append, jsonValue_array blank opened]
      exact less.elements elements (by omega) [] rest
  | emptyObject inside =>
      rw [List.cons_append, List.append_assoc, List.singleton_append, jsonValue_emptyObject blank inside,
        valueOf, ← extended_none, extended_nil]
  | @object text fields members =>
      have opened : taken "\x7d" (jsonSkipSpace (text ++ 0x7d :: rest)) = none := by
        obtain ⟨space, more, rfl, inside⟩ := members.head
        rw [List.append_assoc, List.cons_append, jsonSkipSpace_front inside rfl]
        exact taken_cons rfl (by decide)
      rw [List.length_cons, List.length_append, List.length_singleton] at enough
      rw [List.cons_append, List.append_assoc, List.singleton_append, jsonValue_object blank opened,
        valueOf, ← extended_none]
      exact less.members members (by omega) (fun _ => none) rest

/-- An element is read up to the white space in front of what stands behind it. -/
theorem jsonValue_element {fuel : Nat} (less : Complete fuel) {text : Text} {tree : Tree}
    (element : Element text tree) (enough : 2 * text.length + 1 ≤ fuel) {first : Nat}
    (separates : first = 0x2c ∨ first = 0x5d ∨ first = 0x7d) (rest : Text) :
    ∃ space, Space space ∧
      jsonValue fuel (text ++ first :: rest) = .ok (valueOf tree, space ++ first :: rest) := by
  obtain @⟨front, part, space, _, blank, is, blankBehind⟩ := element
  have stops : Stops (first :: rest) := by
    refine stops_cons ?_ rest
    rcases separates with rfl | rfl | rfl
    · decide
    · decide
    · decide
  rw [List.length_append, List.length_append] at enough
  refine ⟨space, blankBehind, ?_⟩
  rw [List.append_assoc, List.append_assoc]
  exact less.value blank is (stops_append blankBehind stops) (by omega)

/-- Behind a comma the loop takes its next turn. -/
theorem turnEnd_comma {space : Text} (blank : Space space) (close failure : String) (whole : JsonValue)
    (next : Text → Except JsonFailure (JsonValue × Text)) (rest : Text) :
    turnEnd close failure whole next (space ++ 0x2c :: rest) = next rest := by
  have comma : taken "," (0x2c :: rest) = some rest := taken_append "," rest
  rw [turnEnd, jsonSkipSpace_front blank rfl, comma]

/-- Behind the closing character the loop ends with what it has collected, and the text goes on behind
it. -/
theorem turnEnd_close {space : Text} (blank : Space space) {close : String} {first : Nat}
    (closes : points close = [first]) (filled : isSpace first = false) (noComma : first ≠ 0x2c)
    (failure : String) (whole : JsonValue) (next : Text → Except JsonFailure (JsonValue × Text))
    (rest : Text) : turnEnd close failure whole next (space ++ first :: rest) = .ok (whole, rest) := by
  have missing : taken "," (first :: rest) = none := taken_cons rfl noComma
  have closed : taken close (first :: rest) = some rest := by
    rw [taken_eq_some, closes]
    rfl
  rw [turnEnd, jsonSkipSpace_front blank filled, missing, closed]

/-- The elements of an array are all read in their order and put behind those that were read before. -/
theorem jsonElements_complete {fuel : Nat} (less : Complete fuel) {part : Text} {trees : List Tree}
    (is : Elements part trees) (enough : 2 * part.length + 2 ≤ fuel + 1) (array : List JsonValue)
    (rest : Text) :
    jsonElements (fuel + 1) array (part ++ 0x5d :: rest) = .ok (.array (array ++ valuesOf trees), rest) := by
  cases is with
  | last element =>
      obtain ⟨space, blank, read⟩ :=
        jsonValue_element less element (by omega) (.inr (.inl rfl)) rest
      rw [jsonElements, read]
      dsimp only [bind, Except.bind]
      rw [turnEnd_close blank rfl rfl (by decide), valuesOf, valuesOf]
  | @cons text more _ trees element elements =>
      rw [List.length_append, List.length_cons] at enough
      obtain ⟨space, blank, read⟩ :=
        jsonValue_element less element (by omega) (.inl rfl) (more ++ 0x5d :: rest)
      rw [List.append_assoc, List.cons_append, jsonElements, read]
      dsimp only [bind, Except.bind]
      rw [turnEnd_comma blank, less.elements elements (by omega) _ rest, valuesOf, List.append_assoc,
        List.singleton_append]

/-- A turn of the loop over members: the name, the colon and the value are read. -/
theorem jsonMembers_member {front body key middle : Text} (blank : Space front)
    (name : StringBody body key) (blankMiddle : Space middle) {fuel : Nat} {text behind : Text}
    {value : JsonValue} (read : jsonValue fuel text = .ok (value, behind))
    (object : Text → Option JsonValue) :
    jsonMembers (fuel + 1) object (front ++ 0x22 :: (body ++ 0x22 :: (middle ++ 0x3a :: text))) =
      turnEnd "\x7d" "invalid JSON object" (.object (assigned object key value))
        (jsonMembers fuel (assigned object key value)) behind := by
  have quote (text : Text) : taken "\"" (0x22 :: text) = some text := taken_append "\"" text
  have colon (text : Text) : taken ":" (0x3a :: text) = some text := taken_append ":" text
  rw [jsonMembers, jsonSkipSpace_front blank rfl, quote]
  dsimp only
  rw [jsonStringOf_body name]
  dsimp only [bind, Except.bind]
  rw [jsonSkipSpace_front blankMiddle rfl, colon]
  dsimp only
  rw [read]

/-- The members of an object are all read in their order; a name that comes again takes the later value.
-/
theorem jsonMembers_complete {fuel : Nat} (less : Complete fuel) {part : Text}
    {fields : List (Text × Tree)} (is : Members part fields) (enough : 2 * part.length + 2 ≤ fuel + 1)
    (object : Text → Option JsonValue) (rest : Text) :
    jsonMembers (fuel + 1) object (part ++ 0x7d :: rest) =
      .ok (.object (extended object fields), rest) := by
  cases is with
  | last member =>
      obtain @⟨front, body, key, middle, text, tree, blankFront, name, blankMiddle, element⟩ := member
      simp only [List.length_append, List.length_cons] at enough
      obtain ⟨space, blank, read⟩ :=
        jsonValue_element less element (by omega) (.inr (.inr rfl)) rest
      have turn := jsonMembers_member blankFront name blankMiddle read object
      rw [turnEnd_close blank rfl rfl (by decide)] at turn
      rw [extended_cons, extended_nil, ← turn]
      simp only [List.append_assoc, List.cons_append]
  | @cons _ more _ fields member members =>
      obtain @⟨front, body, key, middle, text, tree, blankFront, name, blankMiddle, element⟩ := member
      simp only [List.length_append, List.length_cons] at enough
      obtain ⟨space, blank, read⟩ :=
        jsonValue_element less element (by omega) (.inl rfl) (more ++ 0x7d :: rest)
      have turn := jsonMembers_member blankFront name blankMiddle read object
      rw [turnEnd_comma blank, less.members members (by omega) _ rest] at turn
      rw [extended_cons, ← turn]
      simp only [List.append_assoc, List.cons_append]

/-- By induction on the fuel all three readers take every element of the grammar that their fuel covers.
-/
theorem complete (fuel : Nat) : Complete fuel := by
  induction fuel with
  | zero =>
      constructor
      · intro front part rest tree blank is stops enough
        exact absurd enough (Nat.not_succ_le_zero _)
      · intro part fields is enough
        exact absurd enough (Nat.not_succ_le_zero _)
      · intro part trees is enough
        exact absurd enough (Nat.not_succ_le_zero _)
  | succ fuel less =>
      exact ⟨jsonValue_complete less, jsonMembers_complete less, jsonElements_complete less⟩

/-! ### The reader ends -/

theorem jsonSkipSpace_length (text : Text) : (jsonSkipSpace text).length ≤ text.length := by
  obtain ⟨space, -, cut⟩ := exists_space text
  have lengths := congrArg List.length cut
  rw [List.length_append] at lengths
  omega

/-- A match behind white space leaves less of the text. -/
theorem taken_length {word : String} {text rest : Text}
    (found : taken word (jsonSkipSpace text) = some rest) (filled : points word ≠ []) :
    rest.length < text.length := by
  have lengths := congrArg List.length (taken_eq_some.mp found)
  have skipped := jsonSkipSpace_length text
  have positive := List.length_pos_iff.mpr filled
  rw [List.length_append] at lengths
  omega

/-- Reading a scalar takes no fuel, so that it cannot run out. -/
theorem jsonScalar_ends (text : Text) : jsonScalar text ≠ .error .exhausted := by
  unfold jsonScalar
  split
  · refine Except.bind_ne_error (jsonString_ends (Nat.lt_succ_self _) []) fun value _ => ?_
    simp
  · split
    · simp
    · split
      · simp
      · split
        · simp
        · split
          · simp
          · simp

/-- A turn of a loop has taken something from the text, so that the next one has less to read. -/
theorem turnEnd_ends {close failure : String} {whole : JsonValue}
    {next : Text → Except JsonFailure (JsonValue × Text)} {text : Text}
    (ends : ∀ more : Text, more.length < text.length → next more ≠ .error .exhausted) :
    turnEnd close failure whole next text ≠ .error .exhausted := by
  unfold turnEnd
  split
  · rename_i more comma
    exact ends more (taken_length comma (by decide))
  · split
    · simp
    · simp

/-- How much fuel is enough for the functions to end. -/
structure Ends (fuel : Nat) : Prop where
  value : ∀ {text : Text}, 2 * text.length + 1 ≤ fuel → jsonValue fuel text ≠ .error .exhausted
  members : ∀ {text : Text}, 2 * text.length + 2 ≤ fuel → ∀ object : Text → Option JsonValue,
    jsonMembers fuel object text ≠ .error .exhausted
  elements : ∀ {text : Text}, 2 * text.length + 2 ≤ fuel → ∀ array : List JsonValue,
    jsonElements fuel array text ≠ .error .exhausted

/-- With fuel for twice the length of the text a value is read or refused, never left for want of fuel.
-/
theorem jsonValue_ends {fuel : Nat} (less : Ends fuel) {text : Text}
    (enough : 2 * text.length + 1 ≤ fuel + 1) : jsonValue (fuel + 1) text ≠ .error .exhausted := by
  rw [jsonValue]
  split
  · rename_i rest brace
    have shorter := taken_length brace (by decide)
    have skipped := jsonSkipSpace_length rest
    split
    · simp
    · exact less.members (by omega) _
  · split
    · rename_i rest bracket
      have shorter := taken_length bracket (by decide)
      have skipped := jsonSkipSpace_length rest
      split
      · simp
      · exact less.elements (by omega) _
    · exact jsonScalar_ends _

/-- With fuel for twice the length of the text the elements are read or refused, never left for want of
fuel. -/
theorem jsonElements_ends {fuel : Nat} (less : Ends fuel) {text : Text}
    (enough : 2 * text.length + 2 ≤ fuel + 1) (array : List JsonValue) :
    jsonElements (fuel + 1) array text ≠ .error .exhausted := by
  rw [jsonElements]
  refine Except.bind_ne_error (less.value (by omega)) ?_
  rintro ⟨value, behind⟩ read
  obtain ⟨part, tree, -, rfl, -⟩ := (sound fuel).value read
  rw [List.length_append] at enough
  exact turnEnd_ends fun more shorter => less.elements (by omega) _

/-- With fuel for twice the length of the text the members are read or refused, never left for want of
fuel. -/
theorem jsonMembers_ends {fuel : Nat} (less : Ends fuel) {text : Text}
    (enough : 2 * text.length + 2 ≤ fuel + 1) (object : Text → Option JsonValue) :
    jsonMembers (fuel + 1) object text ≠ .error .exhausted := by
  rw [jsonMembers]
  split
  · simp
  · rename_i name quote
    have shorter := taken_length quote (by decide)
    refine Except.bind_ne_error (jsonString_ends (Nat.lt_succ_self _) []) ?_
    rintro ⟨key, behindName⟩ named
    obtain ⟨body, meant, -, rfl, -⟩ := jsonString_sound _ named
    dsimp only
    split
    · simp
    · rename_i element colon
      have shorterElement := taken_length colon (by decide)
      rw [List.length_append, List.length_cons] at shorter
      refine Except.bind_ne_error (less.value (by omega)) ?_
      rintro ⟨value, behind⟩ read
      obtain ⟨part, tree, -, rfl, -⟩ := (sound fuel).value read
      rw [List.length_append] at shorterElement
      dsimp only
      exact turnEnd_ends fun more shorterMore => less.members (by omega) _

/-- By induction on the fuel all three readers end before it does, on every text that it covers. -/
theorem ends (fuel : Nat) : Ends fuel := by
  induction fuel with
  | zero =>
      constructor
      · intro text enough
        exact absurd enough (Nat.not_succ_le_zero _)
      · intro text enough
        exact absurd enough (Nat.not_succ_le_zero _)
      · intro text enough
        exact absurd enough (Nat.not_succ_le_zero _)
  | succ fuel less => exact ⟨jsonValue_ends less, jsonMembers_ends less, jsonElements_ends less⟩

/-! ### Documents -/

/-- A text is read when it is a document, and as the tree of it says; soundness and completeness of the
parts meet here. -/
theorem jsonDecode_eq_ok {text : Text} {value : JsonValue} :
    jsonDecode text = .ok value ↔ ∃ tree, Document text tree ∧ value = valueOf tree := by
  constructor
  · intro decoded
    obtain ⟨⟨value, rest⟩, read, last⟩ := Except.ok_of_bind decoded
    obtain ⟨part, tree, element, rfl, rfl⟩ := (sound _).value read
    dsimp only at last
    split at last
    · cases last
    · rename_i finished
      cases last
      obtain ⟨space, blank, cut⟩ := exists_space rest
      rw [not_not.mp finished, List.append_nil] at cut
      rw [cut]
      exact ⟨tree, element.behind blank, rfl⟩
  · rintro ⟨tree, @⟨front, part, behind, _, blank, is, blankBehind⟩, rfl⟩
    have stops : Stops behind := by
      have stops := stops_append blankBehind stops_nil
      rwa [List.append_nil] at stops
    have enough : 2 * part.length + 1 ≤ enoughFuel (front ++ (part ++ behind)) := by
      rw [enoughFuel, List.length_append, List.length_append]
      omega
    have finished : jsonSkipSpace behind = [] := by
      have skipped := jsonSkipSpace_append blankBehind []
      rwa [List.append_nil] at skipped
    rw [jsonDecode, (complete _).value blank is stops enough]
    dsimp only [bind, Except.bind]
    rw [if_neg (not_not_intro finished)]

theorem valueOf_unique {text : Text} {tree other : Tree} (one : Document text tree)
    (two : Document text other) : valueOf tree = valueOf other := by
  have first := jsonDecode_eq_ok.mpr ⟨tree, one, rfl⟩
  have second := jsonDecode_eq_ok.mpr ⟨other, two, rfl⟩
  exact Except.ok.inj (first.symm.trans second)

theorem jsonDecode_ends (text : Text) : jsonDecode text ≠ .error .exhausted := by
  refine Except.bind_ne_error ((ends _).value (Nat.le_refl _)) ?_
  rintro ⟨value, rest⟩ -
  dsimp only
  split
  · simp
  · simp

/-! ### Quoted strings -/

/-- Quoting goes character by character: what one is written as does not depend on the others. -/
theorem jsonQuoteBody_cons (point : Nat) (value : Text) :
    jsonQuoteBody (point :: value) = jsonQuoteBody [point] ++ jsonQuoteBody value := by
  have append (each : Nat) (replacement : String) (front behind : Text) :
      substituted each replacement (front ++ behind) =
        substituted each replacement front ++ substituted each replacement behind := List.flatMap_append
  rw [← List.singleton_append]
  simp only [jsonQuoteBody, append]

/-- What stands for a character in a quoted string is read as the character. -/
theorem jsonQuoteBody_point (point : Nat) {rest value : Text} (more : StringBody rest value) :
    StringBody (jsonQuoteBody [point] ++ rest) (point :: value) := by
  by_cases backslash : point = 0x5c
  · subst backslash
    exact .escape rfl more
  by_cases quote : point = 0x22
  · subst quote
    exact .escape rfl more
  by_cases newline : point = 0x0a
  · subst newline
    exact .escape rfl more
  by_cases carriageReturn : point = 0x0d
  · subst carriageReturn
    exact .escape rfl more
  by_cases tab : point = 0x09
  · subst tab
    exact .escape rfl more
  have itself : jsonQuoteBody [point] = [point] := by
    simp [jsonQuoteBody, substituted, backslash, quote, newline, carriageReturn, tab]
  rw [itself]
  exact .plain quote backslash more

/-- What `json_quote` writes between its marks is the body of a string that means the quoted text. -/
theorem jsonQuoteBody_body (value : Text) : StringBody (jsonQuoteBody value) value := by
  induction value with
  | nil => exact .nil
  | cons point value ih =>
      rw [jsonQuoteBody_cons]
      exact jsonQuoteBody_point point ih

/-- A quoted string is the document of the string. -/
theorem document_jsonQuote (value : Text) : Document (jsonQuote value) (.string value) := by
  have element := Element.intro (List.forall_mem_nil _) (.string (jsonQuoteBody_body value))
    (List.forall_mem_nil _)
  rwa [List.append_nil, List.nil_append] at element

/-- The reader takes exactly the documents and gives their values: a text is read when a tree is the one of
it, and as the tree says; no text keeps the reader from ending; a quoted string is read as it was. -/
theorem json_documents :
    (∀ text, (∃ value, jsonDecode text = .ok value) ↔ ∃ tree, Document text tree) ∧
      (∀ text tree, Document text tree → jsonDecode text = .ok (valueOf tree)) ∧
      (∀ text, jsonDecode text ≠ .error .exhausted) ∧
      ∀ value, jsonDecode (jsonQuote value) = .ok (.text value) := by
  refine ⟨fun text => ⟨?_, ?_⟩, ?_, ?_, ?_⟩
  · rintro ⟨value, read⟩
    obtain ⟨tree, document, -⟩ := jsonDecode_eq_ok.mp read
    exact ⟨tree, document⟩
  · rintro ⟨tree, document⟩
    exact ⟨valueOf tree, jsonDecode_eq_ok.mpr ⟨tree, document, rfl⟩⟩
  · intro text tree document
    exact jsonDecode_eq_ok.mpr ⟨tree, document, rfl⟩
  · intro text
    exact jsonDecode_ends text
  · intro value
    exact jsonDecode_eq_ok.mpr ⟨.string value, document_jsonQuote value, rfl⟩

/-- `[0,"\u0041"]`. -/
def documentText : Text := [0x5b, 0x30, 0x2c, 0x22, 0x5c, 0x75, 0x30, 0x30, 0x34, 0x31, 0x22, 0x5d]

def documentTree : Tree := .array [.number [0x30], .string [0x41]]

theorem document_text : Document documentText documentTree := by
  have blank : Space [] := List.forall_mem_nil _
  have number : Element [0x30] (.number [0x30]) :=
    .intro blank (.number (.positive .zero .none .none)) blank
  have string : Element [0x22, 0x5c, 0x75, 0x30, 0x30, 0x34, 0x31, 0x22] (.string [0x41]) :=
    .intro blank (.string (.unicode rfl .nil)) blank
  exact .intro blank (.array (.cons number (.last string))) blank

theorem json_documents_unit :
    jsonDecode documentText = .ok (.array [.text (points "0"), .text (points "A")]) := by
  rw [json_documents.2.1 documentText documentTree document_text]
  rfl

end DawnShell.Codec.JsonReader
