/-
Module: DawnShell.Lib.JsonGrammar
Layer: Lib
Purpose: The grammar of JSON over texts of code points.  A document is a value with white space around it;
  every value has a tree, in which a number is its text and a string what its escapes stand for.
Trusted boundary: RFC 8259, but for control characters, which may stand in a string as they are
Main exports: JsonGrammar.Tree, JsonGrammar.Space, JsonGrammar.Number, JsonGrammar.StringBody,
  JsonGrammar.Value, JsonGrammar.Element, JsonGrammar.Elements, JsonGrammar.Members, JsonGrammar.Document
-/
import Mathlib.Data.List.Basic

namespace JsonGrammar

/-- A text as its code points. -/
abbrev Text := List Nat

/-- The code points of a text. -/
def points (text : String) : Text := text.toList.map Char.toNat

/-- The tree of a value. -/
inductive Tree where
  | string (value : Text)
  | number (text : Text)
  | true
  | false
  | null
  | array (items : List Tree)
  | object (members : List (Text × Tree))

/-! ### Tokens -/

/-- Blank, tab, newline and carriage return. -/
def isSpace (point : Nat) : Bool := point == 0x20 || point == 0x09 || point == 0x0a || point == 0x0d

/-- White space. -/
def Space (text : Text) : Prop := ∀ point ∈ text, isSpace point = true

def isDigit (point : Nat) : Bool := 0x30 ≤ point && point ≤ 0x39

/-- At least one digit. -/
structure Digits (text : Text) : Prop where
  filled : text ≠ []
  all : ∀ point ∈ text, isDigit point = true

/-- The integer part of a number, without leading zeros. -/
inductive Integer : Text → Prop where
  | zero : Integer [0x30]
  | digits {first : Nat} {rest : Text} (digit : isDigit first = true) (positive : first ≠ 0x30)
      (all : ∀ point ∈ rest, isDigit point = true) : Integer (first :: rest)

/-- Nothing, or a point and digits. -/
inductive Fraction : Text → Prop where
  | none : Fraction []
  | digits {digits : Text} (some : Digits digits) : Fraction (0x2e :: digits)

/-- The sign of an exponent. -/
inductive Sign : Text → Prop where
  | none : Sign []
  | plus : Sign [0x2b]
  | minus : Sign [0x2d]

/-- Nothing, or a letter, a sign and digits. -/
inductive Exponent : Text → Prop where
  | none : Exponent []
  | digits {letter : Nat} {sign digits : Text} (isLetter : letter = 0x65 ∨ letter = 0x45)
      (signed : Sign sign) (some : Digits digits) : Exponent (letter :: (sign ++ digits))

/-- The text of a number. -/
inductive Number : Text → Prop where
  | positive {integer fraction exponent : Text} (whole : Integer integer) (part : Fraction fraction)
      (power : Exponent exponent) : Number (integer ++ (fraction ++ exponent))
  | negative {integer fraction exponent : Text} (whole : Integer integer) (part : Fraction fraction)
      (power : Exponent exponent) : Number (0x2d :: (integer ++ (fraction ++ exponent)))

/-- What an escape of one character stands for. -/
def escaped (point : Nat) : Option Nat :=
  if point = 0x22 then some 0x22
  else if point = 0x5c then some 0x5c
  else if point = 0x2f then some 0x2f
  else if point = 0x62 then some 0x08
  else if point = 0x66 then some 0x0c
  else if point = 0x6e then some 0x0a
  else if point = 0x72 then some 0x0d
  else if point = 0x74 then some 0x09
  else none

/-- The value of a hexadecimal digit. -/
def hexDigit (point : Nat) : Option Nat :=
  if 0x30 ≤ point ∧ point ≤ 0x39 then some (point - 0x30)
  else if 0x61 ≤ point ∧ point ≤ 0x66 then some (point - 0x57)
  else if 0x41 ≤ point ∧ point ≤ 0x46 then some (point - 0x37)
  else none

/-- The value of four hexadecimal digits. -/
def hexUnit (first second third last : Nat) : Option Nat := do
  let first ← hexDigit first
  let second ← hexDigit second
  let third ← hexDigit third
  let last ← hexDigit last
  some (((first * 16 + second) * 16 + third) * 16 + last)

/-- What stands between the quotes of a string, and the string it denotes. -/
inductive StringBody : Text → Text → Prop where
  | nil : StringBody [] []
  | plain {point : Nat} {rest value : Text} (noQuote : point ≠ 0x22) (noEscape : point ≠ 0x5c)
      (more : StringBody rest value) : StringBody (point :: rest) (point :: value)
  | escape {point meant : Nat} {rest value : Text} (known : escaped point = some meant)
      (more : StringBody rest value) : StringBody (0x5c :: point :: rest) (meant :: value)
  | unicode {first second third last unit : Nat} {rest value : Text}
      (digits : hexUnit first second third last = some unit) (more : StringBody rest value) :
      StringBody (0x5c :: 0x75 :: first :: second :: third :: last :: rest) (unit :: value)

/-- Plain characters in front of a string stand for themselves. -/
theorem StringBody.append {run rest value : Text} (plain : ∀ point ∈ run, point ≠ 0x22 ∧ point ≠ 0x5c)
    (more : StringBody rest value) : StringBody (run ++ rest) (run ++ value) := by
  induction run with
  | nil => exact more
  | cons first run ih =>
      obtain ⟨noQuote, noEscape⟩ := plain first List.mem_cons_self
      exact .plain noQuote noEscape (ih fun point found => plain point (List.mem_cons_of_mem _ found))

/-! ### Values -/

mutual

/-- A value. -/
inductive Value : Text → Tree → Prop where
  | string {body value : Text} (reads : StringBody body value) :
      Value (0x22 :: (body ++ [0x22])) (.string value)
  | number {text : Text} (number : Number text) : Value text (.number text)
  | true : Value (points "true") .true
  | false : Value (points "false") .false
  | null : Value (points "null") .null
  | emptyArray {space : Text} (blank : Space space) : Value (0x5b :: (space ++ [0x5d])) (.array [])
  | array {text : Text} {items : List Tree} (elements : Elements text items) :
      Value (0x5b :: (text ++ [0x5d])) (.array items)
  | emptyObject {space : Text} (blank : Space space) : Value (0x7b :: (space ++ [0x7d])) (.object [])
  | object {text : Text} {fields : List (Text × Tree)} (members : Members text fields) :
      Value (0x7b :: (text ++ [0x7d])) (.object fields)

/-- A value with white space around it. -/
inductive Element : Text → Tree → Prop where
  | intro {front text behind : Text} {tree : Tree} (blank : Space front) (value : Value text tree)
      (blankBehind : Space behind) : Element (front ++ (text ++ behind)) tree

/-- The elements of an array, with commas between them. -/
inductive Elements : Text → List Tree → Prop where
  | last {text : Text} {tree : Tree} (element : Element text tree) : Elements text [tree]
  | cons {text rest : Text} {tree : Tree} {trees : List Tree} (element : Element text tree)
      (more : Elements rest trees) : Elements (text ++ 0x2c :: rest) (tree :: trees)

/-- A name, a colon and an element. -/
inductive Member : Text → Text × Tree → Prop where
  | intro {front body key middle text : Text} {tree : Tree} (blank : Space front)
      (name : StringBody body key) (blankMiddle : Space middle) (element : Element text tree) :
      Member (front ++ 0x22 :: (body ++ 0x22 :: (middle ++ 0x3a :: text))) (key, tree)

/-- The members of an object, with commas between them. -/
inductive Members : Text → List (Text × Tree) → Prop where
  | last {text : Text} {field : Text × Tree} (member : Member text field) : Members text [field]
  | cons {text rest : Text} {field : Text × Tree} {fields : List (Text × Tree)}
      (member : Member text field) (more : Members rest fields) :
      Members (text ++ 0x2c :: rest) (field :: fields)

end

/-- A document is one element. -/
def Document (text : Text) (tree : Tree) : Prop := Element text tree

/-! ### White space around -/

theorem Space.append {front space : Text} (blank : Space front) (more : Space space) :
    Space (front ++ space) := by
  intro point found
  rcases List.mem_append.mp found with before | behind
  · exact blank point before
  · exact more point behind

/-- White space in front of an element belongs to it. -/
theorem Element.blank {space text : Text} {tree : Tree} (blank : Space space)
    (element : Element text tree) : Element (space ++ text) tree := by
  obtain ⟨front, value, behind⟩ := element
  rw [← List.append_assoc]
  exact .intro (blank.append front) value behind

/-- White space behind an element belongs to it. -/
theorem Element.behind {space text : Text} {tree : Tree} (element : Element text tree)
    (blank : Space space) : Element (text ++ space) tree := by
  obtain ⟨front, value, behind⟩ := element
  rw [List.append_assoc, List.append_assoc]
  exact .intro front value (behind.append blank)

theorem Elements.blank {space text : Text} {trees : List Tree} (blank : Space space)
    (elements : Elements text trees) : Elements (space ++ text) trees := by
  cases elements with
  | last element => exact .last (element.blank blank)
  | cons element more =>
      rw [← List.append_assoc]
      exact .cons (element.blank blank) more

theorem Member.blank {space text : Text} {field : Text × Tree} (blank : Space space)
    (member : Member text field) : Member (space ++ text) field := by
  obtain ⟨front, name, middle, element⟩ := member
  rw [← List.append_assoc]
  exact .intro (blank.append front) name middle element

theorem Members.blank {space text : Text} {fields : List (Text × Tree)} (blank : Space space)
    (members : Members text fields) : Members (space ++ text) fields := by
  cases members with
  | last member => exact .last (member.blank blank)
  | cons member more =>
      rw [← List.append_assoc]
      exact .cons (member.blank blank) more

/-! ### How a text starts -/

theorem Integer.head {integer : Text} (whole : Integer integer) :
    ∃ first rest, integer = first :: rest ∧ isDigit first = true := by
  cases whole with
  | zero => exact ⟨_, _, rfl, rfl⟩
  | digits digit positive all => exact ⟨_, _, rfl, digit⟩

/-- A number starts with a digit or a minus. -/
theorem Number.head {number : Text} (is : Number number) :
    ∃ first rest, number = first :: rest ∧ (isDigit first = true ∨ first = 0x2d) := by
  cases is with
  | positive whole part power =>
      obtain ⟨first, rest, rfl, digit⟩ := whole.head
      exact ⟨first, _, rfl, .inl digit⟩
  | negative whole part power => exact ⟨_, _, rfl, .inr rfl⟩

/-- Neither white space nor a closing bracket starts a value. -/
theorem Value.head {text : Text} {tree : Tree} (value : Value text tree) :
    ∃ first rest, text = first :: rest ∧ isSpace first = Bool.false ∧ first ≠ 0x5d := by
  cases value with
  | number is =>
      obtain ⟨first, rest, rfl, starts⟩ := is.head
      refine ⟨first, rest, rfl, ?_⟩
      rcases starts with digit | rfl
      · simp only [isDigit, Bool.and_eq_true, decide_eq_true_eq] at digit
        simp only [isSpace, Bool.or_eq_false_iff, beq_eq_false_iff_ne]
        omega
      · decide
  | string => exact ⟨_, _, rfl, by decide⟩
  | true => exact ⟨_, _, rfl, by decide⟩
  | false => exact ⟨_, _, rfl, by decide⟩
  | null => exact ⟨_, _, rfl, by decide⟩
  | emptyArray => exact ⟨_, _, rfl, by decide⟩
  | array => exact ⟨_, _, rfl, by decide⟩
  | emptyObject => exact ⟨_, _, rfl, by decide⟩
  | object => exact ⟨_, _, rfl, by decide⟩

/-- Behind its white space an element begins with a character that is no bracket at the end of an array.
-/
theorem Element.head {text : Text} {tree : Tree} (element : Element text tree) :
    ∃ front first rest, text = front ++ first :: rest ∧ Space front ∧ isSpace first = false ∧
      first ≠ 0x5d := by
  obtain ⟨blank, value, behind⟩ := element
  obtain ⟨first, rest, rfl, starts⟩ := value.head
  exact ⟨_, first, _, rfl, blank, starts⟩

/-- Behind white space, elements do not start with a closing bracket. -/
theorem Elements.head {text : Text} {trees : List Tree} (elements : Elements text trees) :
    ∃ front first rest, text = front ++ first :: rest ∧ Space front ∧ isSpace first = false ∧
      first ≠ 0x5d := by
  cases elements with
  | last element => exact element.head
  | cons element more =>
      obtain ⟨front, first, rest, rfl, starts⟩ := element.head
      exact ⟨front, first, _, List.append_assoc _ _ _, starts⟩

/-- Behind white space, members start with a quote. -/
theorem Members.head {text : Text} {fields : List (Text × Tree)} (members : Members text fields) :
    ∃ front rest, text = front ++ 0x22 :: rest ∧ Space front := by
  cases members with
  | last member =>
      obtain ⟨blank, name, middle, element⟩ := member
      exact ⟨_, _, rfl, blank⟩
  | cons member more =>
      obtain ⟨blank, name, middle, element⟩ := member
      exact ⟨_, _, List.append_assoc _ _ _, blank⟩

end JsonGrammar
