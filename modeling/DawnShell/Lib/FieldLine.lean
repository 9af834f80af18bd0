/-
Module: DawnShell.Lib.FieldLine
Layer: Lib
Purpose: Lines of fields of the form `name=value`.  A writer joins the fields by a separator; a reader
  splits the line at separators and takes the first word that begins with the name.  A value that contains
  separators brings words of its own into the line, and these may look like fields.
Trusted boundary: none
Main exports: Fields.words, Fields.afterPrefix, Fields.value, Fields.firstWord, Fields.laterWords,
  Fields.words_join, Fields.words_append, Fields.words_prefixed, Fields.splitOn_terminated,
  Fields.value_append, Fields.value_words_field, Fields.value_words_separators
-/
import Mathlib.Data.List.Basic

namespace Fields

variable {Symbol : Type} [DecidableEq Symbol] {separates : Symbol → Bool} {separator : Symbol}
  {name text front word : List Symbol} {fields first second : List (List Symbol)}

/-- The words of a line. -/
def words (separates : Symbol → Bool) (line : List Symbol) : List (List Symbol) :=
  line.splitOnP separates

/-- What a word says behind a prefix. -/
def afterPrefix (front word : List Symbol) : Option (List Symbol) :=
  if front.isPrefixOf word then some (word.drop front.length) else none

/-- What the first word with a prefix says behind it. -/
def value (front : List Symbol) (words : List (List Symbol)) : Option (List Symbol) :=
  words.findSome? (afterPrefix front)

/-- The first word of a text. -/
def firstWord (separates : Symbol → Bool) (text : List Symbol) : List Symbol :=
  text.takeWhile fun symbol => !separates symbol

/-- The words behind the first one. -/
def laterWords (separates : Symbol → Bool) (text : List Symbol) : List (List Symbol) :=
  (words separates text).tail

/-- A text without separators. -/
def Clean (separates : Symbol → Bool) (text : List Symbol) : Prop :=
  ∀ symbol ∈ text, separates symbol = false

instance : Decidable (Clean separates text) :=
  inferInstanceAs (Decidable (∀ symbol ∈ text, separates symbol = false))

omit [DecidableEq Symbol] in
theorem Clean.cons {symbol : Symbol} (here : separates symbol = false) (rest : Clean separates text) :
    Clean separates (symbol :: text) := by
  intro other member
  rcases List.mem_cons.mp member with rfl | later
  · exact here
  · exact rest other later

section Words

omit [DecidableEq Symbol]

/-- A separator ends one word and begins the next. -/
theorem words_append (separating : separates separator = true) :
    words separates (front ++ separator :: text) = words separates front ++ words separates text :=
  List.splitOnP_append_cons front text separating

/-- A text without a separator is one word. -/
theorem words_clean (clean : Clean separates text) : words separates text = [text] :=
  List.splitOnP_eq_singleton clean

/-- A text is its first word and the later ones. -/
theorem words_eq : words separates text = firstWord separates text :: laterWords separates text := by
  induction text with
  | nil => simp [words, firstWord, laterWords]
  | cons symbol text ih =>
      rw [words] at ih
      rw [laterWords, words, List.splitOnP_cons_eq_if_modifyHead, ih]
      by_cases separating : separates symbol = true
      · simp [firstWord, separating]
      · simp [firstWord, separating]

/-- What stands in front of a text without a separator goes to its first word. -/
theorem words_prefixed (clean : Clean separates front) :
    words separates (front ++ text) =
      (front ++ firstWord separates text) :: laterWords separates text := by
  induction front with
  | nil => exact words_eq
  | cons symbol front ih =>
      have here : separates symbol = false := clean symbol (.head _)
      have rest := ih fun other member => clean other (.tail _ member)
      rw [words] at rest
      rw [List.cons_append, words, List.splitOnP_cons_eq_if_modifyHead, rest, here]
      rfl

/-- There is no separator in a word. -/
theorem clean_of_mem_words (member : word ∈ words separates text) : Clean separates word := by
  induction text generalizing word with
  | nil =>
      rw [words, List.splitOnP_nil, List.mem_singleton] at member
      rw [member]
      exact fun symbol within => absurd within List.not_mem_nil
  | cons symbol text ih =>
      have rest : words separates text = firstWord separates text :: laterWords separates text :=
        words_eq
      rw [words] at rest
      rw [words, List.splitOnP_cons_eq_if_modifyHead] at member
      split at member
      · rcases List.mem_cons.mp member with rfl | later
        · exact fun symbol within => absurd within List.not_mem_nil
        · exact ih later
      next here =>
        rw [rest, List.modifyHead_cons] at member
        rcases List.mem_cons.mp member with rfl | later
        · exact Clean.cons (Bool.not_eq_true _ ▸ here) (ih (by rw [words, rest]; exact .head _))
        · exact ih (by rw [words, rest]; exact .tail _ later)

/-- A text is its own first word exactly if it has no separator. -/
theorem firstWord_eq_self : firstWord separates text = text ↔ Clean separates text := by
  induction text with
  | nil => simp [firstWord, Clean]
  | cons symbol text ih =>
      rw [firstWord] at ih
      by_cases separating : separates symbol = true
      · simp [firstWord, Clean, separating]
      · simp [firstWord, Clean, separating, ih]

theorem laterWords_clean (clean : Clean separates text) : laterWords separates text = [] := by
  rw [laterWords, words_clean clean, List.tail_cons]

/-- The words of a line are those of its fields. -/
theorem words_join (separating : separates separator = true) (filled : fields ≠ []) :
    words separates ([separator].intercalate fields) = fields.flatMap (words separates) := by
  induction fields with
  | nil => exact absurd rfl filled
  | cons field fields ih =>
      cases fields with
      | nil => simp [List.intercalate]
      | cons next fields =>
          have cons : [separator].intercalate (field :: next :: fields) =
              field ++ separator :: [separator].intercalate (next :: fields) := by
            simp [List.intercalate]
          rw [cons, words_append separating, ih (List.cons_ne_nil next fields)]
          rfl

omit separates in
/-- Texts with a terminator behind each are what the whole is cut into. -/
theorem splitOn_terminated [DecidableEq Symbol] {last : List Symbol}
    (plain : ∀ field ∈ fields, separator ∉ field) (end_plain : separator ∉ last) :
    (fields.flatMap (· ++ [separator]) ++ last).splitOn separator = fields ++ [last] := by
  induction fields with
  | nil => exact List.splitOn_eq_singleton end_plain
  | cons field fields ih =>
      have rest := ih fun other member => plain other (.tail _ member)
      rw [List.flatMap_cons, List.append_assoc, List.append_assoc, List.singleton_append,
        List.splitOn_append_cons_self_of_not_mem (plain field (.head _)), rest, List.cons_append]

end Words

section Values

theorem afterPrefix_append : afterPrefix front (front ++ text) = some text := by
  rw [afterPrefix, if_pos (List.isPrefixOf_iff_prefix.mpr (List.prefix_append front text)),
    List.drop_left]

theorem value_nil : value front [] = none := rfl

/-- A field is looked for in a first part and then in a second. -/
theorem value_append : value front (first ++ second) = (value front first).or (value front second) :=
  List.findSome?_append

/-- A word with another front is passed over. -/
theorem value_cons_of_none (apart : afterPrefix front word = none) :
    value front (word :: fields) = value front fields := by
  rw [value, List.findSome?_cons, apart]
  rfl

/-- The first word with the front gives the value. -/
theorem value_cons_of_some (here : afterPrefix front word = some text) :
    value front (word :: fields) = some text := by
  rw [value, List.findSome?_cons, here]

omit [DecidableEq Symbol] in
/-- A name is no prefix of a field with another name. -/
theorem not_prefix_of_name_ne {equals : Symbol} {key : List Symbol} (keyPlain : equals ∉ key)
    (namePlain : equals ∉ name) (other : key ≠ name) :
    ¬ (key ++ [equals]) <+: (name ++ equals :: text) := by
  induction key generalizing name with
  | nil =>
      cases name with
      | nil => exact absurd rfl other
      | cons symbol name =>
          rw [List.nil_append, List.cons_append, List.cons_prefix_cons]
          exact fun same => namePlain (same.1 ▸ .head _)
  | cons symbol key ih =>
      cases name with
      | nil =>
          rw [List.nil_append, List.cons_append, List.cons_prefix_cons]
          exact fun same => keyPlain (same.1 ▸ .head _)
      | cons next name =>
          rw [List.cons_append, List.cons_append, List.cons_prefix_cons]
          rintro ⟨rfl, rest⟩
          exact ih (fun member => keyPlain (.tail _ member)) (fun member => namePlain (.tail _ member))
            (fun same => other (by rw [same])) rest

/-- What a field brings into a line: its value's first word under its own name, and the later words. -/
theorem value_words_field {equals : Symbol} {key : List Symbol} (keyPlain : equals ∉ key)
    (namePlain : equals ∉ name) (clean : Clean separates (name ++ [equals])) :
    value (key ++ [equals]) (words separates (name ++ equals :: text)) =
      if key = name then some (firstWord separates text)
      else value (key ++ [equals]) (laterWords separates text) := by
  rw [List.append_cons name, words_prefixed clean]
  by_cases same : key = name
  · rw [if_pos same, same, value_cons_of_some afterPrefix_append]
  · rw [if_neg same, value_cons_of_none]
    rw [afterPrefix, if_neg]
    rw [List.isPrefixOf_iff_prefix, List.append_assoc]
    exact not_prefix_of_name_ne keyPlain namePlain same

/-- Separators at the end of a line bring empty words alone. -/
theorem value_words_separators (named : front ≠ []) {behind : List Symbol}
    (separating : ∀ symbol ∈ behind, separates symbol = true) :
    value front (words separates (text ++ behind)) = value front (words separates text) := by
  have empty : value front (words separates ([] : List Symbol)) = none := by
    rw [words, List.splitOnP_nil, value, List.findSome?_cons, afterPrefix, if_neg]
    · rfl
    · rw [List.isPrefixOf_iff_prefix, List.prefix_nil]
      exact named
  induction behind generalizing text with
  | nil => rw [List.append_nil]
  | cons symbol behind ih =>
      have rest : value front (words separates behind) = none := by
        have := @ih [] fun other member => separating other (.tail _ member)
        rwa [List.nil_append, empty] at this
      rw [words_append (separating symbol (.head _)), value_append, rest, Option.or_none]

end Values

end Fields
