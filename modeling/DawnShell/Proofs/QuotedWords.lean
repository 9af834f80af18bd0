/-
Module: DawnShell.Proofs.QuotedWords
Layer: Proofs
Purpose: What the shell makes of quoted strings.  The bytes of a string that `shellQuote` has quoted are
  the quoted text of its bytes, and quoted strings with a blank between each two are the words of one
  command, whatever they contain.
Trusted boundary: none
Main exports: encoded_shellQuote, Encodes, encodes_shellQuote, quoted_words
-/
import DawnShell.Lib.ShellWords
import DawnShell.App.LifecycleCommand

namespace DawnShell.App

open Java

/-! ### Quotes and bytes -/

section Quotes

variable {unit : UInt16} {value rest : JavaString}

/-- No byte of another character than the quote is the byte of a quote. -/
theorem quote_not_mem_encodedUnit (other : unit ≠ 0x27) : '\'' ∉ encodedUnit unit :=
  not_mem_encodedUnit (by decide) (by decide) fun same => other (UInt16.toNat_inj.mp same)

theorem flatMap_quoteCharacter {text : List Char} (plain : '\'' ∉ text) :
    text.flatMap Shell.quoteCharacter = text := by
  induction text with
  | nil => rfl
  | cons character text ih =>
      have here : character ≠ '\'' := fun same => plain (same ▸ .head _)
      rw [List.flatMap_cons, ih fun member => plain (.tail _ member), Shell.quoteCharacter, if_neg here]
      rfl

/-- Whatever replaces a unit begins with it. -/
theorem replaceQuote_begins : ∃ behind, replaceQuote unit = unit :: behind := by
  by_cases quoted : unit = 0x27
  · exact ⟨literal "\"'\"'".toList, by rw [quoted]; rfl⟩
  · exact ⟨[], by rw [replaceQuote, if_neg quoted]⟩

/-- A quotation mark is encoded by itself, and what replaces it in a quoted word is ASCII. -/
theorem encoded_replaceQuote_cons :
    encoded (0x27 :: rest) = '\'' :: encoded rest ∧
      encoded (replaceQuote 0x27 ++ rest) = "'\"'\"'".toList ++ encoded rest := by
  have quote : encoded (0x27 :: rest) = '\'' :: encoded rest := encoded_cons_ascii (by decide)
  refine ⟨quote, ?_⟩
  rw [show replaceQuote 0x27 = [0x27, 0x22, 0x27, 0x22, 0x27] by rfl]
  simp only [List.cons_append, List.nil_append]
  rw [encoded_cons_ascii (by decide), encoded_cons_ascii (by decide), encoded_cons_ascii (by decide),
    encoded_cons_ascii (by decide), quote]
  rfl

/-- The bytes of the replaced string are the bytes of the string, replaced: a quote is one byte in
UTF-8, and no byte of another character looks like one. -/
theorem encoded_flatMap_replaceQuote :
    encoded (value.flatMap replaceQuote) = (encoded value).flatMap Shell.quoteCharacter := by
  have alone : ∀ {unit : UInt16}, unit ≠ 0x27 → replaceQuote unit = [unit] := fun other => if_neg other
  induction value using encoded.induct with
  | case1 => rfl
  | case2 last =>
      rw [List.flatMap_singleton, encoded]
      by_cases quoted : last = 0x27
      · rw [quoted]
        rfl
      · rw [alone quoted, encoded, flatMap_quoteCharacter (quote_not_mem_encodedUnit quoted)]
  | case3 high low rest pair ih =>
      have notHigh : high ≠ 0x27 := by
        rintro rfl
        simp [isHighSurrogate] at pair
      have notLow : low ≠ 0x27 := by
        rintro rfl
        simp [isLowSurrogate] at pair
      obtain ⟨above, below⟩ := surrogatePoint_bounds pair
      have point : '\'' ∉ utf8 (surrogatePoint high low) :=
        not_mem_utf8 (by decide) (fun same => by simp [same] at above) below
      rw [List.flatMap_cons, List.flatMap_cons, alone notHigh, alone notLow, List.singleton_append,
        List.singleton_append, encoded, if_pos pair, encoded, if_pos pair, ih, List.flatMap_append,
        flatMap_quoteCharacter point]
  | case4 unit next rest apart ih =>
      have single : encoded (unit :: next :: rest) = encodedUnit unit ++ encoded (next :: rest) :=
        encoded_cons_of_not_pair (by simpa using apart)
      rw [List.flatMap_cons, single, List.flatMap_append, ← ih]
      by_cases quoted : unit = 0x27
      · rw [quoted, encoded_replaceQuote_cons.2]
        rfl
      · -- What follows still begins with the next unit, so that no pair comes about.
        obtain ⟨behind, begins⟩ : ∃ behind, replaceQuote next = next :: behind := replaceQuote_begins
        rw [alone quoted, flatMap_quoteCharacter (quote_not_mem_encodedUnit quoted),
          List.flatMap_cons, begins, List.singleton_append, List.cons_append]
        exact encoded_cons_of_not_pair (by simpa using apart)

/-- A string that is quoted in Java is the quoted text of its bytes. -/
theorem encoded_shellQuote (clean : 0 ∉ value) :
    ∃ quoted, shellQuote value = some (0x27 :: quoted) ∧
      encoded (0x27 :: quoted) = Shell.quote (encoded value) := by
  refine ⟨value.flatMap replaceQuote ++ [0x27], ?_, ?_⟩
  · rw [shellQuote, if_neg (by simpa using clean)]
    rfl
  · rw [encoded_replaceQuote_cons.1, encoded_append (by decide), encoded_flatMap_replaceQuote]
    rfl

end Quotes

/-! ### Pieces of a command -/

/-- A piece that begins with an ASCII character, and its bytes. -/
structure Encodes (value : JavaString) (text : List Char) : Prop where
  bytes : encoded value = text
  begins : ∃ unit rest, value = unit :: rest ∧ unit < 0x80

section Pieces

variable {value first second : JavaString} {text firstText secondText : List Char}

/-- What encodes two texts in sequence encodes the first and then the second. -/
theorem Encodes.append (one : Encodes first firstText) (two : Encodes second secondText) :
    Encodes (first ++ second) (firstText ++ secondText) := by
  obtain ⟨unit, rest, begins, ascii⟩ := one.begins
  obtain ⟨next, behind, follows, small⟩ := two.begins
  constructor
  · rw [← one.bytes, ← two.bytes, follows, encoded_append small]
  · exact ⟨unit, rest ++ second, by rw [begins]; rfl, ascii⟩

theorem Encodes.blank (encodes : Encodes value text) : Encodes (0x20 :: value) (' ' :: text) := by
  refine ⟨?_, 0x20, value, rfl, by decide⟩
  rw [encoded_cons_ascii (by decide), encodes.bytes]
  rfl

/-- An ASCII literal is encoded as its characters. -/
theorem encodes_literal {character : Char}
    (all : ((character :: text).all fun other => other.toNat < 0x80) = true) :
    Encodes (literal (character :: text)) (character :: text) := by
  have ascii : ∀ other ∈ character :: text, other.toNat < 0x80 := by simpa using all
  refine ⟨encoded_literal ascii, _, _, rfl, ?_⟩
  have here := ascii character (.head _)
  rw [UInt16.lt_iff_toNat_lt, UInt16.toNat_ofNat_of_lt' (Nat.lt_trans here (by decide))]
  exact here

/-- A string without NUL is quoted, and the bytes of the result are the quoted bytes of the string. -/
theorem encodes_shellQuote (clean : 0 ∉ value) :
    ∃ quoted, shellQuote value = some quoted ∧ Encodes quoted (Shell.quote (encoded value)) := by
  obtain ⟨quoted, built, bytes⟩ := encoded_shellQuote clean
  exact ⟨0x27 :: quoted, built, bytes, 0x27, quoted, rfl, by decide⟩

/-- A quoted argument is a blank and the quoted string. -/
theorem encodes_quotedArgument (clean : 0 ∉ value) :
    ∃ quoted, quotedArgument value = some quoted ∧
      Encodes quoted (' ' :: Shell.quote (encoded value)) := by
  obtain ⟨quoted, built, encodes⟩ := encodes_shellQuote clean
  exact ⟨0x20 :: quoted, by rw [quotedArgument, built]; rfl, encodes.blank⟩

end Pieces

/-! ### Words -/

section Words

variable {first : JavaString} {values : List JavaString}

/-- The bytes of quoted strings with a blank between each two. -/
theorem encodes_join_shellQuote (clean : ∀ value ∈ first :: values, 0 ∉ value) :
    ∃ quoted, (first :: values).mapM shellQuote = some quoted ∧
      Encodes (join 0x20 quoted) (Shell.quote (encoded first) ++
        (values.map encoded).flatMap fun value => ' ' :: Shell.quote value) := by
  induction values generalizing first with
  | nil =>
      obtain ⟨quoted, built, encodes⟩ := encodes_shellQuote (clean first (.head _))
      refine ⟨[quoted], by simp [built], ?_⟩
      rwa [join, List.map_nil, List.flatMap_nil, List.append_nil]
  | cons next values ih =>
      obtain ⟨quoted, built, encodes⟩ := encodes_shellQuote (clean first (.head _))
      obtain ⟨others, more, rest⟩ := @ih next fun value member => clean value (.tail _ member)
      refine ⟨quoted :: others, by rw [List.mapM_cons, built, more]; rfl, ?_⟩
      have further := encodes.append rest.blank
      cases others with
      | nil =>
          obtain ⟨unit, behind, begins, -⟩ := rest.begins
          cases begins
      | cons other others => exact further

/-- The shell reads quoted texts with a blank between each two as words, one for each. -/
theorem tokens_quotes {first : List Char} {values : List (List Char)} :
    Shell.tokens (Shell.quote first ++ values.flatMap fun value => ' ' :: Shell.quote value) =
      some ((first :: values).map (Shell.Token.word · false)) := by
  obtain ⟨emitted, last, more, read, closed, same⟩ := @Shell.run_next_quotes first false values
  rw [Shell.tokens, Shell.run_append_of Shell.run_quote read]
  simp only [Option.bind_eq_bind, Option.bind_some, closed, Option.pure_def, List.nil_append, same,
    List.map_cons]

/-- Quoted words make one command, in which no operator takes effect. -/
theorem andList_quoted {first : List Char} {values : List (List Char)} :
    Shell.andList {} ((first :: values).map (Shell.Token.word · false)) =
      some [{ words := first :: values }] := by
  rw [List.map_cons, Shell.andList, if_neg (by simp), Shell.andList_words (by simp)]
  rfl

/-- Strings without a null character that are quoted and joined by blanks are split into exactly these
strings, and a list with a string in it is one command without an operator. -/
theorem quoted_words {values : List JavaString} (clean : ∀ value ∈ values, 0 ∉ value) :
    ∃ quoted, values.mapM shellQuote = some quoted ∧
      Shell.tokens (encoded (join 0x20 quoted)) =
        some (values.map fun value => .word (encoded value) false) ∧
      (values ≠ [] →
        Shell.commands (encoded (join 0x20 quoted)) = some [{ words := values.map encoded }]) := by
  cases values with
  | nil => exact ⟨[], rfl, rfl, fun filled => absurd rfl filled⟩
  | cons first values =>
      obtain ⟨quoted, built, encodes⟩ := encodes_join_shellQuote clean
      have split : Shell.tokens (encoded (join 0x20 quoted)) =
          some (((first :: values).map encoded).map (Shell.Token.word · false)) := by
        rw [encodes.bytes, tokens_quotes]
        rfl
      refine ⟨quoted, built, ?_, fun _ => ?_⟩
      · rw [split, List.map_map]
        rfl
      · rw [Shell.commands, split]
        exact andList_quoted

/-- Quotes alone, an empty string, and what the shell would act on outside of quotes. -/
def oddStrings : List JavaString :=
  ["'''", "", "a; b && $(c)\n# `d` \"e\" *"].map (literal ·.toList)

theorem quoted_words_odd :
    ∃ quoted, oddStrings.mapM shellQuote = some quoted ∧
      Shell.tokens (encoded (join 0x20 quoted)) =
        some (oddStrings.map fun value => .word (encoded value) false) ∧
      (oddStrings ≠ [] →
        Shell.commands (encoded (join 0x20 quoted)) = some [{ words := oddStrings.map encoded }]) :=
  quoted_words (by decide)

end Words

end DawnShell.App
