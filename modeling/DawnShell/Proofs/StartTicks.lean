/-
Module: DawnShell.Proofs.StartTicks
Layer: Proofs
Purpose: The start time of a process does not depend on its name.  The last closing parenthesis is the one
  behind the name, whatever the name is, and the tokens behind it are the fields from the third on.
Trusted boundary: none
Main exports: startTicksOf_text, start_ticks_of_line, start_ticks_ignore_name
-/
import DawnShell.Launcher.ProcessStat

namespace DawnShell.Launcher

open CString

variable {line other : StatLine} {ticks : UInt64} {tokens : List Text}

/-- The loop takes the token at the place of field 22. -/
theorem startTicksField_eq {field : Nat} (early : field ≤ 22) :
    startTicksField field tokens = tokens[22 - field]?.bind tokenValue := by
  induction tokens generalizing field with
  | nil => rfl
  | cons token tokens ih =>
      rw [startTicksField]
      by_cases here : field = 22
      · subst here
        rw [if_pos rfl, Nat.sub_self, List.getElem?_cons_zero, Option.bind_some]
      · have place : 22 - field = 22 - (field + 1) + 1 := by omega
        rw [if_neg here, ih (by omega), place, List.getElem?_cons_succ]

/-- A field of digits below `2 ^ 64` is read as its value. -/
theorem tokenValue_of_all {token : Text} (filled : token ≠ [])
    (all : ∀ character ∈ token, character.isDigit = true)
    (small : Nat.ofDigitChars 10 token 0 < 2 ^ 64) :
    tokenValue token = some (UInt64.ofNat (Nat.ofDigitChars 10 token 0)) := by
  rw [tokenValue, strtoull_of_all filled all small]
  simp [filled.symm]

/-- A stat line has no byte that would end it early. -/
theorem StatLine.nul_not_mem (line : StatLine) : nul ∉ line.text := by
  have fields : nul ∉ line.fields.flatMap (' ' :: ·) := by
    intro member
    obtain ⟨field, among, within⟩ := List.mem_flatMap.mp member
    rcases List.mem_cons.mp within with blank | inside
    · exact absurd blank (by decide)
    · exact line.plain field among inside
  have marks : nul ≠ ' ' ∧ nul ≠ '(' ∧ nul ≠ ')' := by decide
  simp [StatLine.text, line.pidPlain, line.commPlain, fields, marks]

/-- The last parenthesis is the one behind the name. -/
theorem StatLine.strrchr_text (line : StatLine) :
    strrchr ')' line.text = some (line.fields.flatMap (' ' :: ·)) := by
  apply strrchr_append
  intro member
  obtain ⟨field, among, within⟩ := List.mem_flatMap.mp member
  rcases List.mem_cons.mp within with blank | inside
  · exact absurd blank (by decide)
  · exact (line.closed field among).2 inside

/-- Whatever the name is, the value is that of field 22. -/
theorem startTicksOf_text (line : StatLine) :
    startTicksOf line.text = line.fields[19]?.bind tokenValue := by
  rw [startTicksOf, line.strrchr_text]
  cases fields : line.fields with
  | nil => rfl
  | cons field fields' =>
      have plain : ∀ other ∈ field :: fields', ' ' ∉ other := fields ▸ line.spaced
      have filled : ∀ other ∈ field :: fields', other ≠ [] := fields ▸ line.filled
      rw [List.flatMap_cons]
      simp only [List.cons_append]
      rw [strtok_words plain filled, startTicksField_eq (by decide)]

/-- A line that the buffer holds is read as a whole. -/
theorem readProcStartTicks_text (short : line.text.length < statBufferBytes) :
    readProcStartTicks (some line.text) ticks =
      match line.fields[19]?.bind tokenValue with
      | none => (-1, ticks)
      | some value => (0, value) := by
  have whole : terminated (line.text.take (statBufferBytes - 1)) = line.text := by
    rw [List.take_of_length_le (by omega), terminated_of_plain line.nul_not_mem]
  rw [← startTicksOf_text]
  conv_rhs => rw [← whole]
  cases text : line.text with
  | nil => simp [StatLine.text] at text
  | cons character text => rfl

/-- Two lines with the same fields give the same, whatever the names are. -/
theorem start_ticks_ignore_name (same : line.fields = other.fields)
    (short : line.text.length < statBufferBytes) (otherShort : other.text.length < statBufferBytes) :
    readProcStartTicks (some line.text) ticks = readProcStartTicks (some other.text) ticks := by
  rw [readProcStartTicks_text short, readProcStartTicks_text otherShort, same]

/-- For every name: a line whose field 22 is a decimal number of 64 bits gives this number, and a line
with fewer than 22 fields is refused and leaves the output as it is. -/
theorem start_ticks_of_line (line : StatLine) (short : line.text.length < statBufferBytes)
    (ticks : UInt64) :
    (∀ field, line.fields[19]? = some field → (∀ character ∈ field, character.isDigit = true) →
      Nat.ofDigitChars 10 field 0 < 2 ^ 64 →
        readProcStartTicks (some line.text) ticks =
          (0, UInt64.ofNat (Nat.ofDigitChars 10 field 0))) ∧
      (2 + line.fields.length < 22 → readProcStartTicks (some line.text) ticks = (-1, ticks)) := by
  rw [readProcStartTicks_text short]
  constructor
  · intro field found all small
    have filled := line.filled field (List.mem_of_getElem? found)
    rw [found, Option.bind_some, tokenValue_of_all filled all small]
  · intro few
    rw [List.getElem?_eq_none (by omega)]
    rfl

/-- A process whose name looks like the end of a name and some fields. -/
def forgedLine : StatLine where
  pid := "41".toList
  comm := "x) R 1 1\n(".toList
  fields := ["S", "1", "41", "41", "0", "-1", "4194560", "120", "0", "0", "0", "3", "2", "0", "0", "20",
    "0", "1", "0", "8812", "10985472\n"].map String.toList
  pidPlain := by decide
  commPlain := by decide
  filled := by decide
  spaced := by decide
  closed := by decide
  plain := by decide

theorem start_ticks_of_line_forged :
    readProcStartTicks (some forgedLine.text) 5 = (0, 8812) := by
  have value : Nat.ofDigitChars 10 "8812".toList 0 = 8812 := by decide
  have digits : ∀ character ∈ "8812".toList, character.isDigit = true :=
    List.all_eq_true.mp (by decide)
  have read := (start_ticks_of_line forgedLine (by decide) 5).1 _ rfl digits (by rw [value]; omega)
  rwa [value] at read

end DawnShell.Launcher
