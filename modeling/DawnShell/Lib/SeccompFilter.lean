/-
Module: DawnShell.Lib.SeccompFilter
Layer: Lib
Purpose: Filters of system calls in the classic packet-filter language.  A jump goes forward and counts
  from the next instruction, so the place of a filter is the list of instructions that remain.  A filter
  reads 32-bit words of the record of the call; the kernel runs every filter that is installed and keeps
  the result with the highest precedence.
Trusted boundary: the layout of the record on a little-endian machine and the order of the results
Main exports: Seccomp.Record, Seccomp.Record.word, Seccomp.Instruction, Seccomp.run, Seccomp.Closed,
  Seccomp.Returns, Seccomp.verdict, Seccomp.returns_of_closed, Seccomp.combine, Seccomp.foldl_restrict
-/
import Mathlib.Data.Fintype.Basic
import Mathlib.Tactic.FinCases

namespace DawnShell.Seccomp

/-! ### The record of a call -/

/-- `struct seccomp_data`. -/
structure Record where
  nr : UInt32
  arch : UInt32
  instructionPointer : UInt64
  args : Fin 6 → UInt64

/-- The low word of an argument. -/
def Record.low (record : Record) (index : Fin 6) : UInt32 := (record.args index).toUInt32

/-- The 64-bit values of the record as the machine stores them: the low word first. -/
def Record.wide (value : UInt64) : List UInt32 := [value.toUInt32, (value >>> 32).toUInt32]

/-- The words of the record from its start. -/
def Record.words (record : Record) : List UInt32 :=
  [record.nr, record.arch] ++ wide record.instructionPointer ++ (List.ofFn record.args).flatMap wide

/-- The word at an offset in bytes. -/
def Record.word (record : Record) (offset : Nat) : Option UInt32 :=
  if offset % 4 = 0 then record.words[offset / 4]? else none

/-- `offsetof(struct seccomp_data, nr)`. -/
def nrOffset : Nat := 0

/-- `offsetof(struct seccomp_data, arch)`. -/
def archOffset : Nat := 4

/-- `offsetof(struct seccomp_data, args[index])`. -/
def argumentOffset (index : Nat) : Nat := 16 + 8 * index

@[simp] theorem word_nrOffset (record : Record) : record.word nrOffset = some record.nr := rfl
@[simp] theorem word_archOffset (record : Record) : record.word archOffset = some record.arch := rfl
@[simp] theorem word_argumentOffset (record : Record) (index : Fin 6) :
    record.word (argumentOffset index) = some (record.low index) := by
  fin_cases index <;>
    simp [Record.word, Record.words, Record.wide, Record.low, argumentOffset, List.ofFn_succ]

/-! ### Filters -/

/-- What a jump compares the accumulator with. -/
inductive Test where
  | equal
  | anySet
deriving DecidableEq, Repr

/-- `BPF_JEQ` and `BPF_JSET`. -/
def Test.holds (accumulator operand : UInt32) : Test → Bool
  | .equal => accumulator == operand
  | .anySet => accumulator &&& operand != 0

/-- The instructions of a filter. -/
inductive Instruction where
  | load (offset : Nat)
  | jump (test : Test) (operand : UInt32) (whenTrue whenFalse : Nat)
  | ret (value : UInt32)
deriving DecidableEq, Repr

/-- A filter with at most `fuel` instructions to execute: what it returns. -/
def run (record : Record) : (fuel : Nat) → List Instruction → UInt32 → Option UInt32
  | 0, _, _ => none
  | _ + 1, [], _ => none
  | _ + 1, .ret value :: _, _ => some value
  | fuel + 1, .load offset :: rest, _ =>
      match record.word offset with
      | some word => run record fuel rest word
      | none => none
  | fuel + 1, .jump test operand whenTrue whenFalse :: rest, accumulator =>
      run record fuel (rest.drop (if test.holds accumulator operand then whenTrue else whenFalse))
        accumulator

/-- What a filter returns for a record.  A filter executes each of its instructions at most once. -/
def verdict (record : Record) (filter : List Instruction) : Option UInt32 :=
  run record filter.length filter 0

/-- The filter returns the value, from this accumulator on. -/
inductive Returns (record : Record) : List Instruction → UInt32 → UInt32 → Prop
  | ret {value accumulator : UInt32} {rest : List Instruction} :
      Returns record (.ret value :: rest) accumulator value
  | load {offset : Nat} {word accumulator value : UInt32} {rest : List Instruction}
      (loaded : record.word offset = some word) (returned : Returns record rest word value) :
      Returns record (.load offset :: rest) accumulator value
  | jump {test : Test} {operand accumulator value : UInt32} {whenTrue whenFalse : Nat}
      {rest : List Instruction}
      (returned : Returns record
        (rest.drop (if test.holds accumulator operand then whenTrue else whenFalse)) accumulator value) :
      Returns record (.jump test operand whenTrue whenFalse :: rest) accumulator value

/-- An execution takes at most as many steps as there are instructions. -/
theorem Returns.run {record : Record} {filter : List Instruction} {accumulator value : UInt32}
    (returned : Returns record filter accumulator value) {fuel : Nat} (enough : filter.length ≤ fuel) :
    run record fuel filter accumulator = some value := by
  induction returned generalizing fuel with
  | ret =>
      cases fuel with
      | zero => cases enough
      | succ fuel => rfl
  | load loaded _ ih =>
      cases fuel with
      | zero => cases enough
      | succ fuel => simp only [Seccomp.run, loaded, ih (Nat.le_of_succ_le_succ enough)]
  | jump _ ih =>
      cases fuel with
      | zero => cases enough
      | succ fuel =>
          rw [Seccomp.run]
          apply ih
          simp only [List.length_drop, List.length_cons] at enough ⊢
          omega

/-- What a filter returns for a record is its verdict. -/
theorem Returns.verdict {record : Record} {filter : List Instruction} {value : UInt32}
    (returned : Returns record filter 0 value) : verdict record filter = some value :=
  returned.run le_rfl

/-! ### Filters that stay inside -/

/-- An instruction followed by `remaining` others leads to one of them, and reads the record. -/
def Instruction.Inside (remaining : Nat) : Instruction → Prop
  | .load offset => offset % 4 = 0 ∧ offset < 64 ∧ 0 < remaining
  | .jump _ _ whenTrue whenFalse => whenTrue < remaining ∧ whenFalse < remaining
  | .ret _ => True

/-- No instruction leads out of the filter. -/
def Closed : List Instruction → Prop
  | [] => True
  | instruction :: rest => instruction.Inside rest.length ∧ Closed rest

/-- The end of a closed filter is closed. -/
theorem Closed.drop {filter : List Instruction} (closed : Closed filter) (count : Nat) :
    Closed (filter.drop count) := by
  induction count generalizing filter with
  | zero => exact closed
  | succ count ih =>
      cases filter with
      | nil => exact closed
      | cons instruction rest => exact ih closed.2

/-- A word at an aligned offset inside the record can be read. -/
theorem word_of_inside {record : Record} {offset : Nat} (aligned : offset % 4 = 0)
    (short : offset < 64) : ∃ word, record.word offset = some word := by
  have count : offset / 4 < record.words.length := by
    simp [Record.words, Record.wide, List.ofFn_succ]
    omega
  refine ⟨record.words[offset / 4], ?_⟩
  rw [Record.word, if_pos aligned, List.getElem?_eq_getElem count]

/-- A filter that no instruction leads out of returns. -/
theorem returns_of_closed {record : Record} {filter : List Instruction} (closed : Closed filter)
    (occupied : filter ≠ []) (accumulator : UInt32) :
    ∃ value, Returns record filter accumulator value := by
  generalize count : filter.length = length
  induction length using Nat.strong_induction_on generalizing filter accumulator with
  | _ length ih =>
      cases filter with
      | nil => exact absurd rfl occupied
      | cons instruction rest =>
          obtain ⟨inside, closed⟩ := closed
          rw [List.length_cons] at count
          cases instruction with
          | ret value => exact ⟨value, .ret⟩
          | load offset =>
              obtain ⟨aligned, short, remaining⟩ := inside
              obtain ⟨word, loaded⟩ := @word_of_inside record _ aligned short
              obtain ⟨value, returned⟩ :=
                ih rest.length (by omega) closed (List.length_pos_iff.mp remaining) word rfl
              exact ⟨value, .load loaded returned⟩
          | jump test operand whenTrue whenFalse =>
              have goes : ∀ skip < rest.length,
                  ∃ value, Returns record (rest.drop skip) accumulator value := by
                intro skip shorter
                have fewer : (rest.drop skip).length < length := by
                  rw [List.length_drop]
                  omega
                apply ih _ fewer (closed.drop skip) ?_ accumulator rfl
                rw [Ne, List.drop_eq_nil_iff]
                omega
              have target : (if test.holds accumulator operand then whenTrue else whenFalse) <
                  rest.length := by
                split
                · exact inside.1
                · exact inside.2
              obtain ⟨value, returned⟩ := goes _ target
              exact ⟨value, .jump returned⟩

/-! ### The results of several filters -/

/-- `ACTION_ONLY`: the part of a result that decides between results. -/
def action (value : UInt32) : Int := (value &&& 0xffff0000).toInt32.toInt

/-- `SECCOMP_RET_ALLOW`. -/
def allow : UInt32 := 0x7fff0000

/-- `SECCOMP_RET_ERRNO` with an error. -/
def errno (error : UInt32) : UInt32 := 0x00050000 ||| error

/-- What the kernel keeps after a further filter. -/
def restrict (kept value : UInt32) : UInt32 := if action value < action kept then value else kept

/-- What the kernel does with a call, the filters in the order in which it runs them. -/
def combine (record : Record) (filters : List (List Instruction)) : Option UInt32 :=
  (filters.mapM (verdict record)).map (·.foldl restrict allow)

/-- A refusal that some filter gives stands, when the others allow the call or give it as well. -/
theorem foldl_restrict {refusal : UInt32} (below : action refusal < action allow) {values : List UInt32}
    (known : ∀ value ∈ values, value = allow ∨ value = refusal) {kept : UInt32}
    (before : kept = allow ∨ kept = refusal) :
    values.foldl restrict kept = if refusal ∈ kept :: values then refusal else allow := by
  have differs : allow ≠ refusal := by
    rintro rfl
    exact lt_irrefl _ below
  induction values generalizing kept with
  | nil => rcases before with rfl | rfl <;> simp [differs.symm]
  | cons value values ih =>
      have further : restrict kept value = if refusal ∈ [kept, value] then refusal else allow := by
        rcases before with rfl | rfl <;> rcases known value List.mem_cons_self with rfl | rfl <;>
          simp [restrict, below, below.le, differs.symm]
      rw [List.foldl_cons, further, ih fun other member => known other (List.mem_cons_of_mem _ member)]
      · by_cases refused : refusal ∈ [kept, value]
        · rw [if_pos refused, if_pos List.mem_cons_self, if_pos]
          simp only [List.mem_cons, List.not_mem_nil, or_false] at refused ⊢
          tauto
        · rw [if_neg refused]
          simp only [List.mem_cons, List.not_mem_nil, or_false, not_or] at refused ⊢
          simp [refused, differs.symm]
      · split <;> simp

end DawnShell.Seccomp
