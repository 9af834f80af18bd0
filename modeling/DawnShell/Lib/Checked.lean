/-
Module: DawnShell.Lib.Checked
Layer: Lib
Purpose: Functions over machine integers that fill a buffer from its start.  Every sum and product says
  in which width it is made and every read which elements there are; a value that does not fit its width
  and a read outside the elements stop the function with a fault, and what has been written stays.  The
  rules below take a check that passes out of a program, so that it is compared with a pure function.
Trusted boundary: none
Main exports: Checked, Checked.run, Checked.int32, Checked.int64, Checked.uint64, Checked.readAt,
  Checked.readBlock, Checked.emit, Checked.fail
-/
import Mathlib.Data.List.Basic
import Mathlib.Tactic.Ring

/-- What a function over machine integers must not do. -/
inductive Fault where
  | overflow
  | outOfBounds
deriving DecidableEq, Repr

/-- Why a function stops early: by a fault, or with an error of its own. -/
inductive Stop (ε : Type) where
  | fault (kind : Fault)
  | failed (error : ε)

/-- A function that can stop early; its state is what has been written to the buffer. -/
abbrev Checked (ε β α : Type) := ExceptT (Stop ε) (StateM (List β)) α

namespace Checked

variable {ε β α γ : Type}

/-- What the function returns and what is in the buffer then. -/
def run (program : Checked ε β α) (written : List β) : Except (Stop ε) α × List β :=
  StateT.run (ExceptT.run program) written

/-- Stop with an error. -/
def fail (error : ε) : Checked ε β α := throw (.failed error)

/-- A value that has to lie in a range. -/
def within (low high value : Int) : Checked ε β Int :=
  if low ≤ value ∧ value < high then pure value else throw (.fault .overflow)

/-- The result of an operation on `int` or `int32_t`. -/
def int32 (value : Int) : Checked ε β Int := within (-2 ^ 31) (2 ^ 31) value

/-- The result of an operation on `int64_t`. -/
def int64 (value : Int) : Checked ε β Int := within (-2 ^ 63) (2 ^ 63) value

/-- The result of an operation on `uint64_t` or a 64-bit `size_t`. -/
def uint64 (value : Int) : Checked ε β Int := within 0 (2 ^ 64) value

/-- One element of an array of the given length. -/
def readAt (data : Nat → β) (length index : Int) : Checked ε β β :=
  if 0 ≤ index ∧ index < length then pure (data index.toNat) else throw (.fault .outOfBounds)

/-- Consecutive elements of an array of the given length. -/
def readBlock (data : Nat → β) (length first : Int) (count : Nat) : Checked ε β (List β) :=
  if 0 ≤ first ∧ first + count ≤ length then
    pure ((List.range count).map fun (offset : Nat) => data (first + offset).toNat)
  else throw (.fault .outOfBounds)

/-- Write behind what has been written; the position of the next write has 64 bits. -/
def emit (block : List β) : Checked ε β Unit := do
  let written ← get
  let _ ← uint64 (written.length + block.length)
  set (written ++ block)

section Rules

variable {written : List β} {program : Checked ε β α} {rest : α → Checked ε β γ}

theorem run_pure (value : α) : run (pure value : Checked ε β α) written = (.ok value, written) := rfl

theorem run_fail (error : ε) :
    run (fail error : Checked ε β α) written = (.error (.failed error), written) := rfl

/-- Behind a value the rest runs with what has been written so far. -/
theorem run_bind_of_ok {value : α} {after : List β} (first : run program written = (.ok value, after)) :
    run (program >>= rest) written = run (rest value) after := by
  simp only [run, ExceptT.run_bind, StateT.run_bind] at first ⊢
  rw [first]
  rfl

/-- Behind a stop nothing more is written. -/
theorem run_bind_of_error {stop : Stop ε} {after : List β}
    (first : run program written = (.error stop, after)) :
    run (program >>= rest) written = (.error stop, after) := by
  simp only [run, ExceptT.run_bind, StateT.run_bind] at first ⊢
  rw [first]
  rfl

/-- A result within the range of its type is passed on. -/
theorem within_bind {low high value : Int} {next : Int → Checked ε β γ}
    (inside : low ≤ value ∧ value < high) : within low high value >>= next = next value := by
  rw [within, if_pos inside, pure_bind]

theorem int32_bind {value : Int} {next : Int → Checked ε β γ}
    (inside : -2 ^ 31 ≤ value ∧ value < 2 ^ 31) : int32 value >>= next = next value :=
  within_bind inside

theorem int64_bind {value : Int} {next : Int → Checked ε β γ}
    (inside : -2 ^ 63 ≤ value ∧ value < 2 ^ 63) : int64 value >>= next = next value :=
  within_bind inside

theorem uint64_bind {value : Int} {next : Int → Checked ε β γ}
    (inside : 0 ≤ value ∧ value < 2 ^ 64) : uint64 value >>= next = next value :=
  within_bind inside

/-- A read inside the data gives the datum at the index. -/
theorem readAt_bind {data : Nat → β} {length index : Int} {next : β → Checked ε β γ}
    (inside : 0 ≤ index ∧ index < length) :
    readAt data length index >>= next = next (data index.toNat) := by
  rw [readAt, if_pos inside, pure_bind]

/-- A block inside the data is read whole. -/
theorem readBlock_bind {data : Nat → β} {length first : Int} {count : Nat}
    {next : List β → Checked ε β γ} (inside : 0 ≤ first ∧ first + count ≤ length) :
    readBlock data length first count >>= next =
      next ((List.range count).map fun (offset : Nat) => data (first + offset).toNat) := by
  rw [readBlock, if_pos inside, pure_bind]

/-- A block is appended to what has been written, as long as this can be counted. -/
theorem run_emit {block : List β} (short : written.length + block.length < 2 ^ 64) :
    run (emit block : Checked ε β Unit) written = (.ok (), written ++ block) := by
  have fits : (0 : Int) ≤ written.length + block.length ∧
      (written.length + block.length : Int) < 2 ^ 64 := by omega
  have read : run (get : Checked ε β (List β)) written = (.ok written, written) := rfl
  rw [emit, run_bind_of_ok read, uint64_bind fits]
  rfl

end Rules

end Checked
