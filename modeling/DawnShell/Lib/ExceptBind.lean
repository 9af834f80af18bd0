/-
Module: DawnShell.Lib.ExceptBind
Layer: Lib
Purpose: What two fallible steps after each other tell about each of them.
Trusted boundary: none (pure Lean)
Main exports: Except.ok_of_bind, Except.exists_of_isOk, Except.bind_ne_error
-/
import Mathlib.Init

namespace Except

variable {ε α β : Type} {first : Except ε α} {next : α → Except ε β}

/-- What two steps return is what the second returns of what the first returned. -/
theorem ok_of_bind {result : β} (returned : first >>= next = .ok result) :
    ∃ value, first = .ok value ∧ next value = .ok result := by
  cases first with
  | error failure => cases returned
  | ok value => exact ⟨value, rfl, returned⟩

/-- What succeeds has a result. -/
theorem exists_of_isOk (succeeded : first.isOk = true) : ∃ value, first = .ok value := by
  cases first with
  | error failure => cases succeeded
  | ok value => exact ⟨value, rfl⟩

/-- Two steps do not fail as neither of them does. -/
theorem bind_ne_error {failure : ε} (start : first ≠ .error failure)
    (rest : ∀ value, first = .ok value → next value ≠ .error failure) :
    first >>= next ≠ .error failure := by
  cases first with
  | error other => exact fun same => start (congrArg error (error.inj same))
  | ok value => exact rest value rfl

end Except
