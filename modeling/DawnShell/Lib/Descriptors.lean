/-
Module: DawnShell.Lib.Descriptors
Layer: Lib
Purpose: The descriptor table of a process: every new descriptor gets the lowest free number at or above a
  bound, `dup2` puts an object at a number of choice, and a flag says what `exec` closes.
Trusted boundary: the documented behaviour of descriptor allocation, `fcntl` with `F_DUPFD_CLOEXEC`,
  `F_GETFD` and `F_SETFD`, `dup2` and `close`, under a limit on the numbers
Main exports: Descriptors.Table, Descriptors.lowestFree, Descriptors.allocate, Descriptors.dupFrom,
  Descriptors.dup2, Descriptors.close, Descriptors.setCloexec, Descriptors.lowestFree_spec,
  Descriptors.dupFrom_spec, Descriptors.dup2_spec, Descriptors.setCloexec_spec
-/
import Mathlib.Logic.Function.Basic
import Mathlib.Data.List.Basic

namespace Descriptors

/-- What a number stands for. -/
structure Descriptor (Object : Type) where
  object : Object
  cloexec : Bool
deriving DecidableEq, Repr

/-- The open descriptors. -/
abbrev Table (Object : Type) := Nat → Option (Descriptor Object)

variable {Object : Type}

/-- The lowest number from `first` on that is not open. -/
def lowestFree (limit first : Nat) (table : Table Object) : Option Nat :=
  (List.range limit).find? fun number => decide (first ≤ number) && (table number).isNone

/-- A new descriptor for an object. -/
def allocate (limit first : Nat) (table : Table Object) (descriptor : Descriptor Object) :
    Option (Nat × Table Object) :=
  (lowestFree limit first table).map fun number =>
    (number, Function.update table number (some descriptor))

/-- `F_DUPFD_CLOEXEC`. -/
def dupFrom (limit first : Nat) (table : Table Object) (source : Nat) :
    Option (Nat × Table Object) :=
  (table source).bind fun descriptor => allocate limit first table ⟨descriptor.object, true⟩

/-- `dup2`. -/
def dup2 (limit : Nat) (table : Table Object) (source target : Nat) : Option (Table Object) :=
  (table source).bind fun descriptor =>
    if limit ≤ target then none
    else if source = target then some table
    else some (Function.update table target (some ⟨descriptor.object, false⟩))

/-- `close`. -/
def close (table : Table Object) (number : Nat) : Table Object := Function.update table number none

/-- `F_SETFD`, after `F_GETFD`. -/
def setCloexec (table : Table Object) (number : Nat) (cloexec : Bool) : Option (Table Object) :=
  (table number).map fun descriptor =>
    Function.update table number (some { descriptor with cloexec := cloexec })

section Rules

variable {limit first number source : Nat} {table after : Table Object} {descriptor : Descriptor Object}

/-- The number found is free and in its bounds, and no lower one is. -/
theorem lowestFree_spec (found : lowestFree limit first table = some number) :
    (first ≤ number ∧ number < limit ∧ table number = none) ∧
      ∀ other, first ≤ other → other < number → table other ≠ none := by
  obtain ⟨here, inside, earlier⟩ := List.find?_range_eq_some.mp found
  rw [Bool.and_eq_true, decide_eq_true_eq, Option.isNone_iff_eq_none] at here
  refine ⟨⟨here.1, List.mem_range.mp inside, here.2⟩, fun other above lower free => ?_⟩
  have skipped := earlier other lower
  simp [above, free] at skipped

/-- A number that was given out is not free any more. -/
theorem update_eq_none_iff {other : Nat} :
    Function.update table number (some descriptor) other = none ↔
      other ≠ number ∧ table other = none := by
  by_cases same : other = number
  · simp [same]
  · simp [same]

/-- A new descriptor gets the lowest number that is free. -/
theorem allocate_spec (made : allocate limit first table descriptor = some (number, after)) :
    lowestFree limit first table = some number ∧
      after = Function.update table number (some descriptor) := by
  obtain ⟨other, found, pair⟩ := Option.map_eq_some_iff.mp made
  cases pair
  exact ⟨found, rfl⟩

/-- A duplicate gets the lowest number that is free from the first one on, and shares the object. -/
theorem dupFrom_spec (made : dupFrom limit first table source = some (number, after)) :
    ∃ descriptor, table source = some descriptor ∧ lowestFree limit first table = some number ∧
      after = Function.update table number (some ⟨descriptor.object, true⟩) := by
  obtain ⟨descriptor, opened, allocated⟩ := Option.bind_eq_some_iff.mp made
  exact ⟨descriptor, opened, allocate_spec allocated⟩

/-- A duplicate at a number takes the place of what was there, and stays open across `exec`. -/
theorem dup2_spec {target : Nat} (made : dup2 limit table source target = some after)
    (opened : table source = some descriptor) (apart : source ≠ target) :
    after = Function.update table target (some ⟨descriptor.object, false⟩) := by
  rw [dup2, opened, Option.bind_some, if_neg apart] at made
  split at made
  · cases made
  · exact (Option.some.inj made).symm

/-- Only the flag of the one descriptor changes. -/
theorem setCloexec_spec {cloexec : Bool} (made : setCloexec table number cloexec = some after)
    (opened : table number = some descriptor) :
    after = Function.update table number (some { descriptor with cloexec := cloexec }) := by
  rw [setCloexec, opened] at made
  exact (Option.some.inj made).symm

end Rules

end Descriptors
