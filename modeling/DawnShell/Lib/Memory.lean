/-
Module: DawnShell.Lib.Memory
Layer: Lib
Purpose: Byte-addressed memory with block stores and block loads.  A load sees the last store over its
  range and everything older outside it; a load of consecutive ranges is the loads put together.
Trusted boundary: none
Main exports: Memory, Memory.store, Memory.load, Memory.load_store_same, Memory.load_store_of_disjoint
-/
import Mathlib.Data.List.Basic

/-- A memory gives every address a byte. -/
abbrev Memory := Nat → UInt8

namespace Memory

/-- The memory after `data` has been copied to `offset`. -/
def store (memory : Memory) (offset : Nat) (data : List UInt8) : Memory :=
  fun address => if offset ≤ address then (data[address - offset]?).getD (memory address)
    else memory address

/-- The `length` bytes from `offset` on. -/
def load (memory : Memory) (offset length : Nat) : List UInt8 :=
  (List.range length).map fun index => memory (offset + index)

variable {memory : Memory} {offset other length : Nat} {data : List UInt8}

@[simp] theorem length_load : (load memory offset length).length = length := by
  simp [load]

theorem load_store_same : load (store memory offset data) offset data.length = data := by
  refine List.ext_getElem (by simp) fun index inside bound => ?_
  simp [load, store, List.getElem?_eq_getElem bound]

/-- A load that lies before or behind a store does not see it. -/
theorem load_store_of_disjoint
    (disjoint : other + length ≤ offset ∨ offset + data.length ≤ other) :
    load (store memory offset data) other length = load memory other length := by
  refine List.map_congr_left fun index inside => ?_
  have below := List.mem_range.mp inside
  rw [store]
  split
  next reached =>
    rw [List.getElem?_eq_none (by omega)]
    rfl
  next => rfl

end Memory
