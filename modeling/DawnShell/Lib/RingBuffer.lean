/-
Module: DawnShell.Lib.RingBuffer
Layer: Lib
Purpose: Circular buffers.  A buffer has slots, the place of its first element and the number of its
  elements; a further element goes behind the last one, or over the first one when the buffer is full.
  What a full buffer keeps is the end of what it was given.
Trusted boundary: none
Main exports: Ring.contents, Ring.contents_push, Ring.contents_overwrite, Ring.contents_linear,
  Ring.rtake_concat_of_room, Ring.rtake_concat_of_full
-/
import Mathlib.Data.List.Rotate
import Mathlib.Data.List.DropRight

namespace Ring

variable {α : Type} {slots received : List α} {start length capacity index : Nat} {value : α}

/-- The elements in their order: so many slots from the first one on, around the end. -/
def contents (slots : List α) (start length : Nat) : List α := (slots.rotate start).take length

theorem length_contents (short : length ≤ slots.length) :
    (contents slots start length).length = length := by
  rw [contents, List.length_take, List.length_rotate, Nat.min_eq_left short]

/-- The contents of a ring are read from its start on, around its end. -/
theorem getElem?_contents (short : length ≤ slots.length) (within : index < length) :
    (contents slots start length)[index]? = slots[(index + start) % slots.length]? := by
  rw [contents, List.getElem?_take_of_lt within,
    List.getElem?_rotate (Nat.lt_of_lt_of_le within short)]

/-- Two elements are not in one slot. -/
theorem slot_ne {other : Nat} (before : index < other) (short : other < slots.length) :
    (start + other) % slots.length ≠ (index + start) % slots.length := by
  intro same
  have divides : slots.length ∣ (start + other) - (index + start) :=
    Nat.dvd_of_mod_eq_zero (Nat.sub_mod_eq_zero_of_mod_eq same)
  have apart := Nat.le_of_dvd (by omega) divides
  omega

/-- An element behind the last one. -/
theorem contents_push (room : length < slots.length) :
    contents (slots.set ((start + length) % slots.length) value) start (length + 1) =
      contents slots start length ++ [value] := by
  have filled : length + 1 ≤ (slots.set ((start + length) % slots.length) value).length := by
    rw [List.length_set]
    exact room
  have before : (contents slots start length).length = length := length_contents room.le
  apply List.ext_getElem?
  intro index
  rcases Nat.lt_trichotomy index length with earlier | rfl | later
  · rw [getElem?_contents filled (by omega), List.length_set,
      List.getElem?_set_ne (slot_ne earlier room), List.getElem?_append_left (by omega),
      getElem?_contents room.le earlier]
  · rw [getElem?_contents filled (by omega), List.length_set, Nat.add_comm index start,
      List.getElem?_set_self (Nat.mod_lt _ (by omega)), List.getElem?_append_right (by omega), before,
      Nat.sub_self]
    rfl
  · rw [List.getElem?_eq_none (by rw [length_contents filled]; omega),
      List.getElem?_eq_none (by rw [List.length_append, before, List.length_singleton]; omega)]

/-- A start beyond the end of the ring is the one inside it. -/
theorem contents_mod : contents slots (start % slots.length) length = contents slots start length := by
  rw [contents, contents, List.rotate_mod]

/-- Without its first element a full buffer begins one slot further on. -/
theorem tail_contents (filled : 0 < slots.length) :
    (contents slots start slots.length).tail = contents slots (start + 1) (slots.length - 1) := by
  have turned : (slots.rotate start).length = slots.length := List.length_rotate _ _
  rw [contents, contents, ← List.rotate_rotate, List.take_of_length_le turned.le, ← turned]
  cases rotated : slots.rotate start with
  | nil =>
      rw [rotated] at turned
      rw [← turned] at filled
      cases filled
  | cons first rest => simp

/-- An element over the first one of a full buffer; the next one is the first then. -/
theorem contents_overwrite (inside : start < slots.length) :
    contents (slots.set start value) ((start + 1) % slots.length) slots.length =
      (contents slots start slots.length).tail ++ [value] := by
  have filled : 0 < slots.length := by omega
  have slot : (start + 1 + (slots.length - 1)) % slots.length = start := by
    rw [show start + 1 + (slots.length - 1) = start + slots.length by omega, Nat.add_mod_right,
      Nat.mod_eq_of_lt inside]
  have pushed := @contents_push α slots (start + 1) (slots.length - 1) value (by omega)
  rw [slot, Nat.sub_add_cancel filled] at pushed
  have turned := @contents_mod α (slots.set start value) (start + 1) slots.length
  rw [List.length_set] at turned
  rw [tail_contents filled, turned, pushed]

/-- The elements in two pieces: those up to the end of the slots, and the others from their beginning. -/
theorem contents_linear (inside : start < slots.length) (short : length ≤ slots.length) :
    (slots.drop start).take (min length (slots.length - start)) ++
        slots.take (length - min length (slots.length - start)) =
      contents slots start length := by
  have behind : length - min length (slots.length - start) = length - (slots.length - start) := by omega
  have front : min (length - (slots.length - start)) start = length - (slots.length - start) := by omega
  rw [contents, List.rotate_eq_drop_append_take inside.le, List.take_append, List.length_drop,
    List.take_take, front, behind, ← List.length_drop, ← List.take_eq_take_min]

/-! ### The end of a list -/

/-- While there is room, a value that comes is added to the last ones. -/
theorem rtake_concat_of_room (room : received.length < capacity) :
    (received ++ [value]).rtake capacity = received.rtake capacity ++ [value] := by
  have whole : received.length + 1 - capacity = 0 := by omega
  have before : received.length - capacity = 0 := by omega
  rw [List.rtake, List.rtake, List.length_append, List.length_singleton, whole, before, List.drop_zero,
    List.drop_zero]

/-- Without room, a value that comes replaces the oldest of the last ones. -/
theorem rtake_concat_of_full (positive : 0 < capacity) (full : capacity ≤ received.length) :
    (received ++ [value]).rtake capacity = (received.rtake capacity).tail ++ [value] := by
  have further : received.length + 1 - capacity = received.length - capacity + 1 := by omega
  rw [List.rtake, List.rtake, List.length_append, List.length_singleton, List.tail_drop, further,
    List.drop_append_of_le_length (by omega)]

end Ring
