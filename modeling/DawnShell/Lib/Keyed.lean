/-
Module: DawnShell.Lib.Keyed
Layer: Lib
Purpose: Lists whose elements have pairwise distinct keys.  An element at a position is the only one with
  its key, so that erasing or replacing it is told by the key alone.
Trusted boundary: none
Main exports: Keyed.Distinct, Keyed.Distinct.eraseIdx, Keyed.Distinct.mem_eraseIdx, Keyed.Distinct.set,
  Keyed.Distinct.mem_set, Keyed.Distinct.concat
-/
import Mathlib.Data.List.Nodup

namespace Keyed

variable {α κ : Type} {key : α → κ} {list : List α} {index : Nat} {element other : α}

/-- No two elements have one key. -/
def Distinct (key : α → κ) (list : List α) : Prop := (list.map key).Nodup

namespace Distinct

/-- Two positions with one key are one. -/
theorem position (distinct : Distinct key list) {position : Nat} (here : list[index]? = some element)
    (there : list[position]? = some other) (same : key other = key element) : position = index := by
  have within : position < (list.map key).length := by
    rw [List.length_map]
    exact (List.getElem?_eq_some_iff.mp there).1
  apply (List.getElem?_inj within distinct).mp
  rw [List.getElem?_map, List.getElem?_map, here, there, Option.map_some, same, Option.map_some]

theorem eraseIdx (distinct : Distinct key list) (index : Nat) :
    Distinct key (list.eraseIdx index) :=
  distinct.sublist ((List.eraseIdx_sublist list index).map key)

/-- Erasing an element leaves those with other keys. -/
theorem mem_eraseIdx (distinct : Distinct key list) (here : list[index]? = some element) :
    other ∈ list.eraseIdx index ↔ other ∈ list ∧ key other ≠ key element := by
  rw [List.mem_eraseIdx_iff_getElem?]
  constructor
  · rintro ⟨position, different, there⟩
    exact ⟨List.mem_of_getElem? there, fun same => different (distinct.position here there same)⟩
  · rintro ⟨member, different⟩
    obtain ⟨position, there⟩ := List.mem_iff_getElem?.mp member
    refine ⟨position, ?_, there⟩
    rintro rfl
    rw [here] at there
    cases there
    exact different rfl

/-- An element may be replaced by one with its key. -/
theorem set (distinct : Distinct key list) {replacement : α} (here : list[index]? = some element)
    (same : key replacement = key element) : Distinct key (list.set index replacement) := by
  obtain ⟨inside, rfl⟩ := List.getElem?_eq_some_iff.mp here
  have unchanged : (list.map key).set index (key replacement) = list.map key := by
    rw [same, ← List.map_set, List.set_getElem_self]
  rw [Distinct, List.map_set, unchanged]
  exact distinct

/-- Replacing an element leaves those with other keys. -/
theorem mem_set (distinct : Distinct key list) {replacement : α} (here : list[index]? = some element) :
    other ∈ list.set index replacement ↔
      other = replacement ∨ other ∈ list ∧ key other ≠ key element := by
  have inside : index < list.length := (List.getElem?_eq_some_iff.mp here).1
  rw [List.mem_iff_getElem?]
  constructor
  · rintro ⟨position, there⟩
    by_cases same : index = position
    · subst same
      rw [List.getElem?_set_self inside] at there
      exact .inl (Option.some.inj there).symm
    · rw [List.getElem?_set_ne same] at there
      exact .inr ⟨List.mem_of_getElem? there,
        fun equal => same (distinct.position here there equal).symm⟩
  · rintro (rfl | ⟨member, different⟩)
    · exact ⟨index, List.getElem?_set_self inside⟩
    · obtain ⟨position, there⟩ := List.mem_iff_getElem?.mp member
      refine ⟨position, ?_⟩
      rw [List.getElem?_set_ne, there]
      rintro rfl
      rw [here] at there
      cases there
      exact different rfl

/-- An element with a new key may be appended. -/
theorem concat (distinct : Distinct key list) (fresh : ∀ other ∈ list, key other ≠ key element) :
    Distinct key (list ++ [element]) := by
  rw [Distinct, List.map_append, List.nodup_append]
  refine ⟨distinct, by simp, ?_⟩
  intro first member last single same
  obtain ⟨other, found, rfl⟩ := List.mem_map.mp member
  simp only [List.map_cons, List.map_nil, List.mem_singleton] at single
  exact fresh other found (same.trans single)

end Distinct

end Keyed
