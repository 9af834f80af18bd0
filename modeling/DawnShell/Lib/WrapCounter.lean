/-
Module: DawnShell.Lib.WrapCounter
Layer: Lib
Purpose: A machine counter that wraps around its modulus and never rests on zero.  `next N` is the
  increment that steps past zero; its `k`-th iterate has a closed form, so that the values handed out
  are nonzero and repeat only after a full period of `N - 1`.
Trusted boundary: none
Main exports: WrapCounter.next, WrapCounter.iterate_next, WrapCounter.iterate_next_inj
-/
import Mathlib.Logic.Function.Iterate
import Mathlib.Data.Nat.ModEq
import Mathlib.Tactic.Ring

namespace WrapCounter

/-- Increment modulo `N`, incrementing once more when the result is zero. -/
def next (N n : Nat) : Nat :=
  if (n + 1) % N = 0 then (n + 2) % N else (n + 1) % N

/-- Stepping past zero is a plain cycle of length `N - 1` shifted by one. -/
theorem next_eq {N n : Nat} (two_le : 2 < N) (below : n < N) :
    next N n = n % (N - 1) + 1 := by
  by_cases top : n + 1 = N
  · have last : n = N - 1 := by omega
    have wrap : (n + 2) % N = 1 := by
      rw [show n + 2 = 1 + N by omega, Nat.add_mod_right, Nat.mod_eq_of_lt (by omega)]
    rw [next, if_pos (by rw [top, Nat.mod_self]), wrap, last, Nat.mod_self]
  · have small : (n + 1) % N = n + 1 := Nat.mod_eq_of_lt (by omega)
    rw [next, if_neg (by omega), small, Nat.mod_eq_of_lt (by omega)]

theorem next_ne_zero {N n : Nat} (two_le : 2 < N) (below : n < N) : next N n ≠ 0 := by
  rw [next_eq two_le below]
  omega

/-- Closed form of the value after `k + 1` increments. -/
theorem iterate_next {N n : Nat} (two_le : 2 < N) (below : n < N) (k : Nat) :
    (next N)^[k + 1] n = (n + k) % (N - 1) + 1 := by
  induction k with
  | zero => exact next_eq two_le below
  | succ k ih =>
      have bound : (n + k) % (N - 1) + 1 < N := by
        have := Nat.mod_lt (n + k) (show 0 < N - 1 by omega)
        omega
      rw [Function.iterate_succ_apply', ih, next_eq two_le bound, Nat.mod_add_mod, Nat.add_assoc]

/-- Two values less than a full period apart are the same value only if they are the same step. -/
theorem iterate_next_inj {N n i j : Nat} (two_le : 2 < N) (below : n < N)
    (first : 0 < i) (ordered : i ≤ j) (near : j - i < N - 1)
    (same : (next N)^[i] n = (next N)^[j] n) : i = j := by
  obtain ⟨i, rfl⟩ : ∃ m, i = m + 1 := ⟨i - 1, by omega⟩
  obtain ⟨j, rfl⟩ : ∃ m, j = m + 1 := ⟨j - 1, by omega⟩
  rw [iterate_next two_le below, iterate_next two_le below, Nat.add_right_cancel_iff] at same
  have congruent : n + i ≡ n + j [MOD N - 1] := same
  have difference : i ≡ j [MOD N - 1] := Nat.ModEq.add_left_cancel' n congruent
  have divides := (Nat.modEq_iff_dvd' (by omega : i ≤ j)).mp difference
  have zero := Nat.eq_zero_of_dvd_of_lt divides (by omega)
  omega

end WrapCounter
