import Mathlib.Algebra.Order.Round
import Mathlib.Algebra.BigOperators.Ring.Finset
import Mathlib.Tactic.Linarith
import Mathlib.Tactic.Ring

/-!
# Rounding the summands of a sum

A sum of numbers rounded one by one agrees with the sum of the numbers themselves
exactly if the fractional parts add up to the number of summands rounded up.

## Key results

- `sum_round`: what rounding the summands does to a sum
- `sum_round_eq_sum_iff`: when it does nothing
-/

namespace Rounding

variable {K : Type*} [Field K] [LinearOrder K] [IsStrictOrderedRing K] [FloorRing K]

/-- Rounding cuts off the fractional part, and adds 1 if it is at least one half. -/
theorem round_eq_sub_fract (x : K) :
    (round x : K) = x - Int.fract x + if 1 ≤ 2 * Int.fract x then 1 else 0 := by
  have hx := Int.floor_add_fract x
  unfold round
  by_cases h : 2 * Int.fract x < 1
  · rw [if_pos h, if_neg (not_le.mpr h)]
    linarith
  · -- what is rounded up is no integer
    have hne : Int.fract x ≠ 0 := fun h0 => h (by rw [h0]; linarith)
    have hceil := Int.ceil_eq_add_one_sub_fract hne
    rw [if_neg h, if_pos (not_lt.mp h), hceil]
    ring

/-- The number of summands that are rounded up. -/
def roundedUp (xs : List K) : Nat := xs.countP fun x => 1 ≤ 2 * Int.fract x

/-- What rounding the summands does to a sum. -/
theorem sum_round (xs : List K) :
    (xs.map fun x => (round x : K)).sum = xs.sum - (xs.map Int.fract).sum + roundedUp xs := by
  induction xs with
  | nil => simp [roundedUp]
  | cons x xs ih =>
    simp only [roundedUp] at ih ⊢
    rw [List.map_cons, List.sum_cons, ih, round_eq_sub_fract, List.countP_cons]
    push_cast
    simp only [List.map_cons, List.sum_cons, decide_eq_true_eq]
    ring

theorem sum_round_eq_sum_iff {xs : List K} :
    (xs.map fun x => (round x : K)).sum = xs.sum ↔ (xs.map Int.fract).sum = roundedUp xs := by
  rw [sum_round]
  constructor
  · intro h
    linarith
  · intro h
    linarith

/-- A sum that rounding the summands leaves alone is left alone by rounding it. -/
theorem round_sum_eq_sum {xs : List K} (h : (xs.map Int.fract).sum = roundedUp xs) :
    (round xs.sum : K) = xs.sum := by
  have hsum := sum_round_eq_sum_iff.mpr h
  -- a sum of rounded numbers is an integer
  have hint : ((xs.map fun x => round x).sum : K) = xs.sum := by
    rw [← hsum, Int.cast_list_sum, List.map_map]
    rfl
  rw [← hint, round_intCast]

end Rounding
