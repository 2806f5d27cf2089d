import Mathlib.Algebra.Order.Round
import Mathlib.Data.Rat.Floor
import Mathlib.Tactic.Common
import Mathlib.Tactic.FieldSimp
import Mathlib.Tactic.Ring

/-!
# Averages and extremes

The mean of a list of numbers, rounded half up by one division of integers, and the running minimum
and maximum of a fold.
-/

namespace Averages

/-- The mean; 0 for no values. -/
def mean (xs : List Nat) : ℚ := (xs.sum : ℚ) / (xs.length : ℚ)

/-- Adding half of the divisor before the division rounds half up. -/
theorem round_mean (xs : List Nat) :
    round (mean xs) = (((xs.sum + xs.length / 2) / xs.length : ℕ) : ℤ) := by
  by_cases hempty : xs.length = 0
  · simp [mean, hempty]
  · have hpos : (0 : ℚ) < xs.length := Nat.cast_pos.2 (Nat.pos_of_ne_zero hempty)
    have hsum : mean xs + 1 / 2 = ((2 * xs.sum + xs.length : ℕ) : ℚ) / ((2 * xs.length : ℕ) : ℚ) := by
      rw [mean]
      push_cast
      field_simp
    have hdiv : (2 * xs.sum + xs.length) / (2 * xs.length) =
        (xs.sum + xs.length / 2) / xs.length := by
      rw [← Nat.div_div_eq_div_mul, Nat.mul_add_div (by decide)]
    rw [round_eq, hsum, Rat.floor_natCast_div_natCast, ← hdiv]
    exact (Int.natCast_div _ _).symm

/-- A running minimum from above all values is the least of them. -/
theorem foldl_min_eq {xs : List Nat} {top : Nat} (hne : xs ≠ []) (htop : ∀ x ∈ xs, x ≤ top) :
    xs.min? = some (xs.foldl min top) := by
  obtain ⟨least, hleast⟩ := Option.isSome_iff_exists.1 (List.isSome_min?_of_ne_nil hne)
  have hle := htop least (List.min?_mem hleast)
  rw [List.foldl_min, hleast, Option.getD_some, Nat.min_eq_right hle]

/-- A running maximum from zero is the greatest value, or zero. -/
theorem foldl_max_eq (xs : List Nat) : xs.foldl max 0 = xs.max?.getD 0 := by
  rw [List.foldl_max, Nat.zero_max]

end Averages
