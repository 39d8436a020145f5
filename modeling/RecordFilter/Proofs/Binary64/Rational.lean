import Mathlib.Algebra.Order.Field.Rat
import Mathlib.Data.Rat.Cast.Order
import RecordFilter.Proofs.Binary64.Units

/-!
# The rational number that a double is

A finite double is its significand, counted in the power of two that is its scale, with
its sign: a rational number, `toRat`. What the double is as a number of least doubles is
this rational multiplied by `unitsInOne` (`toRat_eq_div`). So finite doubles are equal as
rationals exactly if their units are (`toRat_inj`), and a double is an integer exactly if
its rational is that integer (`toInt?_eq_some_iff_toRat`).
-/

namespace RecordFilter.Binary64

def absRat (x : Binary64) : ℚ := x.significand * 2 ^ x.scale

def toRat (x : Binary64) : ℚ := if x.negative then -x.absRat else x.absRat

theorem absRat_eq_div (x : Binary64) : x.absRat = x.size / unitsInOne := by
  have hscale : x.scale = ((x.exponent.val - 1 : ℕ) : ℤ) - (leastPlaces : ℕ) := by
    rw [scale, leastPlaces]
    omega
  rw [absRat, size, unitsInOne, hscale, zpow_sub₀ two_ne_zero, zpow_natCast, zpow_natCast,
    mul_div_assoc']
  push_cast
  rfl

theorem toRat_eq_div (x : Binary64) : x.toRat = x.units / unitsInOne := by
  rw [toRat, units, absRat_eq_div]
  split
  · rw [Int.cast_neg, neg_div, Int.cast_natCast]
  · rw [Int.cast_natCast]

theorem unitsInOne_ne_zero : (unitsInOne : ℚ) ≠ 0 :=
  Nat.cast_ne_zero.2 (Nat.ne_of_gt unitsInOne_pos)

theorem toRat_inj (x y : Binary64) : x.toRat = y.toRat ↔ x.units = y.units := by
  rw [toRat_eq_div, toRat_eq_div, div_left_inj' unitsInOne_ne_zero, Int.cast_inj]

theorem toRat_eq_intCast_iff (x : Binary64) (n : ℤ) :
    x.toRat = n ↔ x.units = n * unitsInOne := by
  rw [toRat_eq_div, div_eq_iff unitsInOne_ne_zero]
  norm_cast

theorem toInt?_eq_some_iff_toRat (x : Binary64) (n : ℤ) :
    x.toInt? = some n ↔ x.isFinite = true ∧ x.toRat = n := by
  rw [toInt?_eq_some_iff, toRat_eq_intCast_iff]

end RecordFilter.Binary64
