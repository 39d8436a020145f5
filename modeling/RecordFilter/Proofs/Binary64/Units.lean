import Mathlib.Algebra.Group.Nat.Defs
import RecordFilter.Binary64.Round

/-!
# Counting in least doubles

Every finite double is a whole number of least doubles, `2 ^ (-1074)`. This number
(`units`) is the value of the double without a fraction, so doubles are compared by
comparing whole numbers. The signed magnitudes, which `compare?` goes by, are in the
same order (`key_lt_key_iff`), although a magnitude is an exponent and a fraction put
side by side. A double is an integer `n` if it is `n` times as many least doubles as
there are in one (`toInt?_eq_some_iff`).

The last part bounds the double that an integer of 64 bits is rounded to: it stays far
below every double from `2 ^ 95` on (`magnitude_ofInt_lt`).
-/

namespace RecordFilter.Binary64

def size (x : Binary64) : Nat := x.significand * 2 ^ (x.exponent.val - 1)

/-- The double as a number of least doubles. -/
def units (x : Binary64) : Int := if x.negative then -(x.size : Int) else x.size

/-- The least double is `2 ^ (-leastPlaces)`. -/
def leastPlaces : Nat := 1074

def unitsInOne : Nat := 2 ^ leastPlaces

theorem unitsInOne_pos : 0 < unitsInOne := Nat.two_pow_pos leastPlaces

theorem fraction_lt (x : Binary64) : x.fraction.val < fractionCount := x.fraction.isLt

theorem size_lt (x : Binary64) : x.size < fractionCount * 2 ^ x.exponent.val := by
  have hfraction := x.fraction_lt
  rw [size, significand]
  split
  · next hzero =>
    rw [hzero, Nat.zero_sub, Nat.pow_zero, Nat.mul_one, Nat.mul_one]
    exact hfraction
  · next hnormal =>
    obtain ⟨e, he⟩ : ∃ e, x.exponent.val = e + 1 := ⟨x.exponent.val - 1, by omega⟩
    rw [he, Nat.add_sub_cancel, Nat.pow_succ, Nat.mul_comm (2 ^ e), ← Nat.mul_assoc]
    exact Nat.mul_lt_mul_of_pos_right (by omega) (Nat.two_pow_pos e)

theorem le_size {x : Binary64} (h : x.exponent.val ≠ 0) :
    fractionCount * 2 ^ (x.exponent.val - 1) ≤ x.size := by
  rw [size, significand, if_neg h]
  exact Nat.mul_le_mul_right _ (Nat.le_add_right _ _)

theorem size_lt_size {x y : Binary64} (h : x.magnitude < y.magnitude) : x.size < y.size := by
  have hx := x.fraction_lt
  have hy := y.fraction_lt
  rw [magnitude, magnitude] at h
  rcases Nat.lt_trichotomy x.exponent.val y.exponent.val with hlt | heq | hgt
  · -- The next exponent starts where the numbers of this one end.
    calc x.size < fractionCount * 2 ^ x.exponent.val := x.size_lt
      _ ≤ fractionCount * 2 ^ (y.exponent.val - 1) :=
        Nat.mul_le_mul_left _ (Nat.pow_le_pow_right (by decide) (by omega))
      _ ≤ y.size := le_size (by omega)
  · rw [heq] at h
    have hfraction : x.fraction.val < y.fraction.val := Nat.lt_of_add_lt_add_left h
    rw [size, size, significand, significand, heq]
    refine Nat.mul_lt_mul_of_pos_right ?_ (Nat.two_pow_pos _)
    split
    · exact hfraction
    · exact Nat.add_lt_add_left hfraction _
  · have hle : (y.exponent.val + 1) * fractionCount ≤ x.exponent.val * fractionCount :=
      Nat.mul_le_mul_right _ hgt
    rw [Nat.succ_mul] at hle
    omega

theorem fields_eq_of_magnitude_eq {x y : Binary64} (h : x.magnitude = y.magnitude) :
    x.exponent = y.exponent ∧ x.fraction = y.fraction := by
  have hx := x.fraction_lt
  have hy := y.fraction_lt
  rw [magnitude, magnitude] at h
  rw [fractionCount] at h hx hy
  constructor <;> apply Fin.ext <;> omega

theorem size_eq_of_magnitude_eq {x y : Binary64} (h : x.magnitude = y.magnitude) :
    x.size = y.size := by
  obtain ⟨hexponent, hfraction⟩ := fields_eq_of_magnitude_eq h
  rw [size, size, significand, significand, hexponent, hfraction]

theorem size_lt_size_iff (x y : Binary64) : x.size < y.size ↔ x.magnitude < y.magnitude := by
  constructor
  · intro h
    rcases Nat.lt_trichotomy x.magnitude y.magnitude with hlt | heq | hgt
    · exact hlt
    · rw [size_eq_of_magnitude_eq heq] at h
      exact absurd h (Nat.lt_irrefl _)
    · exact absurd h (Nat.lt_asymm (size_lt_size hgt))
  · exact size_lt_size

theorem size_eq_size_iff (x y : Binary64) : x.size = y.size ↔ x.magnitude = y.magnitude := by
  have hlt := size_lt_size_iff x y
  have hgt := size_lt_size_iff y x
  omega

theorem size_eq_zero_iff (x : Binary64) : x.size = 0 ↔ x.magnitude = 0 :=
  size_eq_size_iff x (zero false)

/-- Signed magnitudes are ordered as the numbers that they stand for. -/
theorem key_lt_key_iff (x y : Binary64) : x.key < y.key ↔ x.units < y.units := by
  have hlt := size_lt_size_iff x y
  have hgt := size_lt_size_iff y x
  have hx := size_eq_zero_iff x
  have hy := size_eq_zero_iff y
  rw [key, key, units, units]
  split <;> split <;> omega

theorem key_eq_key_iff (x y : Binary64) : x.key = y.key ↔ x.units = y.units := by
  have hlt := key_lt_key_iff x y
  have hgt := key_lt_key_iff y x
  omega

/-- The quotient that a double is has as many least doubles in it as the double. -/
theorem ratio_mul_unitsInOne (x : Binary64) : x.ratio.1 * unitsInOne = x.size * x.ratio.2 := by
  have hscale : x.scale.toNat + leastPlaces = x.exponent.val - 1 + (-x.scale).toNat := by
    rw [scale, leastPlaces]
    omega
  rw [ratio, size, unitsInOne]
  simp only [Nat.pow_eq]
  rw [Nat.mul_assoc, Nat.mul_assoc, ← Nat.pow_add, ← Nat.pow_add, hscale]

theorem ratio_eq_mul_iff (x : Binary64) (q : Nat) :
    x.ratio.1 = q * x.ratio.2 ↔ x.size = q * unitsInOne := by
  have hratio := x.ratio_mul_unitsInOne
  have hden : 0 < x.ratio.2 := Nat.two_pow_pos _
  constructor
  · intro h
    apply Nat.eq_of_mul_eq_mul_right hden
    rw [← hratio, h, Nat.mul_right_comm]
  · intro h
    apply Nat.eq_of_mul_eq_mul_right unitsInOne_pos
    rw [hratio, h, Nat.mul_right_comm]

theorem size_eq_natAbs_mul {x : Binary64} {n : Int} (h : x.units = n * unitsInOne) :
    x.size = n.natAbs * unitsInOne := by
  have hsize : x.size = x.units.natAbs := by
    rw [units]
    split <;> omega
  rw [hsize, h, Int.natAbs_mul, Int.natAbs_natCast]

/-- A double is an integer if it is that many times one. -/
theorem toInt?_eq_some_iff (x : Binary64) (n : Int) :
    x.toInt? = some n ↔ x.isFinite = true ∧ x.units = n * unitsInOne := by
  have hunits : (0 : Int) < unitsInOne := Int.natCast_pos.2 unitsInOne_pos
  cases hfinite : x.isFinite with
  | false =>
      rw [toInt?, hfinite, Bool.false_and, if_neg Bool.false_ne_true]
      exact iff_of_false (fun h => nomatch h) fun h => nomatch h.1
  | true =>
      rw [toInt?, hfinite, Bool.true_and, and_iff_right rfl]
      by_cases hmod : x.ratio.1 % x.ratio.2 = 0
      · have hsize : x.size = x.ratio.1 / x.ratio.2 * unitsInOne :=
          (x.ratio_eq_mul_iff _).1 (Nat.div_mul_cancel (Nat.dvd_of_mod_eq_zero hmod)).symm
        rw [if_pos (beq_iff_eq.2 hmod), Option.some_inj, units, hsize,
          ← Int.mul_eq_mul_right_iff (Int.ne_of_gt hunits)]
        split
        · rw [Int.neg_mul, Int.natCast_mul]
        · rw [Int.natCast_mul]
      · rw [if_neg fun h => hmod (beq_iff_eq.1 h)]
        refine iff_of_false (fun h => nomatch h) ?_
        intro h
        apply hmod
        rw [(x.ratio_eq_mul_iff _).2 (size_eq_natAbs_mul h), Nat.mul_mod_left]

theorem compare_eq_compare {a b c d : Int} (hlt : a < b ↔ c < d) (heq : a = b ↔ c = d) :
    compare a b = compare c d := by
  change compareOfLessAndEq a b = compareOfLessAndEq c d
  simp only [compareOfLessAndEq, hlt, heq]

theorem isNaN_of_isFinite {x : Binary64} (h : x.isFinite = true) : x.isNaN = false := by
  rw [isFinite, decide_eq_true_iff] at h
  rw [isNaN, Bool.and_eq_false_iff, beq_eq_false_iff_ne]
  exact .inl (Nat.ne_of_lt h)

theorem compare?_of_isFinite {x y : Binary64} (hx : x.isFinite = true) (hy : y.isFinite = true) :
    x.compare? y = some (compare x.units y.units) := by
  rw [compare?, isNaN_of_isFinite hx, isNaN_of_isFinite hy, Bool.or_false, if_neg (by simp),
    compare_eq_compare (key_lt_key_iff x y) (key_eq_key_iff x y)]

theorem roundHalfEven_le (n d : Nat) : roundHalfEven n d ≤ n / d + 1 := by
  rw [roundHalfEven]
  split <;> omega

/-- The grid that a positive integer is rounded on leaves it at most 54 binary digits. -/
theorem gridExponent_bounds {num : Nat} (h : num ≠ 0) (hnum : num < Nat.pow 2 64) :
    gridExponent num 1 ≤ 11 ∧ (num.log2 : Int) - 53 ≤ gridExponent num 1 := by
  have hlog : num.log2 < 64 := (Nat.log2_lt h).2 hnum
  have hone : Nat.log2 1 = 0 := by decide
  rw [gridExponent, hone]
  split <;> omega

theorem scaled_lt {num : Nat} (h : num ≠ 0) (hnum : num < Nat.pow 2 64) :
    num * Nat.pow 2 (-gridExponent num 1).toNat <
      1 * Nat.pow 2 (gridExponent num 1).toNat * Nat.pow 2 54 := by
  obtain ⟨hupper, hlower⟩ := gridExponent_bounds h hnum
  generalize gridExponent num 1 = e at hupper hlower
  have hlt : num < 2 ^ (num.log2 + 1) := Nat.lt_log2_self
  simp only [Nat.pow_eq, Nat.one_mul]
  calc num * 2 ^ (-e).toNat < 2 ^ (num.log2 + 1) * 2 ^ (-e).toNat :=
        Nat.mul_lt_mul_of_pos_right hlt (Nat.two_pow_pos _)
    _ = 2 ^ (num.log2 + 1 + (-e).toNat) := (Nat.pow_add ..).symm
    _ ≤ 2 ^ (e.toNat + 54) := Nat.pow_le_pow_right (by decide) (by omega)
    _ = 2 ^ e.toNat * 2 ^ 54 := Nat.pow_add ..

theorem magnitude_ofInt_lt {n : Int} (h : n.natAbs < Nat.pow 2 64) :
    (ofInt n).magnitude < 1090 * fractionCount := by
  rw [ofInt, round]
  split
  · rw [zero, magnitude_ofMagnitude _ (by decide)]
    decide
  · next hne =>
    have hgrid := (gridExponent_bounds hne h).1
    have hquotient := Nat.div_lt_of_lt_mul (scaled_lt hne h)
    have hround := roundHalfEven_le
      (n.natAbs * Nat.pow 2 (-gridExponent n.natAbs 1).toNat)
      (1 * Nat.pow 2 (gridExponent n.natAbs 1).toNat)
    have hcarry : ((gridExponent n.natAbs 1 + 1074).toNat * fractionCount) ≤
        1085 * fractionCount := Nat.mul_le_mul_right _ (by omega)
    have hlt : (gridExponent n.natAbs 1 + 1074).toNat * fractionCount +
        roundHalfEven (n.natAbs * Nat.pow 2 (-gridExponent n.natAbs 1).toNat)
          (1 * Nat.pow 2 (gridExponent n.natAbs 1).toNat) < 1090 * fractionCount := by
      rw [fractionCount] at hcarry ⊢
      have : Nat.pow 2 54 = 18014398509481984 := rfl
      omega
    rw [magnitude_ofMagnitude _ (Nat.lt_trans hlt (by decide))]
    exact hlt

end RecordFilter.Binary64
