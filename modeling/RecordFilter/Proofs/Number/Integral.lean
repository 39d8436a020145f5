import RecordFilter.Number.Basic
import RecordFilter.Proofs.Binary64.Units

/-!
# Integers against doubles that are integers

An integer and a double are compared through the decimal of the double, which is not
always the number that the double is. If the double is an integer, the answer is
nevertheless the order of the two (`compareMixed?_of_toInt?`).

There are three ranges. On grids up to one, halving takes out exactly the factors two
that the significand has. On coarser grids doubling is exact as long as there are 96
bits. Beyond them digits are dropped, or there is no decimal at all and the integer is
rounded; but then every number that is compared with the integer is far greater in
magnitude than an integer of 64 bits, so only the sign counts.
-/

namespace RecordFilter

theorem compare_signed {m n : Int} {p q : Nat} (negative : Bool) (hm : m.natAbs < p)
    (hn : n.natAbs < q) :
    compare m (if negative then -(p : Int) else p) =
      compare n (if negative then -(q : Int) else q) := by
  apply Binary64.compare_eq_compare <;> cases negative <;> simp <;> omega

theorem Binary64.exists_of_toInt? {x : Binary64} {v : Int} (h : x.toInt? = some v) :
    x.isFinite = true ∧ x.ratio.1 % x.ratio.2 = 0 ∧
      v = if x.negative then -((x.ratio.1 / x.ratio.2 : Nat) : Int)
        else (x.ratio.1 / x.ratio.2 : Nat) := by
  rw [toInt?] at h
  split at h
  · next hcond =>
    rw [Bool.and_eq_true, beq_iff_eq] at hcond
    exact ⟨hcond.1, hcond.2, (Option.some.inj h).symm⟩
  · cases h

theorem Binary64.ratio_of_scale_nonpos {x : Binary64} (h : x.scale ≤ 0) :
    x.ratio = (x.significand, 2 ^ x.scale.natAbs) := by
  rw [ratio, show x.scale.toNat = 0 by omega, show (-x.scale).toNat = x.scale.natAbs by omega]
  simp

theorem Binary64.ratio_of_scale_pos {x : Binary64} (h : ¬ x.scale ≤ 0) :
    x.ratio = (x.significand * 2 ^ x.scale.natAbs, 1) := by
  rw [ratio, show x.scale.toNat = x.scale.natAbs by omega, show (-x.scale).toNat = 0 by omega]
  simp

namespace Decimal96

/-- Halving takes out exactly the factors two that there are. -/
theorem halve_of_dvd {k m : Nat} (d : Int) (h : 2 ^ k ∣ m) :
    halve k m d = (m / 2 ^ k, d + k) := by
  induction k generalizing m d with
  | zero => simp [halve]
  | succ k ih =>
      obtain ⟨c, rfl⟩ := h
      have hhalf : 2 ^ (k + 1) * c = 2 * (2 ^ k * c) := by
        rw [Nat.pow_succ, Nat.mul_comm (2 ^ k), Nat.mul_assoc]
      rw [hhalf, halve, Nat.mul_mod_right, if_pos rfl, Nat.mul_div_cancel_left _ (by decide),
        ih _ (Nat.dvd_mul_right _ _), ← hhalf, Nat.mul_div_cancel_left _ (Nat.two_pow_pos _),
        Nat.mul_div_cancel_left _ (Nat.two_pow_pos _)]
      congr 1
      omega

/-- Doubling is exact as long as there are 96 bits. -/
theorem double?_of_lt {k m : Nat} (d : Int) (h : m * 2 ^ k < Nat.pow 2 96) :
    double? k m d = some (m * 2 ^ k, d - k) := by
  induction k generalizing m d with
  | zero => simp [double?]
  | succ k ih =>
      have hnext : m * 2 * 2 ^ k = m * 2 ^ (k + 1) := by
        rw [Nat.pow_succ, Nat.mul_assoc, Nat.mul_comm 2]
      have hle : m * 2 ≤ m * 2 * 2 ^ k := Nat.le_mul_of_pos_right _ (Nat.two_pow_pos k)
      have hfits : m < Nat.pow 2 95 := by
        have : Nat.pow 2 96 = 2 * Nat.pow 2 95 := rfl
        omega
      rw [double?, if_pos hfits, ih _ (by rw [hnext]; exact h), hnext]
      congr 2
      omega

theorem le_of_double? {k m m' : Nat} {d d' : Int} (hm : Nat.pow 2 92 ≤ m)
    (h : double? k m d = some (m', d')) : Nat.pow 2 92 ≤ m' := by
  induction k generalizing m d with
  | zero =>
      cases h
      exact hm
  | succ k ih =>
      rw [double?] at h
      split at h
      · exact ih (by omega) h
      · next hfull =>
        split at h
        · cases h
        · have : Nat.pow 2 95 = 8 * Nat.pow 2 92 := rfl
          exact ih (by omega) h

/-- Where doubling is not exact, it ends at `2 ^ 92` or above, if at all. -/
theorem le_of_double?_of_le {k m m' : Nat} {d d' : Int} (hm : Nat.pow 2 96 ≤ m * 2 ^ k)
    (h : double? k m d = some (m', d')) : Nat.pow 2 92 ≤ m' := by
  induction k generalizing m d with
  | zero =>
      cases h
      have : Nat.pow 2 96 = 16 * Nat.pow 2 92 := rfl
      omega
  | succ k ih =>
      rw [double?] at h
      split at h
      · refine ih ?_ h
        rw [Nat.mul_assoc, ← Nat.pow_succ']
        exact hm
      · next hfull =>
        split at h
        · cases h
        · have : Nat.pow 2 95 = 8 * Nat.pow 2 92 := rfl
          exact le_of_double? (by omega) h

theorem exponent_of_double? {k m m' : Nat} {d d' : Int} (h : double? k m d = some (m', d')) :
    d - k ≤ d' := by
  induction k generalizing m d with
  | zero =>
      cases h
      omega
  | succ k ih =>
      rw [double?] at h
      split at h
      · have := ih h
        omega
      · split at h
        · cases h
        · have := ih h
          omega

theorem le_of_widen? {n m m' : Nat} (h : widen? n m = some m') : m ≤ m' := by
  induction n generalizing m with
  | zero =>
      cases h
      exact Nat.le_refl _
  | succ n ih =>
      rw [widen?] at h
      split at h
      · have := ih h
        omega
      · cases h

/-- The decimal of a finite double on a grid that is no coarser than one. -/
theorem ofBinary64?_of_halve {x : Binary64} {m : Nat} (hfinite : x.isFinite = true)
    (hscale : x.scale ≤ 0) (h : halve x.scale.natAbs x.significand x.scale = (m, 0)) :
    ofBinary64? x = some ⟨x.negative, m, 0⟩ := by
  simp [ofBinary64?, hfinite, hscale, h, widen?, limitPlaces, limitPrecision]

theorem ofBinary64?_of_double {x : Binary64} (hfinite : x.isFinite = true)
    (hscale : ¬ x.scale ≤ 0) :
    ofBinary64? x = (double? x.scale.natAbs x.significand x.scale).bind fun (m, d) =>
      (widen? d.toNat m).map fun m => ⟨x.negative, m, 0⟩ := by
  cases h : double? x.scale.natAbs x.significand x.scale with
  | none => simp [ofBinary64?, hfinite, hscale, h]
  | some found =>
      obtain ⟨m, d⟩ := found
      have hexponent := exponent_of_double? h
      have hplaces : (-d).toNat = 0 := by omega
      cases hwiden : widen? d.toNat m with
      | none => simp [ofBinary64?, hfinite, hscale, h, hwiden]
      | some m' =>
          simp [ofBinary64?, hfinite, hscale, h, hwiden, hplaces, limitPlaces, limitPrecision]

/-- The decimal of a double from `2 ^ 96` on, if there is one, is not as exact, but as
great. -/
theorem of_ofBinary64?_of_le {x : Binary64} {d : Decimal96} (hfinite : x.isFinite = true)
    (hscale : ¬ x.scale ≤ 0) (hlarge : Nat.pow 2 96 ≤ x.significand * 2 ^ x.scale.natAbs)
    (h : ofBinary64? x = some d) :
    d = ⟨x.negative, d.coefficient, 0⟩ ∧ Nat.pow 2 92 ≤ d.coefficient := by
  rw [ofBinary64?_of_double hfinite hscale, Option.bind_eq_some_iff] at h
  obtain ⟨⟨m, e⟩, hdouble, h⟩ := h
  obtain ⟨m', hwiden, rfl⟩ := Option.map_eq_some_iff.1 h
  exact ⟨rfl, Nat.le_trans (le_of_double?_of_le hlarge hdouble) (le_of_widen? hwiden)⟩

theorem compareInt_integer (negative : Bool) (m : Nat) (n : Int) :
    (Decimal96.mk negative m 0).compareInt n =
      compare n (if negative then -(m : Int) else m) := by
  simp [compareInt]

end Decimal96

theorem Binary64.significand_lt (x : Binary64) : x.significand < Nat.pow 2 53 := by
  have hfraction := x.fraction_lt
  have hcount : Nat.pow 2 53 = 2 * fractionCount := rfl
  rw [significand]
  split <;> omega

theorem Binary64.size_ofInt_lt {x : Binary64} {n : Int} (hscale : ¬ x.scale ≤ 0)
    (hlarge : Nat.pow 2 96 ≤ x.significand * 2 ^ x.scale.natAbs)
    (hn : n.natAbs < Nat.pow 2 64) : (ofInt n).size < x.size := by
  apply size_lt_size
  have hpower : Nat.pow 2 43 < 2 ^ x.scale.natAbs := by
    apply Nat.lt_of_not_le
    intro hle
    have hsmall : x.significand * 2 ^ x.scale.natAbs < Nat.pow 2 53 * Nat.pow 2 43 :=
      Nat.lt_of_le_of_lt (Nat.mul_le_mul_left _ hle)
        (Nat.mul_lt_mul_of_pos_right x.significand_lt (by decide))
    exact absurd hlarge (Nat.not_le_of_lt hsmall)
  have hexponent : 43 < x.scale.natAbs := (Nat.pow_lt_pow_iff_right (by decide)).1 hpower
  calc (ofInt n).magnitude < 1090 * fractionCount := magnitude_ofInt_lt hn
    _ ≤ x.exponent.val * fractionCount :=
      Nat.mul_le_mul_right _ (by rw [scale] at hscale hexponent; omega)
    _ ≤ x.magnitude := Nat.le_add_right _ _

theorem Binary64.isFinite_ofInt {n : Int} (hn : n.natAbs < Nat.pow 2 64) :
    (ofInt n).isFinite = true := by
  have hofInt := magnitude_ofInt_lt hn
  rw [magnitude, fractionCount] at hofInt
  rw [isFinite, decide_eq_true_iff]
  omega

namespace Number

theorem natAbs_toInt_lt (n : Int64) : n.toInt.natAbs < Nat.pow 2 64 := by
  have hupper := n.toInt_lt
  have hlower := n.le_toInt
  have : Nat.pow 2 64 = 2 * 2 ^ 63 := rfl
  omega

/-- The order of an integer and a double from `2 ^ 96` on is that of the integer and the
number that the double is. -/
theorem compareMixed?_of_le {x : Binary64} (n : Int64) (hfinite : x.isFinite = true)
    (hscale : ¬ x.scale ≤ 0) (hlarge : Nat.pow 2 96 ≤ x.significand * 2 ^ x.scale.natAbs) :
    compareMixed? n x =
      some (compare n.toInt (if x.negative then -((x.significand * 2 ^ x.scale.natAbs : Nat) : Int)
        else (x.significand * 2 ^ x.scale.natAbs : Nat))) := by
  have hn := natAbs_toInt_lt n
  have hvalue : n.toInt.natAbs < x.significand * 2 ^ x.scale.natAbs :=
    Nat.lt_of_lt_of_le hn (Nat.le_trans (by decide) hlarge)
  rw [compareMixed?, Binary64.isNaN_of_isFinite hfinite, if_neg (by simp)]
  cases hdecimal : Decimal96.ofBinary64? x with
  | some d =>
      obtain ⟨hd, hcoefficient⟩ := Decimal96.of_ofBinary64?_of_le hfinite hscale hlarge hdecimal
      rw [hd]
      simp only [Decimal96.compareInt_integer]
      rw [compare_signed x.negative
        (Nat.lt_of_lt_of_le hn (Nat.le_trans (by decide) hcoefficient)) hvalue]
  | none =>
      have hsize := Binary64.size_ofInt_lt hscale hlarge hn
      have hofInt : (Binary64.ofInt n.toInt).units.natAbs < x.size := by
        rw [Binary64.units]
        split <;> omega
      have hunits : x.units = if x.negative then -(x.size : Int) else x.size := rfl
      simp only
      rw [Binary64.compare?_of_isFinite (Binary64.isFinite_ofInt hn) hfinite, hunits,
        compare_signed x.negative hofInt hvalue]

theorem compareMixed?_of_toInt? {x : Binary64} {v : Int} (n : Int64) (h : x.toInt? = some v) :
    compareMixed? n x = some (compare n.toInt v) := by
  obtain ⟨hfinite, hmod, rfl⟩ := Binary64.exists_of_toInt? h
  by_cases hscale : x.scale ≤ 0
  · -- Halving takes the factors two of the denominator out of the significand.
    rw [Binary64.ratio_of_scale_nonpos hscale] at hmod ⊢
    have hhalve := Decimal96.halve_of_dvd x.scale (Nat.dvd_of_mod_eq_zero hmod)
    rw [show x.scale + x.scale.natAbs = 0 by omega] at hhalve
    rw [compareMixed?, Binary64.isNaN_of_isFinite hfinite, if_neg (by simp),
      Decimal96.ofBinary64?_of_halve hfinite hscale hhalve]
    simp only [Decimal96.compareInt_integer]
  · rw [Binary64.ratio_of_scale_pos hscale, Nat.div_one]
    by_cases hlarge : Nat.pow 2 96 ≤ x.significand * 2 ^ x.scale.natAbs
    · exact compareMixed?_of_le n hfinite hscale hlarge
    · have hdouble := Decimal96.double?_of_lt x.scale (Nat.lt_of_not_le hlarge)
      rw [show x.scale - x.scale.natAbs = 0 by omega] at hdouble
      rw [compareMixed?, Binary64.isNaN_of_isFinite hfinite, if_neg (by simp),
        Decimal96.ofBinary64?_of_double hfinite hscale, hdouble]
      simp only [Option.bind_some, Int.toNat_zero, Decimal96.widen?, Option.map_some,
        Decimal96.compareInt_integer]

end Number

end RecordFilter
