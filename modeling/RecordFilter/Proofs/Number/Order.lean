import Mathlib.Tactic.FieldSimp
import Mathlib.Tactic.Linarith
import Mathlib.Tactic.Positivity
import Mathlib.Tactic.Ring
import RecordFilter.Proofs.Binary64.Rational
import RecordFilter.Proofs.Number.Integral
import RecordFilter.Value.Compare

/-!
# Integers against all finite doubles

An integer is compared with the decimal that stands for a double, and on the way to this
decimal bits are cut off and digits rounded away, again and again. Each of these steps
goes from a number to a neighbour on a grid of `N`-ths, and every integer is on such a
grid; so no step moves a number past an integer (`CrossesNoInteger`), and this relation
composes. It is the invariant of the three loops (`crossesNoInteger_halve`,
`crossesNoInteger_limitPlaces`, `crossesNoInteger_limitPrecision`).

So the answer may be that the two are equal where they are not, if no integer lies
between them, but it is never the wrong way round (`Value.relate_integer_float`). Doubles
on coarser grids than one are integers, and for integers the answer is exact
(`compareMixed?_of_toInt?`).
-/

namespace RecordFilter

/-- On the way from one number to another no integer is passed. -/
structure CrossesNoInteger (v w : ℚ) : Prop where
  le_of_le : ∀ n : ℤ, n ≤ v → n ≤ w
  ge_of_ge : ∀ n : ℤ, v ≤ n → w ≤ n

namespace CrossesNoInteger

variable {u v w : ℚ}

theorem refl (v : ℚ) : CrossesNoInteger v v where
  le_of_le _ h := h
  ge_of_ge _ h := h

theorem trans (huv : CrossesNoInteger u v) (hvw : CrossesNoInteger v w) :
    CrossesNoInteger u w where
  le_of_le n h := hvw.le_of_le n (huv.le_of_le n h)
  ge_of_ge n h := hvw.ge_of_ge n (huv.ge_of_ge n h)

theorem neg (h : CrossesNoInteger v w) : CrossesNoInteger (-v) (-w) where
  le_of_le n hn := by
    have := h.ge_of_ge (-n) (by push_cast; linarith)
    push_cast at this
    linarith
  ge_of_ge n hn := by
    have := h.le_of_le (-n) (by push_cast; linarith)
    push_cast at this
    linarith

/-- Integers are on the grid of `N`-ths, so none is passed on the way to a neighbour on
that grid. -/
theorem of_abs_sub_lt {N : ℕ} {q : ℤ} (hN : 0 < N) (h : |v * N - q| < 1) :
    CrossesNoInteger v (q / N) := by
  have hN' : (0 : ℚ) < N := Nat.cast_pos.2 hN
  obtain ⟨hlower, hupper⟩ := abs_lt.1 h
  constructor
  · intro n hn
    have hgrid : (n * N : ℚ) ≤ v * N := mul_le_mul_of_nonneg_right hn hN'.le
    have hlt : ((n * N : ℤ) : ℚ) < (q + 1 : ℤ) := by
      push_cast
      linarith
    have hle : n * N ≤ q := Int.lt_add_one_iff.1 (Int.cast_lt.1 hlt)
    rw [le_div_iff₀ hN']
    exact_mod_cast hle
  · intro n hn
    have hgrid : v * N ≤ (n * N : ℚ) := mul_le_mul_of_nonneg_right hn hN'.le
    have hlt : (q : ℚ) < ((n * N + 1 : ℤ) : ℚ) := by
      push_cast
      linarith
    have hle : q ≤ n * N := Int.lt_add_one_iff.1 (Int.cast_lt.1 hlt)
    rw [div_le_iff₀ hN']
    exact_mod_cast hle

/-- A number is passed on to what is equal to it if it is an integer, and otherwise to
what is between the same two integers. -/
theorem abs_sub_lt_of_eq {n : ℤ} (h : CrossesNoInteger v n) : |(n : ℚ) - v| < 1 := by
  rw [abs_sub_lt_iff]
  constructor
  · by_contra hle
    have := h.ge_of_ge (n - 1) (by push_cast; linarith)
    push_cast at this
    linarith
  · by_contra hle
    have := h.le_of_le (n + 1) (by push_cast; linarith)
    push_cast at this
    linarith

end CrossesNoInteger

/-- Pairs that lie alike compare alike, be they of different kinds of numbers. -/
theorem compare_congr {α β : Type} [LinearOrder α] [LinearOrder β] {a b : α} {c d : β}
    (hlt : a < b ↔ c < d) (heq : a = b ↔ c = d) : compare a b = compare c d := by
  rcases lt_trichotomy a b with h | h | h
  · rw [compare_lt_iff_lt.2 h, compare_lt_iff_lt.2 (hlt.1 h)]
  · rw [compare_eq_iff_eq.2 h, compare_eq_iff_eq.2 (heq.1 h)]
  · have hdc : d < c := by
      rcases lt_trichotomy c d with hcd | hcd | hcd
      · exact absurd (hlt.2 hcd) h.not_gt
      · exact absurd (heq.2 hcd) h.ne'
      · exact hcd
    rw [compare_gt_iff_gt.2 h, compare_gt_iff_gt.2 hdc]

namespace Decimal96

def toRat (d : Decimal96) : ℚ :=
  if d.negative then -(d.coefficient / 10 ^ d.places) else d.coefficient / 10 ^ d.places

theorem compareInt_eq (d : Decimal96) (n : ℤ) : d.compareInt n = compare (n : ℚ) d.toRat := by
  have hpos : (0 : ℚ) < 10 ^ d.places := by positivity
  have hscale : ∀ c : ℤ, compare (n * (Nat.pow 10 d.places : ℕ)) c =
      compare (n : ℚ) (c / 10 ^ d.places) := by
    intro c
    apply compare_congr
    · rw [lt_div_iff₀ hpos]
      norm_cast
    · rw [eq_div_iff hpos.ne']
      norm_cast
  rw [compareInt, hscale, toRat]
  split
  · push_cast
    rw [neg_div]
  · push_cast
    rfl

/-- With as many decimal places as there are fives left, the unit is one of a whole number
of parts. -/
theorem exists_unit_eq {k : ℕ} {d : ℤ} (h : d + k ≤ 0) :
    ∃ N : ℕ, 0 < N ∧ (5 ^ k * 10 ^ d : ℚ) = 1 / N := by
  obtain ⟨j, hj⟩ : ∃ j : ℕ, d = -((k + j : ℕ) : ℤ) := ⟨(-d - k).toNat, by omega⟩
  refine ⟨2 ^ k * 10 ^ j, by positivity, ?_⟩
  have hten : (10 : ℚ) ^ k = 2 ^ k * 5 ^ k := by
    rw [← mul_pow]
    norm_num
  rw [hj, zpow_neg, zpow_natCast, pow_add, hten, eq_div_iff (by positivity)]
  push_cast
  field_simp

theorem crossesNoInteger_cutBit {k : ℕ} {d : ℤ} (m : ℕ) (h : d + (k + 1 : ℕ) ≤ 0) :
    CrossesNoInteger (m * 5 ^ (k + 1) * 10 ^ d) ((m / 2 : ℕ) * 5 ^ k * 10 ^ (d + 1)) := by
  obtain ⟨N, hN, hunit⟩ := exists_unit_eq (k := k) (d := d + 1) (by push_cast at h; omega)
  have hN' : (N : ℚ) ≠ 0 := Nat.cast_ne_zero.2 hN.ne'
  have hsource : (m * 5 ^ (k + 1) * 10 ^ d : ℚ) = m / 2 * (1 / N) := by
    rw [← hunit, zpow_add_one₀ (by norm_num)]
    ring
  have htarget : ((m / 2 : ℕ) * 5 ^ k * 10 ^ (d + 1) : ℚ) = ((m / 2 : ℕ) : ℤ) / N := by
    rw [mul_assoc, hunit, mul_one_div, Int.cast_natCast]
  have hcut : (m : ℚ) = 2 * (m / 2 : ℕ) + (m % 2 : ℕ) := by
    exact_mod_cast (Nat.div_add_mod m 2).symm
  have hbit : ((m % 2 : ℕ) : ℚ) < 2 := by
    exact_mod_cast Nat.mod_lt m two_pos
  rw [hsource, htarget]
  apply CrossesNoInteger.of_abs_sub_lt hN
  rw [mul_assoc, one_div_mul_cancel hN', mul_one, Int.cast_natCast, hcut, abs_of_nonneg]
  · linarith
  · have : (0 : ℚ) ≤ (m % 2 : ℕ) := Nat.cast_nonneg _
    linarith

/-- Taking factors one half out of a coefficient cuts off bits where there is no room. -/
theorem crossesNoInteger_halve {k m : ℕ} {d : ℤ} (h : d + k ≤ 0) :
    (halve k m d).2 ≤ 0 ∧
      CrossesNoInteger (m * 5 ^ k * 10 ^ d) ((halve k m d).1 * 10 ^ (halve k m d).2) := by
  induction k generalizing m d with
  | zero =>
      rw [halve, pow_zero, mul_one]
      exact ⟨by simpa using h, .refl _⟩
  | succ k ih =>
      have hcut : (halve k (m / 2) (d + 1)).2 ≤ 0 ∧
          CrossesNoInteger (m * 5 ^ (k + 1) * 10 ^ d)
            ((halve k (m / 2) (d + 1)).1 * 10 ^ (halve k (m / 2) (d + 1)).2) := by
        obtain ⟨hexponent, hrest⟩ := ih (m := m / 2) (d := d + 1) (by push_cast at h; omega)
        exact ⟨hexponent, (crossesNoInteger_cutBit m h).trans hrest⟩
      rw [halve]
      split
      · exact hcut
      · split
        · have hvalue : (m * 5 ^ (k + 1) * 10 ^ d : ℚ) = (m * 5 : ℕ) * 5 ^ k * 10 ^ d := by
            push_cast
            ring
          rw [hvalue]
          exact ih (by push_cast at h; omega)
        · exact hcut

/-- The last digit of a coefficient is rounded away, or replaced by any other whole number
that is as near. -/
theorem crossesNoInteger_dropDigit {places m q : ℕ} (h : |(m : ℚ) / 10 - q| < 1) :
    CrossesNoInteger (m / 10 ^ (places + 1)) (q / 10 ^ places) := by
  have hten : (10 : ℚ) ^ places ≠ 0 := by positivity
  have hgrid : (m / 10 ^ (places + 1) * (10 ^ places : ℕ) : ℚ) = m / 10 := by
    push_cast
    rw [pow_succ]
    field_simp
  have hstep := CrossesNoInteger.of_abs_sub_lt (v := m / 10 ^ (places + 1)) (N := 10 ^ places)
    (q := q) (by positivity) (by rw [hgrid, Int.cast_natCast]; exact h)
  push_cast at hstep
  exact hstep

theorem abs_sub_dropDigit_lt (m : ℕ) : |(m : ℚ) / 10 - dropDigit m| < 1 := by
  have hnat : m < 10 * dropDigit m + 10 ∧ 10 * dropDigit m < m + 10 := by
    rw [dropDigit]
    split <;> omega
  have hlower : (m : ℚ) < 10 * dropDigit m + 10 := by exact_mod_cast hnat.1
  have hupper : (10 * dropDigit m : ℚ) < m + 10 := by exact_mod_cast hnat.2
  rw [abs_lt]
  constructor <;> linarith

theorem crossesNoInteger_limitPlaces (places m : ℕ) :
    CrossesNoInteger (m / 10 ^ places)
      ((limitPlaces places m).1 / 10 ^ (limitPlaces places m).2) := by
  induction places generalizing m with
  | zero => exact .refl _
  | succ places ih =>
      rw [limitPlaces]
      split
      · exact .refl _
      · split
        · next hsmall =>
          -- A single digit leaves nothing, however great it is.
          have hdigit : (m : ℚ) < 10 := by
            have : m < 10 := by omega
            exact_mod_cast this
          have hnear : |(m : ℚ) / 10 - (0 : ℕ)| < 1 := by
            rw [Nat.cast_zero, sub_zero, abs_of_nonneg (by positivity)]
            linarith
          have hstep : CrossesNoInteger (m / 10 ^ (places + 1)) ((0 : ℕ) / 10 ^ places) :=
            crossesNoInteger_dropDigit hnear
          rw [Nat.cast_zero, zero_div] at hstep ⊢
          exact hstep
        · exact (crossesNoInteger_dropDigit (abs_sub_dropDigit_lt m)).trans (ih _)

theorem crossesNoInteger_limitPrecision (places m : ℕ) :
    CrossesNoInteger (m / 10 ^ places)
      ((limitPrecision places m).1 / 10 ^ (limitPrecision places m).2) := by
  induction places generalizing m with
  | zero => exact .refl _
  | succ places ih =>
      rw [limitPrecision]
      split
      · exact .refl _
      · exact (crossesNoInteger_dropDigit (abs_sub_dropDigit_lt m)).trans (ih _)

theorem mul_zpow_eq_div (m : ℕ) {e : ℤ} (h : e ≤ 0) :
    (m * 10 ^ e : ℚ) = m / 10 ^ (-e).toNat := by
  obtain ⟨k, hk⟩ : ∃ k : ℕ, e = -(k : ℤ) := ⟨(-e).toNat, by omega⟩
  rw [hk, neg_neg, Int.toNat_natCast, zpow_neg, zpow_natCast, div_eq_mul_inv]

theorem absRat_eq_fives {x : Binary64} (h : x.scale ≤ 0) :
    x.absRat = x.significand * 5 ^ x.scale.natAbs * 10 ^ x.scale := by
  obtain ⟨k, hk⟩ : ∃ k : ℕ, x.scale = -(k : ℤ) := ⟨(-x.scale).toNat, by omega⟩
  have hten : (10 : ℚ) ^ k = 2 ^ k * 5 ^ k := by
    rw [← mul_pow]
    norm_num
  rw [Binary64.absRat, hk, Int.natAbs_neg, Int.natAbs_natCast, zpow_neg, zpow_neg,
    zpow_natCast, zpow_natCast, hten]
  field_simp

theorem ofBinary64?_of_scale_nonpos {x : Binary64} {m : ℕ} {e : ℤ}
    (hfinite : x.isFinite = true) (hscale : x.scale ≤ 0) (he : e ≤ 0)
    (h : halve x.scale.natAbs x.significand x.scale = (m, e)) :
    ofBinary64? x = some
      ⟨x.negative,
        (limitPrecision (limitPlaces (-e).toNat m).2 (limitPlaces (-e).toNat m).1).1,
        (limitPrecision (limitPlaces (-e).toNat m).2 (limitPlaces (-e).toNat m).1).2⟩ := by
  have hnone : e.toNat = 0 := by omega
  simp [ofBinary64?, hfinite, hscale, h, hnone, widen?]

/-- A finite double on a grid that is no coarser than one has a decimal, and no integer
lies between the two. -/
theorem exists_ofBinary64? {x : Binary64} (hfinite : x.isFinite = true) (hscale : x.scale ≤ 0) :
    ∃ d, ofBinary64? x = some d ∧ CrossesNoInteger x.toRat d.toRat := by
  obtain ⟨hexponent, hhalve⟩ := crossesNoInteger_halve (k := x.scale.natAbs)
    (m := x.significand) (d := x.scale) (by omega)
  generalize hfound : halve x.scale.natAbs x.significand x.scale = found at hexponent hhalve
  obtain ⟨m, e⟩ := found
  rw [← absRat_eq_fives hscale, mul_zpow_eq_div m hexponent] at hhalve
  have hplaces := crossesNoInteger_limitPlaces (-e).toNat m
  have hprecision := crossesNoInteger_limitPrecision (limitPlaces (-e).toNat m).2
    (limitPlaces (-e).toNat m).1
  have habs := (hhalve.trans hplaces).trans hprecision
  refine ⟨_, ofBinary64?_of_scale_nonpos hfinite hscale hexponent hfound, ?_⟩
  rw [Binary64.toRat, toRat]
  split
  · exact habs.neg
  · exact habs

end Decimal96

namespace Number

theorem compare_intCast (a b : ℤ) : compare (a : ℚ) b = compare a b :=
  compare_congr Int.cast_lt Int.cast_inj

theorem exists_compareMixed? {x : Binary64} (hfinite : x.isFinite = true) :
    ∃ w : ℚ, CrossesNoInteger x.toRat w ∧
      ∀ n, compareMixed? n x = some (compare (n.toInt : ℚ) w) := by
  by_cases hscale : x.scale ≤ 0
  · obtain ⟨d, hd, hcrosses⟩ := Decimal96.exists_ofBinary64? hfinite hscale
    refine ⟨d.toRat, hcrosses, fun n => ?_⟩
    rw [compareMixed?, Binary64.isNaN_of_isFinite hfinite, if_neg Bool.false_ne_true, hd]
    simp only [Decimal96.compareInt_eq]
  · -- Counting in twos or more, a double is an integer.
    have hinteger : x.toInt?.isSome = true := by
      rw [Binary64.toInt?, hfinite, Binary64.ratio_of_scale_pos hscale, Nat.mod_one]
      rfl
    obtain ⟨v, hv⟩ := Option.isSome_iff_exists.1 hinteger
    refine ⟨x.toRat, .refl _, fun n => ?_⟩
    rw [compareMixed?_of_toInt? n hv, ((x.toInt?_eq_some_iff_toRat v).1 hv).2, compare_intCast]

end Number

namespace Value

/-- An integer and a finite double are related as the numbers that they are, if the double
has no fractional part. If it has one, they are still related, and not the wrong way
round; and they are less than one apart if they are related as equal. -/
theorem relate_integer_float (n : Int64) (x : Binary64) (hfinite : x.isFinite = true) :
    ((∃ v : ℤ, x.toRat = v) →
        relate (.integer n) (.float x) = some (compare (n.toInt : ℚ) x.toRat)) ∧
      ((n.toInt : ℚ) < x.toRat →
        relate (.integer n) (.float x) = some .lt ∨ relate (.integer n) (.float x) = some .eq) ∧
      (x.toRat < n.toInt →
        relate (.integer n) (.float x) = some .gt ∨ relate (.integer n) (.float x) = some .eq) ∧
      relate (.integer n) (.float x) ≠ none ∧
      (relate (.integer n) (.float x) = some .eq → |(n.toInt : ℚ) - x.toRat| < 1) := by
  obtain ⟨w, hcrosses, hcompare⟩ := Number.exists_compareMixed? hfinite
  have hrelate : relate (.integer n) (.float x) = some (compare (n.toInt : ℚ) w) := by
    rw [← hcompare n]
    change (coerce? (.float x)).bind (Number.compare? (.integer n)) = _
    rw [coerce?, Binary64.isNaN_of_isFinite hfinite, if_neg Bool.false_ne_true, Option.bind_some]
    rfl
  rw [hrelate]
  refine ⟨?_, ?_, ?_, Option.some_ne_none _, ?_⟩
  · rintro ⟨v, hv⟩
    have hw : w = v := le_antisymm (hcrosses.ge_of_ge v hv.le) (hcrosses.le_of_le v hv.ge)
    rw [hv, hw]
  · intro hlt
    rcases (hcrosses.le_of_le n.toInt hlt.le).lt_or_eq with h | h
    · exact .inl (congrArg some (compare_lt_iff_lt.2 h))
    · exact .inr (congrArg some (compare_eq_iff_eq.2 h))
  · intro hgt
    rcases (hcrosses.ge_of_ge n.toInt hgt.le).lt_or_eq with h | h
    · exact .inl (congrArg some (compare_gt_iff_gt.2 h))
    · exact .inr (congrArg some (compare_eq_iff_eq.2 h.symm))
  · intro heq
    rw [Option.some_inj, compare_eq_iff_eq] at heq
    rw [← heq] at hcrosses
    exact hcrosses.abs_sub_lt_of_eq

/-- Half below `2 ^ 52` is rounded away, so the double there equals `2 ^ 52`. -/
theorem relate_integer_float_half :
    (⟨false, 1074, 4503599627370495⟩ : Binary64).isFinite = true ∧
      relate (.integer 4503599627370496) (.float ⟨false, 1074, 4503599627370495⟩) = some .eq ∧
      |((4503599627370496 : Int64).toInt : ℚ) -
        (⟨false, 1074, 4503599627370495⟩ : Binary64).toRat| < 1 :=
  ⟨by decide, by decide, (relate_integer_float _ _ (by decide)).2.2.2.2 (by decide)⟩

end Value

end RecordFilter
