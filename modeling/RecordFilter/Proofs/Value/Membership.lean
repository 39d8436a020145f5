import RecordFilter.MemberSet
import RecordFilter.Proofs.Number.Integral
import RecordFilter.Value.Compare

/-!
# Membership and same-value-zero

A membership set finds a value by its key, and `includes` compares it with one item
after the other by `sameValueZero`. Two values have the same key exactly if they are
same-value-zero, unless one is an integer and the other a double that is no integer
(`exists_key_iff`). Such a pair has two keys, but it may compare as equal, since the
double is compared through a decimal that is cut to about its precision.

So a set agrees with the plain scan exactly if the value is not equal by such a pair
alone (`contains_ofItems_sameValueZero`).
-/

namespace RecordFilter

namespace Binary64

/-- Doubles with the same key are the same, the two zeros aside. -/
theorem eq_or_isZero_of_key_eq {x y : Binary64} (h : x.key = y.key) :
    x = y ∨ x.magnitude = 0 ∧ y.magnitude = 0 := by
  rw [key, key] at h
  have hmagnitude : x.magnitude = y.magnitude := by
    split at h <;> split at h <;> omega
  obtain ⟨hexponent, hfraction⟩ := fields_eq_of_magnitude_eq hmagnitude
  by_cases hsign : x.negative = y.negative
  · left
    cases x
    cases y
    simp_all
  · right
    split at h <;> split at h <;> first | omega | simp_all

theorem toInt?_of_magnitude_eq_zero {x : Binary64} (h : x.magnitude = 0) :
    x.toInt? = some 0 := by
  rw [toInt?_eq_some_iff, units, (size_eq_zero_iff x).2 h]
  rw [magnitude, fractionCount] at h
  constructor
  · rw [isFinite, decide_eq_true_iff]
    omega
  · rw [Int.zero_mul]
    split <;> rfl

end Binary64

namespace MemberKey

theorem ofFloat_eq_nan_iff (x : Binary64) : ofFloat x = nan ↔ x.isNaN = true := by
  rw [ofFloat]
  split
  · next h => simp [h]
  · next h =>
    simp only [h]
    split
    · split <;> simp
    · simp

def isNumber : MemberKey → Bool
  | integer _ => true
  | float _ => true
  | nan => true
  | _ => false

theorem isNumber_ofFloat (x : Binary64) : (ofFloat x).isNumber = true := by
  rw [ofFloat]
  split
  · rfl
  · split
    · split <;> rfl
    · rfl

theorem ofFloat_ne {key : MemberKey} (h : key.isNumber = false) (x : Binary64) :
    ofFloat x ≠ key := by
  rintro rfl
  rw [isNumber_ofFloat] at h
  cases h

theorem ofFloat_eq_integer_iff (x : Binary64) (n : Int64) :
    ofFloat x = integer n ↔ x.toInt? = some n.toInt := by
  constructor
  · intro h
    rw [ofFloat] at h
    split at h
    · cases h
    · split at h
      · next m hm =>
        split at h
        · next hrange =>
          simp only [Bool.and_eq_true, decide_eq_true_eq, Int64.toInt_minValue,
            Int64.toInt_maxValue] at hrange
          cases h
          rw [hm, Int64.toInt_ofInt_of_le hrange.1 (by omega)]
        · cases h
      · cases h
  · intro h
    have hfinite := ((x.toInt?_eq_some_iff _).1 h).1
    have hlower := n.le_toInt
    have hupper := n.toInt_lt
    rw [ofFloat, Binary64.isNaN_of_isFinite hfinite, if_neg (by simp), h]
    simp only [Int64.toInt_minValue, Int64.toInt_maxValue, Int64.ofInt_toInt]
    rw [if_pos (by simp; omega)]

theorem ofFloat_cases {x : Binary64} (h : x.isNaN = false) :
    (∃ n, ofFloat x = integer n) ∨ ofFloat x = float x := by
  rw [ofFloat, h, if_neg (by simp)]
  split
  · split
    · exact .inl ⟨_, rfl⟩
    · exact .inr rfl
  · exact .inr rfl

theorem ofFloat_eq_ofFloat_iff {x y : Binary64} (hx : x.isNaN = false) (hy : y.isNaN = false) :
    ofFloat x = ofFloat y ↔ x.key = y.key := by
  constructor
  · intro h
    rcases ofFloat_cases hx with ⟨n, hn⟩ | hfloat
    · have hxn := (ofFloat_eq_integer_iff x n).1 hn
      have hyn := (ofFloat_eq_integer_iff y n).1 (h ▸ hn)
      rw [Binary64.toInt?_eq_some_iff] at hxn hyn
      rw [Binary64.key_eq_key_iff, hxn.2, hyn.2]
    · rcases ofFloat_cases hy with ⟨n, hn⟩ | hfloat'
      · rw [hfloat, hn] at h
        cases h
      · rw [hfloat, hfloat'] at h
        cases h
        rfl
  · intro h
    rcases Binary64.eq_or_isZero_of_key_eq h with rfl | ⟨hx0, hy0⟩
    · rfl
    · rw [(ofFloat_eq_integer_iff x 0).2 (Binary64.toInt?_of_magnitude_eq_zero hx0),
        (ofFloat_eq_integer_iff y 0).2 (Binary64.toInt?_of_magnitude_eq_zero hy0)]

end MemberKey

namespace Value

def mixesFraction : Value → Value → Bool
  | integer _, float x => !x.isIntegral
  | float x, integer _ => !x.isIntegral
  | _, _ => false

/-- A double with a whole number's value, and that number: they are equal exactly if they
have the same key. -/
theorem compareMixed?_eq_iff (n : Int64) (x : Binary64) :
    Number.compareMixed? n x = some .eq ∧ x.isIntegral = true ↔
      MemberKey.ofFloat x = .integer n := by
  rw [MemberKey.ofFloat_eq_integer_iff, Binary64.isIntegral, Option.isSome_iff_exists]
  constructor
  · rintro ⟨hequal, v, hv⟩
    rw [Number.compareMixed?_of_toInt? n hv, Option.some_inj, Int.compare_eq_eq] at hequal
    rw [hv, hequal]
  · intro h
    refine ⟨?_, _, h⟩
    rw [Number.compareMixed?_of_toInt? n h, Option.some_inj, Int.compare_eq_eq]

theorem sameValueZero_integer_integer (m n : Int64) :
    (integer m).sameValueZero (integer n) = true ↔ m = n := by
  change ((some (compare m.toInt n.toInt) : Option Ordering) == some .eq) = true ↔ _
  rw [beq_iff_eq, Option.some_inj, Int.compare_eq_eq, Int64.toInt_inj]

theorem sameValueZero_integer_float (n : Int64) (x : Binary64) :
    (integer n).sameValueZero (float x) = true ∧ x.isIntegral = true ↔
      MemberKey.ofFloat x = .integer n := by
  rw [← compareMixed?_eq_iff]
  change (Number.compareMixed? n x == some .eq) = true ∧ _ ↔ _
  rw [beq_iff_eq]

theorem sameValueZero_float_integer (x : Binary64) (n : Int64) :
    (float x).sameValueZero (integer n) = true ∧ x.isIntegral = true ↔
      MemberKey.ofFloat x = .integer n := by
  rw [← compareMixed?_eq_iff]
  change ((Number.compareMixed? n x).map Ordering.swap == some .eq) = true ∧ _ ↔ _
  rw [beq_iff_eq]
  cases Number.compareMixed? n x with
  | none => rfl
  | some o => rw [Option.map_some, Option.some_inj, Option.some_inj, Ordering.swap_eq_eq]

theorem sameValueZero_float_float (x y : Binary64) :
    (float x).sameValueZero (float y) = true ↔ MemberKey.ofFloat x = MemberKey.ofFloat y := by
  change ((x.isNaN && y.isNaN) || (x.compare? y == some .eq)) = true ↔ _
  rw [Binary64.compare?]
  cases hx : x.isNaN with
  | true =>
      rw [(MemberKey.ofFloat_eq_nan_iff x).2 hx, eq_comm (a := MemberKey.nan),
        MemberKey.ofFloat_eq_nan_iff]
      simp
  | false =>
      cases hy : y.isNaN with
      | true =>
          rw [(MemberKey.ofFloat_eq_nan_iff y).2 hy, MemberKey.ofFloat_eq_nan_iff, hx]
          simp
      | false =>
          rw [MemberKey.ofFloat_eq_ofFloat_iff hx hy]
          simp

/-- Two numbers have the same key exactly if they are same-value-zero, and not an integer
and a double that is no integer. -/
theorem key_eq_iff_of_numbers {w v : Value} (hw : w.number?.isSome = true)
    (hv : v.number?.isSome = true) :
    MemberKey.ofValue? w = MemberKey.ofValue? v ↔
      w.sameValueZero v = true ∧ w.mixesFraction v = false := by
  match w, v with
  | .integer m, .integer n =>
      rw [sameValueZero_integer_integer]
      simp [MemberKey.ofValue?, mixesFraction]
  | .integer n, .float x =>
      rw [mixesFraction, Bool.not_eq_false', sameValueZero_integer_float, MemberKey.ofValue?,
        MemberKey.ofValue?, Option.some_inj]
      exact eq_comm
  | .float x, .integer n =>
      rw [mixesFraction, Bool.not_eq_false', sameValueZero_float_integer, MemberKey.ofValue?,
        MemberKey.ofValue?, Option.some_inj]
  | .float x, .float y =>
      rw [sameValueZero_float_float]
      simp [MemberKey.ofValue?, mixesFraction]

/-- Values have the same key exactly if they are same-value-zero, and not an integer and a
double that is no integer. -/
theorem exists_key_iff (w v : Value) :
    (∃ key, MemberKey.ofValue? v = some key ∧ MemberKey.ofValue? w = some key) ↔
      w.sameValueZero v = true ∧ w.mixesFraction v = false := by
  by_cases hnumbers : w.number?.isSome = true ∧ v.number?.isSome = true
  · rw [← key_eq_iff_of_numbers hnumbers.1 hnumbers.2]
    cases v <;> simp [MemberKey.ofValue?, number?] at hnumbers ⊢
  · -- The key of a double is none of the keys of other values.
    cases w <;> cases v <;>
      simp [MemberKey.ofValue?, mixesFraction, sameValueZero, strictEq, number?] at hnumbers ⊢
    case null.float | boolean.float | string.float => exact (MemberKey.ofFloat_ne rfl _).symm
    case float.null | float.boolean | float.string => exact MemberKey.ofFloat_ne rfl _

end Value

namespace MemberSet

/-- A set contains what is same-value-zero to one of its items, other than as an integer
and a double that is no integer. So it agrees with the scan for such an item exactly if the
scan finds one that way whenever it finds any. -/
theorem contains_ofItems_sameValueZero (items : List Value) (v : Value) :
    ((ofItems items).contains v = true ↔
      ∃ w ∈ items, w.sameValueZero v = true ∧ w.mixesFraction v = false) ∧
    (((ofItems items).contains v = true ↔ ∃ w ∈ items, w.sameValueZero v = true) ↔
      ((∃ w ∈ items, w.sameValueZero v = true) →
        ∃ w ∈ items, w.sameValueZero v = true ∧ w.mixesFraction v = false)) := by
  have hcontains : (ofItems items).contains v = true ↔
      ∃ w ∈ items, w.sameValueZero v = true ∧ w.mixesFraction v = false := by
    rw [contains_ofItems]
    constructor
    · rintro ⟨key, hv, w, hw, hkey⟩
      exact ⟨w, hw, (Value.exists_key_iff w v).1 ⟨key, hv, hkey⟩⟩
    · rintro ⟨w, hw, hequal⟩
      obtain ⟨key, hv, hkey⟩ := (Value.exists_key_iff w v).2 hequal
      exact ⟨key, hv, w, hw, hkey⟩
  refine ⟨hcontains, ?_⟩
  rw [hcontains]
  constructor
  · intro h
    exact h.2
  · intro h
    refine ⟨?_, h⟩
    rintro ⟨w, hw, hequal, -⟩
    exact ⟨w, hw, hequal⟩

/-- One is same-value-zero to the double that follows it, but the set of one does not
contain that double. -/
theorem contains_ofItems_next_double :
    (ofItems [.integer 1]).contains (.float ⟨false, 1023, 1⟩) = false ∧
      ∃ w ∈ [Value.integer 1], w.sameValueZero (.float ⟨false, 1023, 1⟩) = true :=
  ⟨by decide, .integer 1, List.mem_cons_self, by decide⟩

end MemberSet

end RecordFilter
