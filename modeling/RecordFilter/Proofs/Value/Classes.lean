import Mathlib.Data.Set.Card
import RecordFilter.Proofs.Binary64.Rational
import RecordFilter.Proofs.Value.Membership

/-!
# What a membership set holds

A set is built from literals, and two scalars are one member of it if they are the same
null, boolean or string, or if they are numbers that mean the same (`SameMember`). What a
number means is told without its kind: a rational number, an infinity, or NaN.

The keys that a set goes by are in step with this. Doubles that are integers of 64 bits
share the keys of these, and every other number has a key of its own, so two numbers have
the same key exactly if they mean the same (`key_eq_key_iff`). So a set contains what is
the same member as one of its literals, and its size is the number of classes that its
literals fall into (`MemberSet.contains_ofItems_sameMember`).
-/

namespace RecordFilter

inductive Number.Meaning where
  | rational (q : ℚ)
  | infinity (negative : Bool)
  | nan

/-- What an integer or a double means; the two zeros mean the same. -/
def Number.meaning : Number → Meaning
  | integer n => .rational n.toInt
  | float x =>
    if x.isNaN then .nan else if x.isInfinite then .infinity x.negative else .rational x.toRat

namespace Binary64

theorem isFinite_iff (x : Binary64) :
    x.isFinite = true ↔ x.isNaN = false ∧ x.isInfinite = false := by
  have hexponent := x.exponent.isLt
  rw [isFinite, isNaN, isInfinite, decide_eq_true_iff]
  by_cases h : x.exponent.val = 2047
  · simp [h]
  · have hlt : x.exponent.val < 2047 := by omega
    simp [h, hlt]

theorem isFinite_or_isInfinite {x : Binary64} (h : x.isNaN = false) :
    x.isFinite = true ∨ x.isInfinite = true := by
  cases hinfinite : x.isInfinite with
  | true => exact .inr rfl
  | false => exact .inl (x.isFinite_iff.2 ⟨h, hinfinite⟩)

theorem magnitude_lt_of_isFinite {x : Binary64} (h : x.isFinite = true) :
    x.magnitude < infiniteMagnitude := by
  have hfraction := x.fraction_lt
  rw [isFinite, decide_eq_true_iff] at h
  have hle : x.exponent.val * fractionCount ≤ 2046 * fractionCount :=
    Nat.mul_le_mul_right _ (by omega)
  rw [magnitude, infiniteMagnitude]
  rw [fractionCount] at *
  omega

theorem natAbs_key (x : Binary64) : x.key.natAbs = x.magnitude := by
  rw [key]
  split <;> omega

theorem magnitude_of_isInfinite {x : Binary64} (h : x.isInfinite = true) :
    x.magnitude = infiniteMagnitude := by
  rw [isInfinite, Bool.and_eq_true, beq_iff_eq, beq_iff_eq] at h
  rw [magnitude, infiniteMagnitude, h.1, h.2, Nat.add_zero]

end Binary64

namespace Number

def key : Number → MemberKey
  | integer n => .integer n
  | float x => .ofFloat x

theorem meaning_eq_nan_iff (x : Binary64) : (float x).meaning = .nan ↔ x.isNaN = true := by
  rw [meaning]
  split
  · next h => simp [h]
  · next h => split <;> simp [h]

theorem meaning_eq_rational_iff (x : Binary64) (q : ℚ) :
    (float x).meaning = .rational q ↔ x.isFinite = true ∧ x.toRat = q := by
  rw [x.isFinite_iff, meaning]
  cases x.isNaN with
  | true => simp
  | false => cases x.isInfinite <;> simp

theorem meaning_of_isFinite {x : Binary64} (h : x.isFinite = true) :
    (float x).meaning = .rational x.toRat :=
  (meaning_eq_rational_iff x x.toRat).2 ⟨h, rfl⟩

theorem meaning_of_isInfinite {x : Binary64} (h : x.isInfinite = true) (hnan : x.isNaN = false) :
    (float x).meaning = .infinity x.negative := by
  rw [meaning, hnan, h, if_neg Bool.false_ne_true, if_pos rfl]

theorem meaning_eq_iff_key {x y : Binary64} (hx : x.isNaN = false) (hy : y.isNaN = false) :
    (float x).meaning = (float y).meaning ↔ x.key = y.key := by
  have hxkey := x.natAbs_key
  have hykey := y.natAbs_key
  rcases Binary64.isFinite_or_isInfinite hx with hxf | hxi
  · have hxlt := Binary64.magnitude_lt_of_isFinite hxf
    rw [meaning_of_isFinite hxf]
    rcases Binary64.isFinite_or_isInfinite hy with hyf | hyi
    · rw [meaning_of_isFinite hyf, Binary64.key_eq_key_iff, ← Binary64.toRat_inj,
        Meaning.rational.injEq]
    · have hyeq := Binary64.magnitude_of_isInfinite hyi
      rw [meaning_of_isInfinite hyi hy]
      exact iff_of_false nofun (by omega)
  · have hxeq := Binary64.magnitude_of_isInfinite hxi
    rw [meaning_of_isInfinite hxi hx]
    rcases Binary64.isFinite_or_isInfinite hy with hyf | hyi
    · have hylt := Binary64.magnitude_lt_of_isFinite hyf
      rw [meaning_of_isFinite hyf]
      exact iff_of_false nofun (by omega)
    · have hpos : 0 < Binary64.infiniteMagnitude := by decide
      rw [meaning_of_isInfinite hyi hy, Meaning.infinity.injEq, Binary64.key, Binary64.key, hxeq,
        Binary64.magnitude_of_isInfinite hyi]
      -- The two keys are opposite if the signs are.
      cases x.negative <;> cases y.negative <;> simp <;> omega

/-- Numbers have the same key exactly if they mean the same. -/
theorem key_eq_key_iff (m n : Number) : m.key = n.key ↔ m.meaning = n.meaning := by
  have hmixed : ∀ (a : Int64) (x : Binary64),
      MemberKey.ofFloat x = .integer a ↔ (float x).meaning = (integer a).meaning := by
    intro a x
    rw [MemberKey.ofFloat_eq_integer_iff, Binary64.toInt?_eq_some_iff_toRat,
      ← meaning_eq_rational_iff]
    rfl
  cases m with
  | integer a =>
      cases n with
      | integer b => simp [key, meaning, Int64.toInt_inj]
      | float y =>
          rw [eq_comm, eq_comm (a := (integer a).meaning)]
          exact hmixed a y
  | float x =>
      cases n with
      | integer b => exact hmixed b x
      | float y =>
          cases hx : x.isNaN with
          | true =>
              rw [(meaning_eq_nan_iff x).2 hx, eq_comm (a := Meaning.nan), meaning_eq_nan_iff,
                ← MemberKey.ofFloat_eq_nan_iff, key, key, (MemberKey.ofFloat_eq_nan_iff x).2 hx]
              exact eq_comm
          | false =>
              cases hy : y.isNaN with
              | true =>
                  rw [(meaning_eq_nan_iff y).2 hy, meaning_eq_nan_iff,
                    ← MemberKey.ofFloat_eq_nan_iff, key, key, (MemberKey.ofFloat_eq_nan_iff y).2 hy]
              | false =>
                  rw [meaning_eq_iff_key hx hy]
                  exact MemberKey.ofFloat_eq_ofFloat_iff hx hy

end Number

namespace Value

/-- The two are the same null, boolean or string, or numbers that mean the same. -/
def SameMember (v w : Value) : Prop :=
  (v = w ∧ v.isScalar = true ∧ v.number? = none) ∨
    ∃ m n, v.number? = some m ∧ w.number? = some n ∧ m.meaning = n.meaning

theorem ofValue?_of_number? {v : Value} {m : Number} (h : v.number? = some m) :
    MemberKey.ofValue? v = some m.key := by
  cases v with
  | integer n =>
      cases h
      rfl
  | float x =>
      cases h
      rfl
  | _ => cases h

theorem isSome_number?_of_ofValue? {v : Value} {key : MemberKey}
    (h : MemberKey.ofValue? v = some key) : v.number?.isSome = key.isNumber := by
  cases v with
  | float x =>
      cases h
      exact (MemberKey.isNumber_ofFloat x).symm
  | array items => cases h
  | object fields => cases h
  | _ =>
      cases h
      rfl

theorem eq_of_ofValue? {v w : Value} {key : MemberKey} (hv : MemberKey.ofValue? v = some key)
    (hw : MemberKey.ofValue? w = some key) (hnumber : key.isNumber = false) : v = w := by
  have hvnone := isSome_number?_of_ofValue? hv
  have hwnone := isSome_number?_of_ofValue? hw
  rw [hnumber] at hvnone hwnone
  cases v <;> cases hvnone <;> cases hv <;> cases w <;> cases hwnone <;> cases hw <;> rfl

theorem isScalar_of_ofValue? {v : Value} {key : MemberKey}
    (h : MemberKey.ofValue? v = some key) : v.isScalar = true := by
  cases v with
  | array items => cases h
  | object fields => cases h
  | _ => rfl

theorem exists_ofValue?_of_isScalar {v : Value} (h : v.isScalar = true) :
    ∃ key, MemberKey.ofValue? v = some key := by
  cases v with
  | array items => cases h
  | object fields => cases h
  | _ => exact ⟨_, rfl⟩

/-- Scalars are the same member exactly if they have the same key. -/
theorem sameMember_iff (v w : Value) :
    v.SameMember w ↔
      ∃ key, MemberKey.ofValue? v = some key ∧ MemberKey.ofValue? w = some key := by
  constructor
  · rintro (⟨rfl, hscalar, -⟩ | ⟨m, n, hm, hn, hmeaning⟩)
    · obtain ⟨key, hkey⟩ := exists_ofValue?_of_isScalar hscalar
      exact ⟨key, hkey, hkey⟩
    · refine ⟨m.key, ofValue?_of_number? hm, ?_⟩
      rw [ofValue?_of_number? hn, (Number.key_eq_key_iff m n).2 hmeaning]
  · rintro ⟨key, hv, hw⟩
    have hvnumber := isSome_number?_of_ofValue? hv
    have hwnumber := isSome_number?_of_ofValue? hw
    cases hkey : key.isNumber with
    | false =>
        rw [hkey, Option.isSome_eq_false_iff, Option.isNone_iff_eq_none] at hvnumber
        exact .inl ⟨eq_of_ofValue? hv hw hkey, isScalar_of_ofValue? hv, hvnumber⟩
    | true =>
        rw [hkey] at hvnumber hwnumber
        obtain ⟨m, hm⟩ := Option.isSome_iff_exists.1 hvnumber
        obtain ⟨n, hn⟩ := Option.isSome_iff_exists.1 hwnumber
        refine .inr ⟨m, n, hm, hn, (Number.key_eq_key_iff m n).1 ?_⟩
        rw [ofValue?_of_number? hm, Option.some_inj] at hv
        rw [ofValue?_of_number? hn, Option.some_inj] at hw
        rw [hv, hw]

theorem sameMember_equivalence :
    Equivalence fun v w : {v : Value // v.isScalar = true} => v.1.SameMember w.1 where
  refl v := by
    obtain ⟨key, hkey⟩ := exists_ofValue?_of_isScalar v.2
    exact (sameMember_iff _ _).2 ⟨key, hkey, hkey⟩
  symm h := by
    obtain ⟨key, hv, hw⟩ := (sameMember_iff _ _).1 h
    exact (sameMember_iff _ _).2 ⟨key, hw, hv⟩
  trans h h' := by
    obtain ⟨key, hu, hv⟩ := (sameMember_iff _ _).1 h
    obtain ⟨key', hv', hw⟩ := (sameMember_iff _ _).1 h'
    rw [hv, Option.some_inj] at hv'
    exact (sameMember_iff _ _).2 ⟨key, hu, hv' ▸ hw⟩

def memberClass (w : Value) : Set Value := {v | w.SameMember v}

end Value

def MemberKey.scalars (key : MemberKey) : Set Value := {v | ofValue? v = some key}

namespace MemberSet

theorem nodup_eraseDups {α : Type} [DecidableEq α] (as : List α) : as.eraseDups.Nodup := by
  match as with
  | [] => exact List.nodup_nil
  | a :: as =>
      rw [List.eraseDups_cons, List.nodup_cons, List.mem_eraseDups, List.mem_filter]
      exact ⟨by simp, nodup_eraseDups _⟩
termination_by as.length
decreasing_by
  exact Nat.lt_succ_of_le (List.length_filter_le _ _)

theorem nodup_keys_ofItems (items : List Value) : (ofItems items).keys.Nodup :=
  nodup_eraseDups _

theorem mem_keys_ofItems (items : List Value) (key : MemberKey) :
    key ∈ (ofItems items).keys ↔ ∃ w ∈ items, MemberKey.ofValue? w = some key := by
  rw [ofItems, List.mem_eraseDups, List.mem_filterMap]

theorem memberClass_eq {w : Value} {key : MemberKey} (h : MemberKey.ofValue? w = some key) :
    w.memberClass = key.scalars := by
  ext v
  change w.SameMember v ↔ MemberKey.ofValue? v = some key
  rw [Value.sameMember_iff, h]
  simp

/-- The size of a set is the number of classes that its literals fall into. -/
theorem size_ofItems (items : List Value) :
    (ofItems items).size =
      (Value.memberClass '' {w | w ∈ items ∧ w.isScalar = true}).ncard := by
  have hclasses : Value.memberClass '' {w | w ∈ items ∧ w.isScalar = true} =
      MemberKey.scalars '' ((ofItems items).keys.toFinset : Set MemberKey) := by
    rw [List.coe_toFinset]
    ext c
    constructor
    · rintro ⟨w, ⟨hw, hscalar⟩, rfl⟩
      obtain ⟨key, hkey⟩ := Value.exists_ofValue?_of_isScalar hscalar
      exact ⟨key, (mem_keys_ofItems items key).2 ⟨w, hw, hkey⟩, (memberClass_eq hkey).symm⟩
    · rintro ⟨key, hkey, rfl⟩
      obtain ⟨w, hw, hkey⟩ := (mem_keys_ofItems items key).1 hkey
      exact ⟨w, ⟨hw, Value.isScalar_of_ofValue? hkey⟩, memberClass_eq hkey⟩
  have hinjective :
      Set.InjOn MemberKey.scalars ((ofItems items).keys.toFinset : Set MemberKey) := by
    rw [List.coe_toFinset]
    intro key hkey other _ heq
    obtain ⟨w, -, hw⟩ := (mem_keys_ofItems items key).1 hkey
    have hother : w ∈ other.scalars := heq ▸ hw
    exact Option.some_inj.1 (hw.symm.trans hother)
  rw [hclasses, hinjective.ncard_image, Set.ncard_coe_finset,
    List.toFinset_card_of_nodup (nodup_keys_ofItems items), size]

/-- A set contains exactly what is the same member as one of its literals, and its size is
the number of classes of same members that the scalars among its literals fall into. -/
theorem contains_ofItems_sameMember (items : List Value) (v : Value) :
    ((ofItems items).contains v = true ↔ ∃ w ∈ items, v.SameMember w) ∧
      (ofItems items).size =
        (Value.memberClass '' {w | w ∈ items ∧ w.isScalar = true}).ncard := by
  refine ⟨?_, size_ofItems items⟩
  rw [contains_ofItems]
  constructor
  · rintro ⟨key, hv, w, hw, hkey⟩
    exact ⟨w, hw, (Value.sameMember_iff v w).2 ⟨key, hv, hkey⟩⟩
  · rintro ⟨w, hw, hsame⟩
    obtain ⟨key, hv, hkey⟩ := (Value.sameMember_iff v w).1 hsame
    exact ⟨key, hv, w, hw, hkey⟩

end MemberSet

end RecordFilter
