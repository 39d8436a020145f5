import RecordFilter.Test

/-!
# Laws of the four comparisons

Equality and order are two case tables over the kinds of values, and here they are told
to be parts of one comparison. The order of two values is the reverse of the order of the
same two the other way round (`relate_swap`), and loose equality is the case in which it
says equal, null apart (`looseEq_iff_relate`). Strict equality is equality of values that
are no numbers and equality as numbers of those that are (`strictEq_iff`), so it implies
the two tolerant ones.

For the operators this means that, of a value and a literal other than null, `<=` is `<`
or `==`, that `>=` is `>` or `==`, and that no two of `<`, `==`, `>` hold together.
-/

namespace RecordFilter

theorem map_swap_map_swap (o : Option Ordering) : (o.map Ordering.swap).map Ordering.swap = o := by
  cases o with
  | none => rfl
  | some o => rw [Option.map_some, Option.map_some, Ordering.swap_swap]

theorem Binary64.compare?_swap (x y : Binary64) :
    y.compare? x = (x.compare? y).map Ordering.swap := by
  rw [compare?, compare?, Bool.or_comm]
  split
  · rfl
  · rw [Option.map_some, Int.compare_swap]

theorem Number.compare?_swap (m n : Number) : n.compare? m = (m.compare? n).map Ordering.swap := by
  cases m with
  | integer a =>
      cases n with
      | integer b => rw [compare?, compare?, Option.map_some, Int.compare_swap]
      | float y => rfl
  | float x =>
      cases n with
      | integer b => exact (map_swap_map_swap _).symm
      | float y => exact x.compare?_swap y

theorem Number.isNaN_of_compare? {m : Number} {x : Binary64} {o : Ordering}
    (h : (Number.float x).compare? m = some o) : x.isNaN = false := by
  cases hx : x.isNaN with
  | false => rfl
  | true =>
      cases m with
      | integer n => simp [compare?, compareMixed?, hx] at h
      | float y => simp [compare?, Binary64.compare?, hx] at h

namespace Value

theorem relateNumbers_swap (a b : Value) :
    relateNumbers b a = (relateNumbers a b).map Ordering.swap := by
  rw [relateNumbers, relateNumbers]
  cases a.coerce? with
  | none => cases b.coerce? <;> rfl
  | some m =>
      cases b.coerce? with
      | none => rfl
      | some n => exact m.compare?_swap n

theorem relate_swap (a b : Value) : relate b a = (relate a b).map Ordering.swap := by
  cases a with
  | string s =>
      cases b with
      | string t => rw [relate, relate, Option.map_some, Std.OrientedOrd.eq_swap]
      | _ => exact relateNumbers_swap _ _
  | _ => cases b <;> exact relateNumbers_swap _ _

theorem relateNumbers_of_coerce?_eq_none {a b : Value} (h : a.coerce? = none ∨ b.coerce? = none) :
    relateNumbers a b = none := by
  rw [relateNumbers]
  rcases h with h | h
  · rw [h]
    rfl
  · rw [h]
    cases a.coerce? <;> rfl

/-- Values other than null are loosely equal exactly if the order calls them equal. -/
theorem looseEq_iff_relate {a b : Value} (ha : a ≠ null) (hb : b ≠ null) :
    a.looseEq b = true ↔ a.relate b = some .eq := by
  -- Neither collection is equal to anything, and neither is ordered.
  have hcollection : ∀ {c d : Value}, c.looseEq d = false → c.relate d = relateNumbers c d →
      (c.coerce? = none ∨ d.coerce? = none) →
      (c.looseEq d = true ↔ c.relate d = some .eq) := by
    intro c d hloose hrelate hnone
    rw [hloose, hrelate, relateNumbers_of_coerce?_eq_none hnone]
    exact iff_of_false Bool.false_ne_true nofun
  cases a with
  | null => exact absurd rfl ha
  | array items => cases b <;> exact hcollection (by simp [looseEq]) rfl (.inl rfl)
  | object fields => cases b <;> exact hcollection (by simp [looseEq]) rfl (.inl rfl)
  | string s =>
      cases b with
      | null => exact absurd rfl hb
      | array items => exact hcollection rfl rfl (.inr rfl)
      | object fields => exact hcollection rfl rfl (.inr rfl)
      | string t => simp [looseEq, relate]
      | _ => exact beq_iff_eq
  | boolean s =>
      cases b with
      | null => exact absurd rfl hb
      | array items => exact hcollection rfl rfl (.inr rfl)
      | object fields => exact hcollection rfl rfl (.inr rfl)
      | boolean t => cases s <;> cases t <;> decide
      | _ => exact beq_iff_eq
  | _ =>
      cases b with
      | null => exact absurd rfl hb
      | array items => exact hcollection rfl rfl (.inr rfl)
      | object fields => exact hcollection rfl rfl (.inr rfl)
      | _ => exact beq_iff_eq

theorem looseEq_null_left (b : Value) : null.looseEq b = true ↔ b = null := by
  cases b <;> simp [looseEq]

theorem looseEq_null_right (a : Value) : a.looseEq null = true ↔ a = null := by
  cases a <;> simp [looseEq]

theorem looseEq_comm (a b : Value) : b.looseEq a = a.looseEq b := by
  rw [Bool.eq_iff_iff]
  by_cases ha : a = null
  · rw [ha, looseEq_null_left, looseEq_null_right]
  · by_cases hb : b = null
    · rw [hb, looseEq_null_left, looseEq_null_right]
    · rw [looseEq_iff_relate ha hb, looseEq_iff_relate hb ha, relate_swap a b]
      cases a.relate b with
      | none => rfl
      | some o => rw [Option.map_some, Option.some_inj, Option.some_inj, Ordering.swap_eq_eq]

/-- Values are strictly equal if they are the same scalar and no numbers, or numbers that
are equal. -/
theorem strictEq_iff (a b : Value) :
    a.strictEq b = true ↔
      (a = b ∧ a.isScalar = true ∧ a.number? = none) ∨
        ∃ m n, a.number? = some m ∧ b.number? = some n ∧ m.compare? n = some .eq := by
  cases a <;> cases b <;> simp [strictEq, isScalar, number?]

theorem strictEq_comm (a b : Value) : b.strictEq a = a.strictEq b := by
  have hswap : ∀ {c d : Value}, c.strictEq d = true → d.strictEq c = true := by
    intro c d h
    rcases (strictEq_iff c d).1 h with ⟨rfl, -⟩ | ⟨m, n, hm, hn, hequal⟩
    · exact h
    · refine (strictEq_iff d c).2 (.inr ⟨n, m, hn, hm, ?_⟩)
      rw [m.compare?_swap n, hequal]
      rfl
  rw [Bool.eq_iff_iff]
  exact ⟨hswap, hswap⟩

theorem sameValueZero_iff (a b : Value) :
    a.sameValueZero b = true ↔
      a.strictEq b = true ∨ ∃ x y, a = float x ∧ b = float y ∧ x.isNaN = true ∧ y.isNaN = true := by
  cases a <;> cases b <;> simp [sameValueZero, or_comm]

theorem sameValueZero_comm (a b : Value) : b.sameValueZero a = a.sameValueZero b := by
  have hswap : ∀ {c d : Value}, c.sameValueZero d = true → d.sameValueZero c = true := by
    intro c d h
    rw [sameValueZero_iff] at h ⊢
    rcases h with h | ⟨x, y, hc, hd, hx, hy⟩
    · exact .inl (by rw [strictEq_comm, h])
    · exact .inr ⟨y, x, hd, hc, hy, hx⟩
  rw [Bool.eq_iff_iff]
  exact ⟨hswap, hswap⟩

theorem coerce?_of_compare? {a : Value} {m n : Number} {o : Ordering} (ha : a.number? = some m)
    (h : m.compare? n = some o) : a.coerce? = some m := by
  cases a with
  | integer k => exact ha
  | float x =>
      cases ha
      rw [coerce?, Number.isNaN_of_compare? h, if_neg Bool.false_ne_true]
  | _ => cases ha

theorem looseEq_self_of_number?_eq_none {a : Value} (hscalar : a.isScalar = true)
    (hnumber : a.number? = none) : a.looseEq a = true := by
  cases a with
  | null => rfl
  | boolean b => exact beq_self_eq_true b
  | string s => exact beq_self_eq_true s
  | integer n => cases hnumber
  | float x => cases hnumber
  | array items => cases hscalar
  | object fields => cases hscalar

theorem looseEq_of_strictEq {a b : Value} (h : a.strictEq b = true) : a.looseEq b = true := by
  rcases (strictEq_iff a b).1 h with ⟨rfl, hscalar, hnumber⟩ | ⟨m, n, hm, hn, hequal⟩
  · exact looseEq_self_of_number?_eq_none hscalar hnumber
  · have ha : a ≠ null := by
      rintro rfl
      cases hm
    have hb : b ≠ null := by
      rintro rfl
      cases hn
    have hequal' : n.compare? m = some .eq := by
      rw [m.compare?_swap n, hequal]
      rfl
    have hrelate : a.relate b = relateNumbers a b := by
      cases a with
      | string s => cases hm
      | _ => rfl
    rw [looseEq_iff_relate ha hb, hrelate, relateNumbers, coerce?_of_compare? hm hequal,
      coerce?_of_compare? hn hequal']
    exact hequal

/-- The comparisons of two values agree with each other: the order is reversed with its
sides, the equalities are symmetric, the strict one implies the others, and the order
calls two values equal exactly if they are loosely equal, null apart. So of the operators
that compare a value other than null with such a literal, `<=` and `>=` are made of the
others, and no two of the others hold together. -/
theorem comparisons_agree (a b : Value) :
    b.relate a = (a.relate b).map Ordering.swap ∧
      b.looseEq a = a.looseEq b ∧
      b.strictEq a = a.strictEq b ∧
      b.sameValueZero a = a.sameValueZero b ∧
      (a.strictEq b = true → a.looseEq b = true ∧ a.sameValueZero b = true) ∧
      (a ≠ null → b ≠ null →
        (a.looseEq b = true ↔ a.relate b = some .eq) ∧
          Comparison.le.holds (some a) b =
            (Comparison.lt.holds (some a) b || Comparison.eq.holds (some a) b) ∧
          Comparison.ge.holds (some a) b =
            (Comparison.gt.holds (some a) b || Comparison.eq.holds (some a) b) ∧
          [Comparison.lt, .eq, .gt].Pairwise fun op other =>
            ¬(op.holds (some a) b = true ∧ other.holds (some a) b = true)) := by
  refine ⟨relate_swap a b, looseEq_comm a b, strictEq_comm a b, sameValueZero_comm a b, ?_, ?_⟩
  · intro h
    exact ⟨looseEq_of_strictEq h, (sameValueZero_iff a b).2 (.inl h)⟩
  · intro ha hb
    have hequal := looseEq_iff_relate ha hb
    have hloose : Comparison.looselyEqual (some a) b = (a.relate b == some .eq) := by
      rw [Bool.eq_iff_iff, beq_iff_eq]
      exact hequal
    have horder : Comparison.order? (some a) b = a.relate b := rfl
    refine ⟨hequal, ?_, ?_, ?_⟩
    · rw [Comparison.holds, Comparison.holds, Comparison.holds, hloose, horder]
    · rw [Comparison.holds, Comparison.holds, Comparison.holds, hloose, horder]
    · simp only [Comparison.holds, hloose, horder]
      cases a.relate b with
      | none => simp
      | some o => cases o <;> simp

end Value

end RecordFilter
