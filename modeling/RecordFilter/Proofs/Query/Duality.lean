import Mathlib.Data.List.Forall2
import RecordFilter.Proofs.Path.Follow
import RecordFilter.Proofs.Query.Compiled

/-!
# Duality of queries

Negating a combinator or a quantifier turns it into the other one over its negated
parts. This holds of more than the answers. The opposite of the neutral answer is the
neutral answer of the opposite question, so both sides ask the same parts in the same
order, stop at the same one, and fault where it faults (`settle_map_not`). Only a
quantifier that is given no array tells the two sides apart, because the fault names
it; `EvalError.withoutQuantifier` takes this back.

`Interchangeable` is all that a query has to share with another to take its place: it
is degraded or not, has the same literals, and answers alike if it is not degraded. The
parts of a query may be exchanged for such queries (`interchangeable_negated`,
`interchangeable_combine`, `interchangeable_quantify`), the body of a quantifier too,
since they answer alike in every scope.
-/

namespace RecordFilter

/-- The fault of a quantifier as that of `some`. -/
def EvalError.withoutQuantifier : EvalError → EvalError
  | type operation found =>
    type (if operation = Quantifier.all.name then Quantifier.any.name else operation) found
  | e => e

/-- The opposite question comes to the opposite answer, and asks as far. -/
theorem settle_map_not {ε α : Type} (neutral : Bool) (ask : α → Except ε Bool) (as : List α) :
    settle (!neutral) (fun a => (ask a).map (! ·)) as = (settle neutral ask as).map (! ·) := by
  induction as with
  | nil => rfl
  | cons a as ih =>
      rw [settle, settle, ih]
      cases ask a with
      | error e => rfl
      | ok answer => cases answer <;> cases neutral <;> rfl

theorem alikeUpTo_settle {α β : Type} {forget : EvalError → EvalError} (neutral : Bool)
    {ask : α → Except EvalError Bool} {ask' : β → Except EvalError Bool} {as : List α}
    {bs : List β}
    (h : List.Forall₂ (fun a b => EvalError.AlikeUpTo forget (ask a) (ask' b)) as bs) :
    EvalError.AlikeUpTo forget (settle neutral ask as) (settle neutral ask' bs) := by
  induction h with
  | nil => exact EvalError.alikeUpTo_refl _ _
  | cons hhead _ ih =>
      rw [settle_cons, settle_cons]
      apply hhead.bind
      intro answer
      split
      · exact ih
      · exact EvalError.alikeUpTo_refl _ _

namespace Combinator

def dual : Combinator → Combinator
  | all => any
  | any => all

theorem neutral_dual (c : Combinator) : c.dual.neutral = !c.neutral := by
  cases c <;> rfl

end Combinator

namespace Quantifier

def dual : Quantifier → Quantifier
  | any => all
  | all => any

theorem neutral_dual (q : Quantifier) : q.dual.neutral = !q.neutral := by
  cases q <;> rfl

theorem withoutQuantifier_dual (q : Quantifier) (found : String) :
    (EvalError.type q.dual.name found).withoutQuantifier =
      (EvalError.type q.name found).withoutQuantifier := by
  cases q <;> rfl

theorem scan_dual (q : Quantifier) (ask : Scope → Except EvalError Bool) (v : Option Value) :
    EvalError.AlikeUpTo EvalError.withoutQuantifier ((q.scan ask v).map (! ·))
      (q.dual.scan (fun scope => (ask scope).map (! ·)) v) := by
  unfold scan
  split
  · rw [neutral_dual]
    exact congrArg _ (settle_map_not q.neutral _ _).symm
  · exact EvalError.alikeUpTo_error (q.withoutQuantifier_dual _).symm

theorem alikeUpTo_scan {forget : EvalError → EvalError} (q : Quantifier)
    {ask ask' : Scope → Except EvalError Bool}
    (h : ∀ scope, EvalError.AlikeUpTo forget (ask scope) (ask' scope)) (v : Option Value) :
    EvalError.AlikeUpTo forget (q.scan ask v) (q.scan ask' v) := by
  unfold scan
  split
  · apply alikeUpTo_settle
    rw [List.forall₂_same]
    intro item _
    exact h _
  · exact EvalError.alikeUpTo_refl _ _

end Quantifier

namespace Query

theorem eval_negated {q : Query} (h : q.isDegraded = false) (token : String) (scope : Scope) :
    (negated token q).eval scope = (q.eval scope).map (! ·) := by
  rw [eval, h, if_neg (by simp)]

theorem anyDegraded_eq_any (qs : List Query) : anyDegraded qs = qs.any isDegraded := by
  induction qs with
  | nil => rfl
  | cons q qs ih => rw [anyDegraded, List.any_cons, ih]

theorem hoistedAll_eq_flatMap (qs : List Query) : hoistedAll qs = qs.flatMap hoisted := by
  induction qs with
  | nil => rfl
  | cons q qs ih => rw [hoistedAll, List.flatMap_cons, ih]

/-- One query may take the place of another wherever that stands: it has the same
literals, is degraded together with the other, and if they are not degraded then they
answer alike. -/
structure Interchangeable (q r : Query) : Prop where
  isDegraded_eq : r.isDegraded = q.isDegraded
  hoisted_eq : r.hoisted = q.hoisted
  alike : q.isDegraded = false → ∀ scope,
    EvalError.AlikeUpTo EvalError.withoutQuantifier (q.eval scope) (r.eval scope)

theorem interchangeable_refl (q : Query) : q.Interchangeable q :=
  ⟨rfl, rfl, fun _ _ => EvalError.alikeUpTo_refl _ _⟩

theorem interchangeable_of_isDegraded {q r : Query} (hq : q.isDegraded = true)
    (hr : r.isDegraded = true) (h : r.hoisted = q.hoisted) : q.Interchangeable r where
  isDegraded_eq := hr.trans hq.symm
  hoisted_eq := h
  alike hvalid := by
    rw [hq] at hvalid
    cases hvalid

section Interchangeable

variable {q r s : Query}

theorem Interchangeable.symm (h : q.Interchangeable r) : r.Interchangeable q where
  isDegraded_eq := h.isDegraded_eq.symm
  hoisted_eq := h.hoisted_eq.symm
  alike hr scope := (h.alike (h.isDegraded_eq ▸ hr) scope).symm

theorem Interchangeable.trans (h : q.Interchangeable r) (h' : r.Interchangeable s) :
    q.Interchangeable s where
  isDegraded_eq := h'.isDegraded_eq.trans h.isDegraded_eq
  hoisted_eq := h'.hoisted_eq.trans h.hoisted_eq
  alike hq scope := (h.alike hq scope).trans (h'.alike (h.isDegraded_eq.trans hq) scope)

theorem interchangeable_negated (token token' : String) (h : q.Interchangeable r) :
    (negated token q).Interchangeable (negated token' r) where
  isDegraded_eq := h.isDegraded_eq
  hoisted_eq := h.hoisted_eq
  alike hq scope := by
    rw [isDegraded] at hq
    rw [eval_negated hq, eval_negated (h.isDegraded_eq.trans hq)]
    exact (h.alike hq scope).map _

theorem interchangeable_quantify (path : Path) (k : Quantifier) (h : q.Interchangeable r) :
    (quantify path k q).Interchangeable (quantify path k r) where
  isDegraded_eq := h.isDegraded_eq
  hoisted_eq := h.hoisted_eq
  alike hq scope := by
    rw [isDegraded] at hq
    rw [eval, eval]
    exact (EvalError.alikeUpTo_refl _ _).bind (k.alikeUpTo_scan (h.alike hq))

end Interchangeable

section Children

variable {qs rs : List Query}

theorem anyDegraded_of_interchangeable (h : List.Forall₂ Interchangeable qs rs) :
    anyDegraded rs = anyDegraded qs := by
  induction h with
  | nil => rfl
  | cons hhead _ ih => rw [anyDegraded, anyDegraded, hhead.isDegraded_eq, ih]

theorem hoistedAll_of_interchangeable (h : List.Forall₂ Interchangeable qs rs) :
    hoistedAll rs = hoistedAll qs := by
  induction h with
  | nil => rfl
  | cons hhead _ ih => rw [hoistedAll, hoistedAll, hhead.hoisted_eq, ih]

theorem alike_of_interchangeable (h : List.Forall₂ Interchangeable qs rs)
    (hqs : anyDegraded qs = false) (scope : Scope) :
    List.Forall₂ (fun q r => EvalError.AlikeUpTo EvalError.withoutQuantifier
      (q.eval scope) (r.eval scope)) qs rs := by
  induction h with
  | nil => exact .nil
  | cons hhead _ ih =>
      rw [anyDegraded, Bool.or_eq_false_iff] at hqs
      exact .cons (hhead.alike hqs.1 scope) (ih hqs.2)

theorem interchangeable_combine (c : Combinator) (h : List.Forall₂ Interchangeable qs rs) :
    (combine c qs).Interchangeable (combine c rs) where
  isDegraded_eq := anyDegraded_of_interchangeable h
  hoisted_eq := hoistedAll_of_interchangeable h
  alike hqs scope := by
    rw [isDegraded] at hqs
    rw [eval, eval, evalAll_eq_settle, evalAll_eq_settle]
    exact alikeUpTo_settle _ (alike_of_interchangeable h hqs scope)

end Children

theorem interchangeable_combine_singleton (c : Combinator) (q : Query) :
    (combine c [q]).Interchangeable q where
  isDegraded_eq := by rw [isDegraded, anyDegraded, anyDegraded, Bool.or_false]
  hoisted_eq := by rw [hoisted, hoistedAll, hoistedAll, List.append_nil]
  alike _ scope := by
    rw [eval, evalAll_eq_settle, settle_singleton]
    exact EvalError.alikeUpTo_refl _ _

section Dual

variable (token : String)

theorem anyDegraded_map_negated (qs : List Query) :
    anyDegraded (qs.map (negated token)) = anyDegraded qs := by
  rw [anyDegraded_eq_any, anyDegraded_eq_any, List.any_map]
  rfl

theorem hoistedAll_map_negated (qs : List Query) :
    hoistedAll (qs.map (negated token)) = hoistedAll qs := by
  rw [hoistedAll_eq_flatMap, hoistedAll_eq_flatMap, List.flatMap_map]
  rfl

/-- The negation of a combinator is the dual combinator of the negations. -/
theorem interchangeable_dual_combine (c : Combinator) (qs : List Query) :
    (negated token (combine c qs)).Interchangeable
      (combine c.dual (qs.map (negated token))) where
  isDegraded_eq := anyDegraded_map_negated token qs
  hoisted_eq := hoistedAll_map_negated token qs
  alike hqs scope := by
    rw [isDegraded] at hqs
    have hvalid : ∀ q ∈ qs, q.isDegraded = false := by
      rw [isDegraded, anyDegraded_eq_any, List.any_eq_false] at hqs
      intro q hq
      exact Bool.eq_false_iff.2 (hqs q hq)
    rw [eval_negated hqs, eval, eval, evalAll_eq_settle, evalAll_eq_settle, c.neutral_dual,
      ← settle_map_not]
    apply alikeUpTo_settle
    rw [List.forall₂_map_right_iff, List.forall₂_same]
    intro q hq
    rw [eval_negated (hvalid q hq)]
    exact EvalError.alikeUpTo_refl _ _

theorem interchangeable_dual_quantify (path : Path) (k : Quantifier) (q : Query) :
    (negated token (quantify path k q)).Interchangeable
      (quantify path k.dual (negated token q)) where
  isDegraded_eq := rfl
  hoisted_eq := rfl
  alike hq scope := by
    rw [isDegraded] at hq
    have hbody : (negated token q).eval = fun inner => (q.eval inner).map (! ·) := by
      rw [isDegraded] at hq
      funext inner
      exact eval_negated hq token inner
    rw [eval_negated hq, eval, eval, hbody]
    cases path.resolve scope with
    | error e => exact EvalError.alikeUpTo_refl _ _
    | ok v => exact k.scan_dual q.eval v

end Dual

end Query

end RecordFilter
