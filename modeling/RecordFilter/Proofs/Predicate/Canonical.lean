import RecordFilter.Predicate.Eval
import RecordFilter.Proofs.Value.Equality

/-!
# Ranges among conjuncts

A range is shown as its two comparisons with `&&` between them, and the children of an
all-combination have the same between them. So a range among these children cannot be told
from two comparisons, and it need not: the canonical form of a predicate has the two in its
place (`conjuncts`). Elsewhere a range stays a range. The bounds of ranges may be arrays or
objects, whose fields are shown in order, and the canonical form has them in order.

The canonical form is shown the same (`describe_canonical`) and answers the same, faults
included (`eval_canonical`).
-/

namespace RecordFilter

namespace Test

/-- The test with the fields of its bounds in order. The literals of other tests have no
fields. -/
def normalize : Test Slot Slot → Test Slot Slot
  | range interval min max => range interval min.normalize max.normalize
  | t => t

def isRange : Test Slot Slot → Bool
  | range _ _ _ => true
  | _ => false

theorem describe_normalize (path : String) (t : Test Slot Slot) :
    t.normalize.describe path = t.describe path := by
  have hjson : ∀ v : Value, v.normalize.toJson = v.toJson := by
    intro v
    rw [Value.toJson, Value.toJson, Json.render, Json.render, Value.normalize_normalize]
  cases t with
  | range _ min max => rw [normalize, describe, describe, hjson, hjson]
  | _ => rfl

end Test

theorem Value.relate_normalize (v w : Value) : v.relate w.normalize = v.relate w := by
  cases w with
  | array _ | object _ => cases v <;> rfl
  | _ => rfl

theorem Comparison.order?_normalize (v : Option Value) (w : Value) :
    order? v w.normalize = order? v w := by
  cases v with
  | none => rfl
  | some v => exact v.relate_normalize w

theorem Interval.holds_normalize (i : Interval) (v : Option Value) (w : Value) :
    i.lower.holds v w.normalize = i.lower.holds v w ∧
      i.upper.holds v w.normalize = i.upper.holds v w := by
  cases i <;> simp only [lower, upper, Comparison.holds, Comparison.order?_normalize, and_self]

namespace Predicate

def isRange : Predicate → Bool
  | test _ t => t.isRange
  | _ => false

/-- What a child is among the children of a combinator: a range among conjuncts is its two
comparisons. -/
def conjuncts : Combinator → Predicate → List Predicate
  | .all, test path (.range interval min max) =>
    [test path (.compare interval.lower min), test path (.compare interval.upper max)]
  | _, p => [p]

mutual

def canonical : Predicate → Predicate
  | never => never
  | combine c children => combine c (canonicalAll c children)
  | not body => not body.canonical
  | quantify path q body => quantify path q body.canonical
  | test path t => test path t.normalize
  | custom name op config => custom name op config

def canonicalAll (c : Combinator) : List Predicate → List Predicate
  | [] => []
  | p :: ps => conjuncts c p.canonical ++ canonicalAll c ps

end

/-! ### Listings -/

theorem describeRest_append (c : Combinator) (ps qs : List Predicate) :
    describeRest c (ps ++ qs) = describeRest c ps ++ describeRest c qs := by
  induction ps with
  | nil => rw [List.nil_append, describeRest, String.empty_append]
  | cons p ps ih =>
      rw [List.cons_append, describeRest, describeRest, ih]
      simp only [String.append_assoc]

theorem describe_conjuncts (c : Combinator) (p : Predicate) :
    ∃ first rest, conjuncts c p = first :: rest ∧
      first.describe ++ describeRest c rest = p.describe := by
  unfold conjuncts
  split
  · refine ⟨_, _, rfl, ?_⟩
    simp only [describeRest, describe, Test.describe, Combinator.symbol, String.append_assoc,
      String.append_empty]
    rfl
  · exact ⟨_, _, rfl, by rw [describeRest, String.append_empty]⟩

theorem describeRest_conjuncts (c : Combinator) (p : Predicate) :
    describeRest c (conjuncts c p) = describeRest c [p] := by
  obtain ⟨first, rest, hconjuncts, hdescribe⟩ := describe_conjuncts c p
  rw [hconjuncts, describeRest, describeRest, describeRest, ← hdescribe, String.append_empty]
  simp only [String.append_assoc]

mutual

theorem describe_canonical (p : Predicate) : p.canonical.describe = p.describe := by
  match p with
  | never | custom _ _ _ => rfl
  | combine c [] => rfl
  | combine c (p :: ps) =>
      obtain ⟨first, rest, hconjuncts, hdescribe⟩ := describe_conjuncts c p.canonical
      rw [canonical, canonicalAll, hconjuncts, List.cons_append, describe, describeRest_append,
        describeRest_canonicalAll c ps, describe, ← describe_canonical p, ← hdescribe]
      simp only [String.append_assoc]
  | not body => rw [canonical, describe, describe, describe_canonical body]
  | quantify path q body => rw [canonical, describe, describe, describe_canonical body]
  | test path t => exact t.describe_normalize path.text

theorem describeRest_canonicalAll (c : Combinator) (ps : List Predicate) :
    describeRest c (canonicalAll c ps) = describeRest c ps := by
  match ps with
  | [] => rfl
  | p :: ps =>
      rw [canonicalAll, describeRest_append, describeRest_conjuncts, describeRest_canonicalAll c ps,
        describeRest, describeRest, describeRest, describe_canonical p, String.append_empty]

end

/-! ### Answers -/

variable {table : HoistTable}

theorem evalTest_normalize (path : Path) (t : Test Slot Slot) (scope : Scope) :
    evalTest table path t.normalize scope = evalTest table path t scope := by
  cases t with
  | range interval min max =>
      simp only [Test.normalize, evalTest, Test.fetch?, Test.holds,
        (interval.holds_normalize _ min).1, (interval.holds_normalize _ max).2]
  | _ => rfl

/-- A range among conjuncts answers as its two comparisons do, one after the other. -/
theorem evalAll_conjuncts (c : Combinator) (p : Predicate) (ps : List Predicate) (scope : Scope) :
    evalAll table c (conjuncts c p ++ ps) scope = evalAll table c (p :: ps) scope := by
  unfold conjuncts
  split
  · next path interval min max =>
      simp only [List.cons_append, List.nil_append, evalAll_cons, eval, evalTest, Test.fetch?]
      cases path.resolve scope with
      | error e => rfl
      | ok v =>
          change (if interval.lower.holds v min = true then
            (if interval.upper.holds v max = true then evalAll table .all ps scope
              else .ok (interval.upper.holds v max)) else .ok (interval.lower.holds v min)) =
            if (interval.lower.holds v min && interval.upper.holds v max) = true
              then evalAll table .all ps scope
              else .ok (interval.lower.holds v min && interval.upper.holds v max)
          cases interval.lower.holds v min <;> rfl
  · rfl

mutual

theorem eval_canonical (p : Predicate) (scope : Scope) :
    p.canonical.eval table scope = p.eval table scope := by
  match p with
  | never | custom _ _ _ => rfl
  | combine c children => exact evalAll_canonicalAll c children scope
  | not body => rw [canonical, eval, eval, eval_canonical body]
  | quantify path q body =>
      rw [canonical, eval, eval, funext (eval_canonical body)]
  | test path t => exact evalTest_normalize path t scope

theorem evalAll_canonicalAll (c : Combinator) (ps : List Predicate) (scope : Scope) :
    evalAll table c (canonicalAll c ps) scope = evalAll table c ps scope := by
  match ps with
  | [] => rfl
  | p :: ps =>
      rw [canonicalAll, evalAll_conjuncts, evalAll_cons, evalAll_cons, eval_canonical p,
        evalAll_canonicalAll c ps]

end

end Predicate

end RecordFilter
