import RecordFilter.Proofs.Assembly.Parallel
import RecordFilter.Proofs.Query.Simulation

/-!
# Queries in a context

Whether one query may stand for another is a question about what the two compile to. A
relation of predicates that is kept by everything a compilation builds around a part is a
`Predicate.Congruence`. If two queries compile side by side to predicates in such a
relation, then so do the queries around them: a negation (`parallel_negated`), a combinator
with the one or the other among its children (`parallel_child`), a quantifier with the one
or the other as its body (`parallel_body`). The drafts agree as well, so a negation sees
the same nodes given up on either side.

Equality is such a relation, and so is answering alike in every table (`AnswersAs`). A
combinator of a single child compiles to what the child compiles to. A combinator that
stands among the children of the same combinator may be replaced by its own children,
which are asked the same questions in the same order (`answersAs_splice`).
-/

namespace RecordFilter

namespace Predicate

/-- A relation that is kept where predicates are put together. -/
structure Congruence (R : Predicate → Predicate → Prop) : Prop where
  refl : ∀ p, R p p
  not : ∀ p p', R p p' → R (.not p) (.not p')
  child : ∀ c front back p p', R p p' →
    R (combineAll c (front ++ p :: back)) (combineAll c (front ++ p' :: back))
  body : ∀ path q p p', R p p' → R (.quantify path q p) (.quantify path q p')

theorem congruence_eq : Congruence Eq where
  refl _ := rfl
  not _ _ h := by rw [h]
  child _ _ _ _ _ h := by rw [h]
  body _ _ _ _ h := by rw [h]

def AnswersAs (p p' : Predicate) : Prop := ∀ table, p'.eval table = p.eval table

theorem eval_combineAll_eq_settle (table : HoistTable) (c : Combinator) (ps : List Predicate)
    (scope : Scope) :
    (combineAll c ps).eval table scope = settle c.neutral (fun p => p.eval table scope) ps := by
  rw [eval_combineAll, evalAll_eq_settle]

theorem congruence_answersAs : Congruence AnswersAs where
  refl _ _ := rfl
  not p p' h table := by
    funext scope
    rw [eval, eval, h]
  child c front back p p' h table := by
    funext scope
    rw [eval_combineAll_eq_settle, eval_combineAll_eq_settle, settle_append, settle_append,
      settle_cons, settle_cons, h]
  body path q p p' h table := by
    funext scope
    rw [eval, eval, h]

theorem answersAs_splice (c : Combinator) (front ps back : List Predicate) :
    AnswersAs (combineAll c (front ++ combineAll c ps :: back))
      (combineAll c (front ++ (ps ++ back))) := by
  intro table
  funext scope
  rw [eval_combineAll_eq_settle, eval_combineAll_eq_settle, settle_append, settle_append,
    settle_append, settle_cons, eval_combineAll_eq_settle]
  rfl

end Predicate

namespace Query

variable {strict : Bool}

theorem compileAll_cons (q : Query) (qs : List Query) :
    compileAll strict (q :: qs) = do
      let p ← q.compile strict
      let ps ← compileAll strict qs
      return p :: ps := by
  rw [compileAll]

theorem compileAll_append (qs rs : List Query) :
    compileAll strict (qs ++ rs) = do
      let ps ← compileAll strict qs
      let ps' ← compileAll strict rs
      return ps ++ ps' := by
  induction qs with
  | nil => simp only [compileAll, List.nil_append, pure_bind, bind_pure]
  | cons q qs ih =>
      rw [List.cons_append, compileAll_cons, compileAll_cons, ih]
      simp only [bind_assoc, pure_bind, List.cons_append]

theorem compile_combine_singleton (c : Combinator) (q : Query) :
    (combine c [q]).compile strict = q.compile strict := by
  rw [compile, compileAll_cons, compileAll]
  simp only [bind_assoc, pure_bind, Predicate.combineAll, bind_pure]

section Congruence

variable {R : Predicate → Predicate → Prop} (hR : Predicate.Congruence R) {q r : Query}

include hR

theorem parallel_negated (token : String)
    (h : Assembly.Parallel .same R (q.compile strict) (r.compile strict)) :
    Assembly.Parallel .same R ((negated token q).compile strict)
      ((negated token r).compile strict) := by
  rw [compile, compile]
  apply h.watch.bind
  rintro ⟨p, degraded⟩ ⟨p', degraded'⟩ ⟨hp, hdegraded⟩
  change degraded = degraded' at hdegraded
  subst hdegraded
  cases degraded with
  | true => exact Assembly.parallel_self hR.refl _
  | false => exact Assembly.parallel_pure (hR.not p p' hp)

theorem parallel_child (c : Combinator) (front back : List Query)
    (h : Assembly.Parallel .same R (q.compile strict) (r.compile strict)) :
    Assembly.Parallel .same R ((combine c (front ++ q :: back)).compile strict)
      ((combine c (front ++ r :: back)).compile strict) := by
  rw [compile, compile, compileAll_append, compileAll_append, compileAll_cons, compileAll_cons]
  simp only [bind_assoc, pure_bind]
  apply (Assembly.parallel_self (fun _ => rfl) _).bind
  rintro ps _ rfl
  apply h.bind
  intro p p' hp
  apply (Assembly.parallel_self (fun _ => rfl) _).map
  rintro ps' _ rfl
  exact hR.child c ps ps' p p' hp

theorem parallel_body (path : Path) (k : Quantifier)
    (h : Assembly.Parallel .same R (q.compile strict) (r.compile strict)) :
    Assembly.Parallel .same R ((quantify path k q).compile strict)
      ((quantify path k r).compile strict) := by
  rw [compile, compile]
  exact h.map fun p p' hp => hR.body path k p p' hp

end Congruence

/-- A combinator among the children of the same combinator, and its children in its
place. -/
theorem parallel_splice (strict : Bool) (c : Combinator) (front qs back : List Query) :
    Assembly.Parallel .same Predicate.AnswersAs
      ((combine c (front ++ combine c qs :: back)).compile strict)
      ((combine c (front ++ (qs ++ back))).compile strict) := by
  rw [compile, compile, compileAll_append, compileAll_append, compileAll_append,
    compileAll_cons, compile]
  simp only [bind_assoc, pure_bind]
  apply (Assembly.parallel_self (fun _ => rfl) _).bind
  rintro ps _ rfl
  apply (Assembly.parallel_self (fun _ => rfl) _).bind
  rintro ps' _ rfl
  apply (Assembly.parallel_self (fun _ => rfl) _).map
  rintro ps'' _ rfl
  exact Predicate.answersAs_splice c ps ps' ps''

end Query

end RecordFilter
