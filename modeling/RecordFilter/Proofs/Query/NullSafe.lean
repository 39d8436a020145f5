import RecordFilter.Predicate.Eval
import RecordFilter.Proofs.Path.NullSafe
import RecordFilter.Proofs.Query.Node

/-!
# Null-safe queries and predicates

With null-safe chains an expression says the same query with all paths null-safe
(`Query.read_true`), and a predicate with all paths null-safe guards the predicate
(`Predicate.guards_eval`). Only paths access null. A test of the value that a path came
to, and a quantifier over it, fault at most because of its type.
-/

namespace RecordFilter

open EvalError

theorem EvalError.guards_settle {α : Type} (neutral : Bool) {ask ask' : α → Except EvalError Bool}
    (h : ∀ a, Guards (ask' a) (ask a)) (as : List α) :
    Guards (settle neutral ask' as) (settle neutral ask as) := by
  induction as with
  | nil => exact (nullFree_ok neutral).guards
  | cons a as ih =>
      rw [settle_cons, settle_cons]
      apply (h a).bind
      intro answer
      split
      · exact ih
      · exact (nullFree_ok answer).guards

theorem Test.nullFree_textHolds (op : TextTest) (needle : Value) (v : Option Value) :
    NullFree (textHolds op needle v) := by
  unfold textHolds
  split
  · exact nullFree_ok _
  · split
    · exact nullFree_ok _
    · exact nullFree_type _ _
  · exact nullFree_type _ _

theorem Test.nullFree_patternHolds (p : Pattern) (v : Option Value) :
    NullFree (patternHolds p v) := by
  unfold patternHolds
  split
  · exact nullFree_ok _
  · split
    · exact nullFree_ok _
    · exact nullFree_type _ _

theorem Test.nullFree_holds (t : Test MemberSet Pattern) (v : Option Value) :
    NullFree (t.holds v) := by
  cases t with
  | text op needle => exact nullFree_textHolds op needle v
  | pattern p => exact nullFree_patternHolds p v
  | _ => exact nullFree_ok _

/-- A quantifier accesses null only where it asks. -/
theorem Quantifier.guards_scan (q : Quantifier) {ask ask' : Scope → Except EvalError Bool}
    (h : ∀ scope, Guards (ask' scope) (ask scope)) (v : Option Value) :
    Guards (q.scan ask' v) (q.scan ask v) := by
  unfold scan
  split
  · exact guards_settle q.neutral (fun _ => h _) _
  · exact (nullFree_type _ _).guards

namespace Predicate

mutual

def nullSafe : Predicate → Predicate
  | never => never
  | combine c children => combine c (nullSafeAll children)
  | not body => not body.nullSafe
  | quantify path q body => quantify path.nullSafe q body.nullSafe
  | test path t => test path.nullSafe t
  | custom name op config => custom name op config

def nullSafeAll : List Predicate → List Predicate
  | [] => []
  | p :: ps => p.nullSafe :: nullSafeAll ps

end

theorem nullSafe_combineAll (c : Combinator) (ps : List Predicate) :
    (combineAll c ps).nullSafe = combineAll c (nullSafeAll ps) := by
  match ps with
  | [] => rfl
  | [_] => rfl
  | _ :: _ :: _ => rfl

mutual

theorem size_nullSafe (p : Predicate) : p.nullSafe.size = p.size := by
  match p with
  | never => rfl
  | combine _ children => rw [nullSafe, size, size, sizeAll_nullSafeAll children]
  | not body => rw [nullSafe, size, size, size_nullSafe body]
  | quantify _ _ body => rw [nullSafe, size, size, size_nullSafe body]
  | test _ _ => rfl
  | custom _ _ _ => rfl

theorem sizeAll_nullSafeAll (ps : List Predicate) : sizeAll (nullSafeAll ps) = sizeAll ps := by
  match ps with
  | [] => rfl
  | p :: ps => rw [nullSafeAll, sizeAll, sizeAll, size_nullSafe p, sizeAll_nullSafeAll ps]

end

mutual

/-- A predicate with null-safe paths never accesses null, and it answers as the
predicate does where that does not access null. -/
theorem guards_eval (table : HoistTable) (p : Predicate) (scope : Scope) :
    Guards (p.nullSafe.eval table scope) (p.eval table scope) := by
  match p with
  | never => exact (nullFree_ok false).guards
  | combine c children => exact guards_evalAll table c children scope
  | not body => exact (guards_eval table body scope).map (! ·)
  | quantify path q body =>
      exact (path.guards_resolve scope).bind (q.guards_scan (guards_eval table body))
  | test path t =>
      rw [nullSafe, eval, eval, evalTest, evalTest]
      cases t.fetch? table with
      | none => exact (nullFree_ok false).guards
      | some t => exact (path.guards_resolve scope).bind fun v => (t.nullFree_holds v).guards
  | custom _ op config => exact (nullFree_ok _).guards

theorem guards_evalAll (table : HoistTable) (c : Combinator) (ps : List Predicate)
    (scope : Scope) :
    Guards (evalAll table c (nullSafeAll ps) scope) (evalAll table c ps scope) := by
  match ps with
  | [] => exact (nullFree_ok c.neutral).guards
  | p :: ps =>
      rw [nullSafeAll, evalAll_cons, evalAll_cons]
      apply (guards_eval table p scope).bind
      intro answer
      split
      · exact guards_evalAll table c ps scope
      · exact (nullFree_ok answer).guards

end

end Predicate

namespace Query

mutual

def nullSafe : Query → Query
  | invalid e => invalid e.nullSafe
  | negated token body => negated token body.nullSafe
  | combine c children => combine c (nullSafeAll children)
  | quantify path q body => quantify path.nullSafe q body.nullSafe
  | test path t => test path.nullSafe t
  | custom name op config => custom name op config

def nullSafeAll : List Query → List Query
  | [] => []
  | q :: qs => q.nullSafe :: nullSafeAll qs

end

theorem nullSafeAll_eq_map (qs : List Query) : nullSafeAll qs = qs.map nullSafe := by
  induction qs with
  | nil => rfl
  | cons q qs ih => rw [nullSafeAll, List.map_cons, ih]

theorem nullSafe_shapeError (v : Value) :
    (Expression.shapeError v).nullSafe = Expression.shapeError v := by
  unfold Expression.shapeError
  split <;> rfl

theorem pathOf_true (chain : Bool) (token : String) (left : Option Value) :
    pathOf true token left = CompileError.mapNullSafe Path.nullSafe (pathOf chain token left) := by
  unfold pathOf
  split
  · next raw =>
      rw [Path.read?_true chain]
      cases Path.read? chain raw <;> rfl
  · rfl

theorem mapNullSafe_testOf (op : Operator) (token : String) (right : Option Value) :
    CompileError.mapNullSafe id (testOf op token right) = testOf op token right := by
  unfold testOf
  split
  case h_1 | h_8 | h_9 => split <;> rfl
  all_goals rfl

theorem ofTest_true (chain : Bool) (op : Operator) (e : Expression) :
    (do
      let path ← pathOf true e.token e.left?
      return test path (← testOf op e.token e.right?)) =
      CompileError.mapNullSafe nullSafe (do
        let path ← pathOf chain e.token e.left?
        return test path (← testOf op e.token e.right?)) := by
  rw [pathOf_true chain]
  apply CompileError.mapNullSafe_bind
  intro path
  conv => lhs; rw [← mapNullSafe_testOf]
  apply CompileError.mapNullSafe_bind
  intro t
  rfl

theorem ofOperator_true (chain : Bool) (op : Operator) (e : Expression) (children : List Query) :
    ofOperator true op e (children.map nullSafe) =
      CompileError.mapNullSafe nullSafe (ofOperator chain op e children) := by
  match op with
  | .combine c =>
      rw [ofOperator, ofOperator, List.isEmpty_map]
      split
      · rfl
      · rw [CompileError.mapNullSafe, nullSafe, nullSafeAll_eq_map]
  | .quantify q =>
      rw [ofOperator, ofOperator, pathOf_true chain]
      apply CompileError.mapNullSafe_bind
      intro path
      rw [List.getElem?_map]
      cases children[1]? <;> rfl
  | .compare _ | .truthy | .falsy | .member | .range _ | .text _ | .regexp _ | .typeTest _ =>
      exact ofTest_true chain _ e

theorem ofNode_true (chain strict : Bool) (registry : Registry) (name : String) (e : Expression)
    (children : List Query) :
    ofNode ⟨true, strict, registry⟩ name e (children.map nullSafe) =
      CompileError.mapNullSafe nullSafe (ofNode ⟨chain, strict, registry⟩ name e children) := by
  simp only [ofNode]
  cases registry.get? name with
  | some op => rfl
  | none =>
      cases Operator.ofToken? name with
      | some op => exact ofOperator_true chain op e children
      | none => rfl

/-- With null-safe chains an expression says the query with null-safe paths. -/
theorem read_true (chain strict : Bool) (registry : Registry) (v : Value) :
    read ⟨true, strict, registry⟩ v = (read ⟨chain, strict, registry⟩ v).nullSafe := by
  apply read_map nullSafe
  · intro v
    rw [nullSafe, nullSafe_shapeError]
  · intro e children
    rw [ofExpression, ofExpression, ofNode_true chain]
    cases ofNode ⟨chain, strict, registry⟩ (Token.resolve e.token).name e children with
    | error error => rfl
    | ok query =>
        simp only [CompileError.mapNullSafe]
        split
        · rfl
        · rfl

end Query

end RecordFilter
