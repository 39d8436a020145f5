import RecordFilter.Predicate.Eval
import RecordFilter.Query.Basic

/-!
# The meaning of a query

The answer of a query by itself, without a predicate and a table: every test
prepares its literals on the spot. An invalid node is false. Negating it would
make it true of everything, so a negated node with an invalid one anywhere
below it is false as well.
-/

namespace RecordFilter.Query

mutual

/-- Whether the query or anything below it is invalid. -/
def isDegraded : Query → Bool
  | invalid _ => true
  | negated _ body => body.isDegraded
  | combine _ children => anyDegraded children
  | quantify _ _ body => body.isDegraded
  | test _ _ => false
  | custom _ _ _ => false

def anyDegraded : List Query → Bool
  | [] => false
  | q :: qs => q.isDegraded || anyDegraded qs

end

mutual

/-- The answer of a query in a scope. -/
def eval : Query → Scope → Except EvalError Bool
  | invalid _, _ => .ok false
  | negated _ body, scope =>
    if body.isDegraded then .ok false else (eval body scope).map (! ·)
  | combine c children, scope => evalAll c children scope
  | quantify path q body, scope => do q.scan (eval body) (← path.resolve scope)
  | test path t, scope => do t.prepare.holds (← path.resolve scope)
  | custom _ op config, scope => .ok (op (scope.record.getD .null) scope.index config)

def evalAll (c : Combinator) : List Query → Scope → Except EvalError Bool
  | [], _ => .ok c.neutral
  | q :: qs, scope =>
    match eval q scope with
    | .error e => .error e
    | .ok answer => if answer = c.neutral then evalAll c qs scope else .ok answer

end

theorem evalAll_eq_settle (c : Combinator) (qs : List Query) (scope : Scope) :
    evalAll c qs scope = settle c.neutral (fun q => eval q scope) qs := by
  induction qs with
  | nil => rfl
  | cons q qs ih =>
    rw [evalAll, settle]
    cases eval q scope with
    | error e => rfl
    | ok answer => simp only [ih]

end RecordFilter.Query
