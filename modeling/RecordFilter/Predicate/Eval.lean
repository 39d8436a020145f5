import RecordFilter.Predicate.Basic

/-!
# Evaluating predicates

A predicate is evaluated in a scope, with the hoist table that holds its
literals. Combinators ask their children and quantifiers the items of an array,
one after the other, until an answer differs from the neutral one; a fault ends
the evaluation. `settle` is this rule for any list, and the recursion over the
children of a combinator is an instance of it.
-/

namespace RecordFilter

/-- Asks one after the other: the neutral answer if all give it, and the
opposite as soon as one does not. -/
def settle {ε α : Type} (neutral : Bool) (ask : α → Except ε Bool) : List α → Except ε Bool
  | [] => .ok neutral
  | a :: as =>
    match ask a with
    | .error e => .error e
    | .ok answer => if answer = neutral then settle neutral ask as else .ok answer

@[simp] theorem settle_nil {ε α : Type} (neutral : Bool) (ask : α → Except ε Bool) :
    settle neutral ask [] = .ok neutral := rfl

/-- The first of a list is asked, and then perhaps the rest. -/
theorem settle_cons {ε α : Type} (neutral : Bool) (ask : α → Except ε Bool) (a : α)
    (as : List α) :
    settle neutral ask (a :: as) =
      ask a >>= fun answer =>
        if answer = neutral then settle neutral ask as else .ok answer := by
  rw [settle]
  cases ask a <;> rfl

/-- A single question is its own answer. -/
theorem settle_singleton {ε α : Type} (neutral : Bool) (ask : α → Except ε Bool) (a : α) :
    settle neutral ask [a] = ask a := by
  rw [settle]
  cases ask a with
  | error e => rfl
  | ok answer =>
    by_cases h : answer = neutral
    · simp only [h, if_true, settle]
    · simp only [h, if_false]

/-- The first of a list is asked without a fault, and either its answer is the neutral
one and the rest settles the question, or its answer settles it. -/
theorem exists_of_settle_cons {ε α : Type} {neutral answer : Bool} {ask : α → Except ε Bool}
    {a : α} {as : List α} (h : settle neutral ask (a :: as) = .ok answer) :
    ∃ x, ask a = .ok x ∧
      (x = neutral ∧ settle neutral ask as = .ok answer ∨ x ≠ neutral ∧ x = answer) := by
  rw [settle] at h
  cases ha : ask a with
  | error e => simp [ha] at h
  | ok x =>
    simp only [ha] at h
    split at h
    · next hneutral => exact ⟨x, rfl, .inl ⟨hneutral, h⟩⟩
    · next hneutral => exact ⟨x, rfl, .inr ⟨hneutral, Except.ok.inj h⟩⟩

/-- The rest of a list is asked only if everything in front of it gives the neutral answer. -/
theorem settle_append {ε α : Type} (neutral : Bool) (ask : α → Except ε Bool) (as bs : List α) :
    settle neutral ask (as ++ bs) =
      (settle neutral ask as).bind fun answer =>
        if answer = neutral then settle neutral ask bs else .ok answer := by
  induction as with
  | nil => simp [Except.bind]
  | cons a as ih =>
    simp only [List.cons_append, settle]
    cases ask a with
    | error e => rfl
    | ok answer =>
      by_cases h : answer = neutral
      · simpa [h] using ih
      · simp [h, Except.bind]

/-- Asks a quantifier's question of every item of an array. The item is the
record and its place in the array the position. -/
def Quantifier.scan (q : Quantifier) (ask : Scope → Except EvalError Bool) :
    Option Value → Except EvalError Bool
  | some (.array items) =>
    settle q.neutral (fun (item, i) => ask (.ofRecord item (UInt64.ofNat i))) items.zipIdx
  | v => .error (.type q.name (Value.foundName v))

namespace Predicate

/-- A test whose literal is not in the table never holds. -/
def evalTest (table : HoistTable) (path : Path) (t : Test Slot Slot) (scope : Scope) :
    Except EvalError Bool :=
  match t.fetch? table with
  | none => .ok false
  | some t => do t.holds (← path.resolve scope)

mutual

/-- The answer of a predicate in a scope. -/
def eval (table : HoistTable) : Predicate → Scope → Except EvalError Bool
  | never, _ => .ok false
  | combine c children, scope => evalAll table c children scope
  | not body, scope => (eval table body scope).map (! ·)
  | quantify path q body, scope => do
    q.scan (eval table body) (← path.resolve scope)
  | test path t, scope => evalTest table path t scope
  | custom _ op config, scope => .ok (op (scope.record.getD .null) scope.index config)

/-- The answer of the children of a combinator. -/
def evalAll (table : HoistTable) (c : Combinator) : List Predicate → Scope → Except EvalError Bool
  | [], _ => .ok c.neutral
  | p :: ps, scope =>
    match eval table p scope with
    | .error e => .error e
    | .ok answer => if answer = c.neutral then evalAll table c ps scope else .ok answer

end

theorem evalAll_cons (table : HoistTable) (c : Combinator) (p : Predicate)
    (ps : List Predicate) (scope : Scope) :
    evalAll table c (p :: ps) scope =
      p.eval table scope >>= fun answer =>
        if answer = c.neutral then evalAll table c ps scope else .ok answer := by
  rw [evalAll]
  cases p.eval table scope <;> rfl

theorem evalAll_eq_settle (table : HoistTable) (c : Combinator) (ps : List Predicate)
    (scope : Scope) :
    evalAll table c ps scope = settle c.neutral (fun p => eval table p scope) ps := by
  induction ps with
  | nil => rfl
  | cons p ps ih =>
    rw [evalAll, settle]
    cases eval table p scope with
    | error e => rfl
    | ok answer => simp only [ih]

end Predicate

end RecordFilter
