import RecordFilter.Proofs.Query.Node
import RecordFilter.Proofs.Query.Simulation

/-!
# The meaning of an expression

What an expression answers in a scope, by recursion on the expression as it is
written: no query, no predicate and no table come in between. Each node resolves
the negation mark of its token first and asks a registered operator before a
built-in one. Sets and patterns are made where they are asked about.

A node that cannot be compiled is false, negated or not, and so is a negated node
with such a node anywhere below it; `isDegraded` tells whether there is one.
-/

namespace RecordFilter

namespace Operator

/-- What an operator that takes a path asks of the value there, given the right
operand; none if that does not have the shape which the operator needs. -/
def question? (op : Operator) (right : Option Value) :
    Option (Option Value → Except EvalError Bool) :=
  match op, right with
  | compare c, some literal =>
    if literal.isScalar then some fun v => .ok (c.holds v literal) else none
  | truthy, _ => some fun v => .ok (v.any Value.isTruthy)
  | falsy, _ => some fun v => .ok (!v.any Value.isTruthy)
  | member, some (.array items) => some fun v => .ok (v.any (MemberSet.ofItems items).contains)
  | range interval, some (.array (min :: max :: _)) =>
    some fun v => .ok (interval.lower.holds v min && interval.upper.holds v max)
  | text t, some needle =>
    if Query.isNeedle t needle then some (Test.textHolds t needle) else none
  | regexp ignoreCase, some (.string source) =>
    match Pattern.read source ignoreCase with
    | .ok p => some (Test.patternHolds p)
    | .error _ => none
  | typeTest t, _ => some fun v => .ok (t.holds v)
  | _, _ => none

end Operator

namespace Expression

def path? (chain : Bool) : List Value → Option Path
  | .string raw :: _ => Path.read? chain raw
  | _ => none

mutual

/-- Whether an expression, or a node below it, cannot be compiled. Below a node
are the children of a combinator and the body of a quantifier. -/
def isDegraded (options : CompileOptions) : Value → Bool
  | .array (.string token :: operands) =>
    match options.registry.get? (Token.resolve token).name with
    | some _ => false
    | none =>
      match Operator.ofToken? (Token.resolve token).name with
      | none => true
      | some (.combine _) => operands.isEmpty || anyDegraded options operands
      | some (.quantify _) =>
        (path? options.chain operands).isNone || bodyDegraded options operands
      | some op =>
        (path? options.chain operands).isNone || (op.question? operands[1]?).isNone
  | _ => true

def anyDegraded (options : CompileOptions) : List Value → Bool
  | [] => false
  | v :: vs => isDegraded options v || anyDegraded options vs

def bodyDegraded (options : CompileOptions) : List Value → Bool
  | [] => true
  | [_] => true
  | _ :: body :: _ => isDegraded options body

end

mutual

/-- The answer of an expression in a scope. -/
def eval (options : CompileOptions) : Value → Scope → Except EvalError Bool
  | .array (.string token :: operands), scope =>
    let answer :=
      match options.registry.get? (Token.resolve token).name with
      | some op =>
        .ok (op (scope.record.getD .null) scope.index (operands.head?.getD .null))
      | none =>
        match Operator.ofToken? (Token.resolve token).name with
        | none => .ok false
        | some (.combine c) =>
          if operands.isEmpty then .ok false else evalAll options c operands scope
        | some (.quantify q) =>
          match path? options.chain operands with
          | some path => evalBody options q path operands scope
          | none => .ok false
        | some op =>
          match path? options.chain operands, op.question? operands[1]? with
          | some path, some question => do question (← path.resolve scope)
          | _, _ => .ok false
    if (Token.resolve token).negated then
      if isDegraded options (.array (.string token :: operands)) then .ok false
      else answer.map (! ·)
    else answer
  | _, _ => .ok false

def evalAll (options : CompileOptions) (c : Combinator) :
    List Value → Scope → Except EvalError Bool
  | [], _ => .ok c.neutral
  | v :: vs, scope =>
    match eval options v scope with
    | .error e => .error e
    | .ok answer => if answer = c.neutral then evalAll options c vs scope else .ok answer

def evalBody (options : CompileOptions) (q : Quantifier) (path : Path) :
    List Value → Scope → Except EvalError Bool
  | [], _ => .ok false
  | [_], _ => .ok false
  | _ :: body :: _, scope => do q.scan (eval options body) (← path.resolve scope)

end

/-- The test that is read for an operator asks the operator's question, and
there is none where the operator has no question. -/
theorem question?_eq (op : Operator) (token : String) (right : Option Value) :
    op.question? right = (Query.testOf op token right).toOption.map fun t => t.prepare.holds := by
  cases op with
  | compare c =>
      cases right with
      | none => rfl
      | some literal =>
          simp only [Operator.question?, Query.testOf, Option.filter]
          split <;> rfl
  | text t =>
      cases right with
      | none => rfl
      | some needle =>
          simp only [Operator.question?, Query.testOf, Option.filter]
          split <;> rfl
  | regexp ignoreCase =>
      cases right with
      | none => rfl
      | some v =>
          cases v with
          | string source =>
              simp only [Operator.question?, Query.testOf]
              cases Pattern.read source ignoreCase <;> rfl
          | _ => rfl
  | member =>
      cases right with
      | none => rfl
      | some v => cases v <;> rfl
  | range interval =>
      cases right with
      | none => rfl
      | some v =>
          cases v with
          | array bounds =>
              rcases bounds with _ | ⟨min, _ | ⟨max, rest⟩⟩ <;> rfl
          | _ => rfl
  | _ => rfl

theorem path?_eq (chain : Bool) (token : String) (operands : List Value) :
    path? chain operands = (Query.pathOf chain token operands.head?).toOption := by
  match operands with
  | [] => rfl
  | .string raw :: _ =>
      simp only [path?, Query.pathOf, List.head?_cons]
      cases Path.read? chain raw <;> rfl
  | .null :: _ | .boolean _ :: _ | .integer _ :: _ | .float _ :: _ | .array _ :: _
  | .object _ :: _ => rfl

theorem path?_cons (chain : Bool) (left : Value) (vs ws : List Value) :
    path? chain (left :: vs) = path? chain (left :: ws) := by
  cases left <;> rfl

section Node

variable {options : CompileOptions} {token : String} {operands : List Value}

theorem plain_combine {c : Combinator}
    (h : options.registry.get? (Token.resolve token).name = none)
    (ho : Operator.ofToken? (Token.resolve token).name = some (.combine c)) :
    Query.plain options token operands =
      if operands.isEmpty then
        .invalid (.malformed token "a combinator needs at least one child")
      else .combine c (Query.readAll options operands) := by
  have hof : Query.ofNode options (Token.resolve token).name ⟨token, operands⟩
      (Query.readAll options operands) =
      if operands.isEmpty then
        .error (.malformed token "a combinator needs at least one child")
      else .ok (.combine c (Query.readAll options operands)) := by
    rw [Query.ofNode_builtIn h ho, Query.ofOperator, Query.readAll_eq_map, List.isEmpty_map]
  split
  · next hempty =>
      apply Query.plain_of_error
      rw [hof, if_pos hempty]
  · next hempty =>
      apply Query.plain_of_ok
      rw [hof, if_neg hempty]

theorem read_combine {c : Combinator}
    (h : options.registry.get? (Token.resolve token).name = none)
    (ho : Operator.ofToken? (Token.resolve token).name = some (.combine c))
    (hne : operands ≠ []) :
    Query.read options (.array (.string token :: operands)) =
      if (Token.resolve token).negated then
        .negated token (.combine c (Query.readAll options operands))
      else .combine c (Query.readAll options operands) := by
  apply Query.read_of_plain
  · rw [plain_combine h ho, if_neg (by simpa using hne)]
  · simp

theorem plain_quantify {q : Quantifier} {path : Path} {left body : Value} {rest : List Value}
    (h : options.registry.get? (Token.resolve token).name = none)
    (ho : Operator.ofToken? (Token.resolve token).name = some (.quantify q))
    (hpath : path? options.chain (left :: body :: rest) = some path) :
    Query.plain options token (left :: body :: rest) =
      .quantify path q (Query.read options body) := by
  apply Query.plain_of_ok
  rw [path?_eq options.chain token] at hpath
  rw [Query.ofNode_builtIn h ho, Query.ofOperator, Query.readAll_eq_map]
  cases hp : Query.pathOf options.chain token (left :: body :: rest).head? with
  | error e => rw [hp] at hpath; cases hpath
  | ok other =>
      rw [hp] at hpath
      cases hpath
      simp only [Expression.left?, hp]
      rfl

theorem read_quantify {q : Quantifier} {path : Path} {left body : Value}
    {rest : List Value} (h : options.registry.get? (Token.resolve token).name = none)
    (ho : Operator.ofToken? (Token.resolve token).name = some (.quantify q))
    (hpath : path? options.chain (left :: body :: rest) = some path) :
    Query.read options (.array (.string token :: left :: body :: rest)) =
      if (Token.resolve token).negated then
        .negated token (.quantify path q (Query.read options body))
      else .quantify path q (Query.read options body) := by
  apply Query.read_of_plain
  · exact plain_quantify h ho hpath
  · simp

theorem plain_quantify_invalid {q : Quantifier} (operands : List Value)
    (h : options.registry.get? (Token.resolve token).name = none)
    (ho : Operator.ofToken? (Token.resolve token).name = some (.quantify q))
    (hbad : path? options.chain operands = none ∨ operands[1]? = none) :
    ∃ e, Query.plain options token operands = .invalid e := by
  have hof : ∃ e, Query.ofNode options (Token.resolve token).name ⟨token, operands⟩
      (Query.readAll options operands) = .error e := by
    rw [Query.ofNode_builtIn h ho, Query.ofOperator, Query.readAll_eq_map, List.getElem?_map]
    rw [path?_eq options.chain token] at hbad
    simp only [Expression.left?]
    cases hp : Query.pathOf options.chain token operands.head? with
    | error e => exact ⟨e, rfl⟩
    | ok path =>
        have hbody : operands[1]? = none := by
          rcases hbad with hnone | hnone
          · rw [hp] at hnone
            cases hnone
          · exact hnone
        rw [hbody]
        exact ⟨_, rfl⟩
  obtain ⟨e, he⟩ := hof
  exact ⟨e, Query.plain_of_error he⟩

theorem plain_test {op : Operator} {path : Path}
    {question : Option Value → Except EvalError Bool}
    (h : options.registry.get? (Token.resolve token).name = none)
    (ho : Operator.ofToken? (Token.resolve token).name = some op)
    (hc : ∀ c, op ≠ .combine c) (hq : ∀ q, op ≠ .quantify q)
    (hpath : path? options.chain operands = some path)
    (hquestion : op.question? operands[1]? = some question) :
    ∃ t, Query.plain options token operands = .test path t ∧ t.prepare.holds = question := by
  rw [path?_eq options.chain token] at hpath
  rw [question?_eq op token] at hquestion
  cases hp : Query.pathOf options.chain token operands.head? with
  | error e => rw [hp] at hpath; cases hpath
  | ok other =>
      cases ht : Query.testOf op token operands[1]? with
      | error e => rw [ht] at hquestion; cases hquestion
      | ok t =>
          rw [hp] at hpath
          rw [ht] at hquestion
          cases hpath
          cases hquestion
          refine ⟨t, Query.plain_of_ok ?_, rfl⟩
          rw [Query.ofNode_builtIn h ho, Query.ofOperator_test hc hq]
          simp only [Expression.left?, Expression.right?, hp, ht]
          rfl

theorem plain_test_invalid {op : Operator} (operands : List Value)
    (h : options.registry.get? (Token.resolve token).name = none)
    (ho : Operator.ofToken? (Token.resolve token).name = some op)
    (hc : ∀ c, op ≠ .combine c) (hq : ∀ q, op ≠ .quantify q)
    (hbad : path? options.chain operands = none ∨ op.question? operands[1]? = none) :
    ∃ e, Query.plain options token operands = .invalid e := by
  have hof : ∃ e, Query.ofNode options (Token.resolve token).name ⟨token, operands⟩
      (Query.readAll options operands) = .error e := by
    rw [Query.ofNode_builtIn h ho, Query.ofOperator_test hc hq]
    rw [path?_eq options.chain token, question?_eq op token] at hbad
    simp only [Expression.left?, Expression.right?]
    cases hp : Query.pathOf options.chain token operands.head? with
    | error e => exact ⟨e, rfl⟩
    | ok path =>
        cases ht : Query.testOf op token operands[1]? with
        | error e => exact ⟨e, rfl⟩
        | ok t =>
            rw [hp, ht] at hbad
            rcases hbad with hnone | hnone <;> cases hnone
  obtain ⟨e, he⟩ := hof
  exact ⟨e, Query.plain_of_error he⟩

theorem isDegraded_plain_test {op : Operator}
    (h : options.registry.get? (Token.resolve token).name = none)
    (ho : Operator.ofToken? (Token.resolve token).name = some op)
    (hc : ∀ c, op ≠ .combine c) (hq : ∀ q, op ≠ .quantify q) :
    (Query.plain options token operands).isDegraded =
      ((path? options.chain operands).isNone || (op.question? operands[1]?).isNone) := by
  cases hpath : path? options.chain operands with
  | none =>
      obtain ⟨e, he⟩ := plain_test_invalid operands h ho hc hq (.inl hpath)
      rw [he, Query.isDegraded]
      rfl
  | some path =>
      cases hquestion : op.question? operands[1]? with
      | none =>
          obtain ⟨e, he⟩ := plain_test_invalid operands h ho hc hq (.inr hquestion)
          rw [he, Query.isDegraded]
          rfl
      | some question =>
          obtain ⟨t, ht, -⟩ := plain_test h ho hc hq hpath hquestion
          rw [ht, Query.isDegraded]
          rfl

theorem eval_plain_test {op : Operator} (scope : Scope)
    (h : options.registry.get? (Token.resolve token).name = none)
    (ho : Operator.ofToken? (Token.resolve token).name = some op)
    (hc : ∀ c, op ≠ .combine c) (hq : ∀ q, op ≠ .quantify q) :
    (Query.plain options token operands).eval scope =
      match path? options.chain operands, op.question? operands[1]? with
      | some path, some question => do question (← path.resolve scope)
      | _, _ => .ok false := by
  cases hpath : path? options.chain operands with
  | none =>
      obtain ⟨e, he⟩ := plain_test_invalid operands h ho hc hq (.inl hpath)
      rw [he, Query.eval]
  | some path =>
      cases hquestion : op.question? operands[1]? with
      | none =>
          obtain ⟨e, he⟩ := plain_test_invalid operands h ho hc hq (.inr hquestion)
          rw [he, Query.eval]
      | some question =>
          obtain ⟨t, ht, hholds⟩ := plain_test h ho hc hq hpath hquestion
          rw [ht, Query.eval, hholds]

end Node

mutual

/-- A node of an expression cannot be compiled exactly if a node of its query is
invalid. -/
theorem isDegraded_read (options : CompileOptions) (v : Value) :
    (Query.read options v).isDegraded = isDegraded options v := by
  match v with
  | .array (.string token :: operands) =>
      rw [Query.isDegraded_read_node, isDegraded]
      cases hreg : options.registry.get? (Token.resolve token).name with
      | some op => rw [Query.plain_custom hreg, Query.isDegraded]
      | none =>
          cases hop : Operator.ofToken? (Token.resolve token).name with
          | none => rw [Query.plain_unknown hreg hop, Query.isDegraded]
          | some op =>
              cases op with
              | combine c =>
                  rw [plain_combine hreg hop]
                  cases operands with
                  | nil => rfl
                  | cons v vs => exact anyDegraded_readAll options (v :: vs)
              | quantify q => exact isDegraded_plain_quantify options operands hreg hop
              | _ => exact isDegraded_plain_test hreg hop (by simp) (by simp)
  | .null | .boolean _ | .integer _ | .float _ | .string _ | .object _ | .array []
  | .array (.null :: _) | .array (.boolean _ :: _) | .array (.integer _ :: _)
  | .array (.float _ :: _) | .array (.array _ :: _) | .array (.object _ :: _) => rfl

theorem anyDegraded_readAll (options : CompileOptions) (vs : List Value) :
    Query.anyDegraded (Query.readAll options vs) = anyDegraded options vs := by
  match vs with
  | [] => rfl
  | v :: vs =>
      rw [Query.readAll, Query.anyDegraded, anyDegraded, isDegraded_read options v,
        anyDegraded_readAll options vs]

theorem isDegraded_plain_quantify (options : CompileOptions) {token : String} {q : Quantifier}
    (operands : List Value) (h : options.registry.get? (Token.resolve token).name = none)
    (ho : Operator.ofToken? (Token.resolve token).name = some (.quantify q)) :
    (Query.plain options token operands).isDegraded =
      ((path? options.chain operands).isNone || bodyDegraded options operands) := by
  match operands with
  | [] =>
      obtain ⟨e, he⟩ := plain_quantify_invalid [] h ho (.inr rfl)
      rw [he, Query.isDegraded, bodyDegraded, Bool.or_true]
  | [left] =>
      obtain ⟨e, he⟩ := plain_quantify_invalid [left] h ho (.inr rfl)
      rw [he, Query.isDegraded, bodyDegraded, Bool.or_true]
  | left :: body :: rest =>
      rw [bodyDegraded]
      cases hpath : path? options.chain (left :: body :: rest) with
      | none =>
          obtain ⟨e, he⟩ := plain_quantify_invalid _ h ho (.inl hpath)
          rw [he, Query.isDegraded]
          rfl
      | some path =>
          rw [plain_quantify h ho hpath, Query.isDegraded, isDegraded_read options body]
          rfl

end

mutual

/-- An expression means what its query does. -/
theorem eval_read (options : CompileOptions) (v : Value) (scope : Scope) :
    (Query.read options v).eval scope = eval options v scope := by
  match v with
  | .array (.string token :: operands) =>
      rw [Query.eval_read_node, ← Query.isDegraded_read_node, isDegraded_read, eval]
      cases hreg : options.registry.get? (Token.resolve token).name with
      | some op => rw [Query.plain_custom hreg, Query.eval]
      | none =>
          cases hop : Operator.ofToken? (Token.resolve token).name with
          | none => rw [Query.plain_unknown hreg hop, Query.eval]
          | some op =>
              cases op with
              | combine c =>
                  cases operands with
                  | nil => rw [plain_combine hreg hop]; rfl
                  | cons v vs =>
                      have hcombine : Query.plain options token (v :: vs) =
                          .combine c (Query.readAll options (v :: vs)) := plain_combine hreg hop
                      rw [hcombine, Query.eval, evalAll_readAll options c (v :: vs)]
                      rfl
              | quantify q =>
                  rw [eval_plain_quantify options operands scope hreg hop]
              | _ => rw [eval_plain_test scope hreg hop (by simp) (by simp)]
  | .null | .boolean _ | .integer _ | .float _ | .string _ | .object _ | .array []
  | .array (.null :: _) | .array (.boolean _ :: _) | .array (.integer _ :: _)
  | .array (.float _ :: _) | .array (.array _ :: _) | .array (.object _ :: _) => rfl

theorem evalAll_readAll (options : CompileOptions) (c : Combinator) (vs : List Value)
    (scope : Scope) :
    Query.evalAll c (Query.readAll options vs) scope = evalAll options c vs scope := by
  match vs with
  | [] => rfl
  | v :: vs =>
      have hrest := evalAll_readAll options c vs scope
      rw [Query.readAll, Query.evalAll, evalAll, eval_read options v]
      cases eval options v scope with
      | error e => rfl
      | ok answer => simp only [hrest]

theorem eval_plain_quantify (options : CompileOptions) {token : String} {q : Quantifier}
    (operands : List Value) (scope : Scope)
    (h : options.registry.get? (Token.resolve token).name = none)
    (ho : Operator.ofToken? (Token.resolve token).name = some (.quantify q)) :
    (Query.plain options token operands).eval scope =
      match path? options.chain operands with
      | some path => evalBody options q path operands scope
      | none => .ok false := by
  cases hpath : path? options.chain operands with
  | none =>
      obtain ⟨e, he⟩ := plain_quantify_invalid _ h ho (.inl hpath)
      rw [he, Query.eval]
  | some path =>
      change _ = evalBody options q path operands scope
      match operands with
      | [] =>
          obtain ⟨e, he⟩ := plain_quantify_invalid [] h ho (.inr rfl)
          rw [he, Query.eval, evalBody]
      | [left] =>
          obtain ⟨e, he⟩ := plain_quantify_invalid [left] h ho (.inr rfl)
          rw [he, Query.eval, evalBody]
      | left :: body :: rest =>
          have hbody : (Query.read options body).eval = eval options body := by
            funext inner
            exact eval_read options body inner
          rw [plain_quantify h ho hpath, Query.eval, evalBody, hbody]

end

/-- A lenient program answers for every record at every position as its expression
does, which needs neither a predicate nor a table. -/
theorem compile_lenient_answer (chain : Bool) (registry : Registry) (expr : Value) :
    ∃ p, (Program.compile ⟨chain, false, registry⟩ expr).outcome = .ok p ∧
      ∀ record position,
        p.answer record position =
          eval ⟨chain, false, registry⟩ expr (.ofRecord record position) := by
  refine ⟨_, Program.outcome_compile_lenient chain registry expr, ?_⟩
  intro record position
  rw [Query.answer_program, eval_read]

end Expression

end RecordFilter
