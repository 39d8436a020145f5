import RecordFilter.Proofs.Expression.Duality
import RecordFilter.Proofs.Query.Context

/-!
# Nested combinators

How combinators are nested in an expression makes no difference where they mean the same.
A node may be put into any number of combinators of a single child; then the expression
compiles to the very same program, with the same reports on the way. The children of a
conjunction that stands among the children of a conjunction may be moved up to these, and
likewise with disjunctions; then the expression still has the same literals and the same
answers, or cannot be compiled for the same reason. Both hold wherever a node is expected
(`Replaces`), below negations too, and whether or not any of the nodes can be compiled
(`compile_renested`).

The one node and the other are read as queries that compile side by side, and reading and
compiling keep this for the nodes around them (`parallel_of_replaces`).
-/

namespace RecordFilter

/-- The token stands for a built-in operator, with no custom one registered in its
place. -/
structure Token.BuiltIn (options : CompileOptions) (token : String) (op : Operator) : Prop where
  get?_eq_none : options.registry.get? (resolve token).name = none
  ofToken?_eq_some : Operator.ofToken? (resolve token).name = some op

theorem Combinator.builtIn_raw (options : CompileOptions) (c : Combinator) (negated : Bool) :
    Token.BuiltIn options (Token.raw ⟨c.symbol, negated⟩) (.combine c) where
  get?_eq_none := by
    rw [c.resolve_raw]
    exact c.get?_symbol _
  ofToken?_eq_some := by
    rw [c.resolve_raw]
    exact c.ofToken?_symbol

namespace Expression

/-- The second expression is the first one with a node `v` replaced by `w`. Nodes are
expected as children of combinators and as bodies of quantifiers. -/
inductive Replaces (options : CompileOptions) (v w : Value) : Value → Value → Prop where
  | here : Replaces options v w v w
  | child {e e' : Value} {token : String} (c : Combinator)
    (htoken : Token.BuiltIn options token (.combine c)) (front back : List Value)
    (h : Replaces options v w e e') :
    Replaces options v w (.array (.string token :: (front ++ e :: back)))
      (.array (.string token :: (front ++ e' :: back)))
  | body {e e' : Value} {token : String} (q : Quantifier)
    (htoken : Token.BuiltIn options token (.quantify q)) (left : Value) (rest : List Value)
    (h : Replaces options v w e e') :
    Replaces options v w (.array (.string token :: left :: e :: rest))
      (.array (.string token :: left :: e' :: rest))

/-- The expression as the only child of a combinator, that as the only child of another
one, and so on. -/
def layered : List Combinator → Value → Value
  | [], v => v
  | c :: layers, v => Token.node ⟨c.symbol, false⟩ [layered layers v]

/-- A combinator `c` with a combinator `c` among its children, and the same with the
children of that one in its place. Negated may be the outer one only. -/
inductive Splices (options : CompileOptions) : Value → Value → Prop where
  | mk {outer inner : String} (c : Combinator) (front children back : List Value)
    (houter : Token.BuiltIn options outer (.combine c))
    (hinner : Token.BuiltIn options inner (.combine c))
    (hplain : (Token.resolve inner).negated = false) (hne : children ≠ []) :
    Splices options
      (.array (.string outer :: (front ++ .array (.string inner :: children) :: back)))
      (.array (.string outer :: (front ++ (children ++ back))))

variable {options : CompileOptions}

theorem read_combination {token : String} {c : Combinator}
    (htoken : Token.BuiltIn options token (.combine c)) {operands : List Value}
    (hne : operands ≠ []) :
    Query.read options (.array (.string token :: operands)) =
      if (Token.resolve token).negated then
        .negated token (.combine c (operands.map (Query.read options)))
      else .combine c (operands.map (Query.read options)) := by
  rw [read_combine htoken.get?_eq_none htoken.ofToken?_eq_some hne, Query.readAll_eq_map]

/-- A quantifier's node is invalid, for a reason that its body has no part in, or it is the
quantifier of its body. -/
theorem read_quantification {token : String} {q : Quantifier}
    (htoken : Token.BuiltIn options token (.quantify q)) (left : Value) (rest : List Value) :
    (∃ e, ∀ body, Query.read options (.array (.string token :: left :: body :: rest)) =
      .invalid e) ∨
      ∃ path, ∀ body, Query.read options (.array (.string token :: left :: body :: rest)) =
        if (Token.resolve token).negated then
          .negated token (.quantify path q (Query.read options body))
        else .quantify path q (Query.read options body) := by
  cases hpath : Query.pathOf options.chain token (some left) with
  | error e =>
      refine .inl ⟨e, fun body => Query.read_of_error ?_⟩
      rw [Query.ofNode_builtIn htoken.get?_eq_none htoken.ofToken?_eq_some, Query.ofOperator]
      change (Query.pathOf options.chain token (some left) >>= _) = _
      rw [hpath]
      rfl
  | ok path =>
      refine .inr ⟨path, fun body => Query.read_of_ok ?_⟩
      rw [Query.ofNode_builtIn htoken.get?_eq_none htoken.ofToken?_eq_some, Query.ofOperator]
      change (Query.pathOf options.chain token (some left) >>= _) = _
      rw [hpath]
      rfl

section Parallel

variable {R : Predicate → Predicate → Prop} {strict : Bool} {v w e e' : Value}

theorem parallel_of_replaces (hR : Predicate.Congruence R)
    (hnode : Assembly.Parallel .same R ((Query.read options v).compile strict)
      ((Query.read options w).compile strict)) (h : Replaces options v w e e') :
    Assembly.Parallel .same R ((Query.read options e).compile strict)
      ((Query.read options e').compile strict) := by
  induction h with
  | here => exact hnode
  | child c htoken front back _ ih =>
      rw [read_combination htoken (by simp), read_combination htoken (by simp), List.map_append,
        List.map_append, List.map_cons, List.map_cons]
      have hchild := Query.parallel_child hR c (front.map (Query.read options))
        (back.map (Query.read options)) ih
      split
      · exact Query.parallel_negated hR _ hchild
      · exact hchild
  | body q htoken left rest _ ih =>
      rcases read_quantification htoken left rest with ⟨error, hread⟩ | ⟨path, hread⟩
      · rw [hread, hread]
        exact Assembly.parallel_self hR.refl _
      · rw [hread, hread]
        have hbody := Query.parallel_body hR path q ih
        split
        · exact Query.parallel_negated hR _ hbody
        · exact hbody

end Parallel

theorem compile_read_layered (strict : Bool) (layers : List Combinator) (v : Value) :
    (Query.read options (layered layers v)).compile strict =
      (Query.read options v).compile strict := by
  induction layers with
  | nil => rfl
  | cons c layers ih =>
      rw [layered, Token.node, read_combination (c.builtIn_raw options false) (by simp),
        c.resolve_raw, if_neg Bool.false_ne_true, List.map_cons, List.map_nil,
        Query.compile_combine_singleton, ih]

theorem parallel_of_splices (strict : Bool) {v w : Value} (h : Splices options v w) :
    Assembly.Parallel .same Predicate.AnswersAs ((Query.read options v).compile strict)
      ((Query.read options w).compile strict) := by
  cases h with
  | mk c front children back houter hinner hplain hne =>
      have hspliced : front ++ (children ++ back) ≠ [] := by simp [hne]
      rw [read_combination houter (by simp), read_combination houter hspliced, List.map_append,
        List.map_append, List.map_append, List.map_cons, read_combination hinner hne, hplain,
        if_neg Bool.false_ne_true]
      have hparallel := Query.parallel_splice strict c
        (front.map (Query.read options)) (children.map (Query.read options))
        (back.map (Query.read options))
      split
      · exact Query.parallel_negated Predicate.congruence_answersAs _ hparallel
      · exact hparallel

end Expression

theorem Program.outcome_compile_eq (options : CompileOptions) (expr : Value) :
    (compile options expr).outcome =
      ((Query.read options expr).compile options.strict 0).1.map
        (⟨·, ((Query.read options expr).compile options.strict 0).2.hoisted⟩) := by
  rw [compile, Query.compileExpression]
  rcases h : (Query.read options expr).compile options.strict 0 with ⟨e | p, d⟩
  · rw [Assembly.bind_apply_error h]
  · rw [Assembly.bind_apply_ok h, Draft.append_eq]
    exact congrArg (fun table => Except.ok (Program.mk p table)) (List.append_nil _)

/-- The two come to programs with the same literals and the same answers, or to the same
error. -/
structure Compilation.AnswersAs (x y : Compilation Program) : Prop where
  error_iff : ∀ e, y.outcome = .error e ↔ x.outcome = .error e
  ok_of_ok : ∀ p, x.outcome = .ok p → ∃ p', y.outcome = .ok p' ∧ p'.table = p.table ∧
    ∀ record position, p'.answer record position = p.answer record position

theorem Compilation.answersAs_of_parallel {options : CompileOptions} {v w : Value}
    (h : Assembly.Parallel .same Predicate.AnswersAs
      ((Query.read options v).compile options.strict)
      ((Query.read options w).compile options.strict)) :
    (Program.compile options v).AnswersAs (Program.compile options w) := by
  rcases Assembly.parallel_same_iff.1 h 0 with ⟨e, d, hv, hw⟩ | ⟨p, p', d, hv, hw, hp⟩
  · refine ⟨fun e' => ?_, fun p hp => ?_⟩
    · rw [Program.outcome_compile_eq, Program.outcome_compile_eq, hv, hw]
    · rw [Program.outcome_compile_eq, hv] at hp
      cases hp
  · refine ⟨fun e' => ?_, fun q hq => ?_⟩
    · rw [Program.outcome_compile_eq, Program.outcome_compile_eq, hv, hw]
      exact iff_of_false (by simp [Except.map]) (by simp [Except.map])
    · rw [Program.outcome_compile_eq, hv] at hq
      cases hq
      refine ⟨⟨p', d.hoisted⟩, by rw [Program.outcome_compile_eq, hw, Except.map], rfl, ?_⟩
      intro record position
      exact congrFun (hp d.hoisted) _

/-- Wherever a node stands in an expression, it may be put into combinators of a single
child without any effect on what the expression compiles to, over records and over columns.
And the children of a combinator there may be moved up to those of the same combinator
around it without any effect on the literals, the answers, or the error of the
expression. -/
theorem Expression.compile_renested (options : CompileOptions) :
    (∀ layers v e e', Replaces options v (layered layers v) e e' →
      Program.compile options e' = Program.compile options e ∧
        ∀ names, ColumnProgram.compile names options e' =
          ColumnProgram.compile names options e) ∧
      ∀ v w e e', Splices options v w → Replaces options v w e e' →
        (Program.compile options e).AnswersAs (Program.compile options e') := by
  refine ⟨fun layers v e e' h => ?_, fun v w e e' hsplices h => ?_⟩
  · have hnode : Assembly.Parallel .same Eq ((Query.read options v).compile options.strict)
        ((Query.read options (layered layers v)).compile options.strict) := by
      rw [compile_read_layered]
      exact Assembly.parallel_self (fun _ => rfl) _
    have hcompile : Query.compileExpression options e' = Query.compileExpression options e := by
      rw [Query.compileExpression, Query.compileExpression,
        Assembly.eq_of_parallel (parallel_of_replaces Predicate.congruence_eq hnode h)]
    refine ⟨?_, fun names => ?_⟩
    · rw [Program.compile, Program.compile, hcompile]
    · simp only [ColumnProgram.compile, ColumnProgram.compileIn, hcompile]
  · exact Compilation.answersAs_of_parallel
      (parallel_of_replaces Predicate.congruence_answersAs (parallel_of_splices _ hsplices) h)

/-- In the body of a negated quantifier, two layers around a test, and a conjunction among
the children of another one although a child of it cannot be compiled. -/
theorem Expression.compile_renested_body : ∃ v w e e',
    v = .array [.string "&&",
      .array [.string "&&", .array [.string "unknown"],
        .array [.string "in", .string "$", .array [.integer 1]]],
      .array [.string "==", .string "$.b", .integer 2]] ∧
    w = .array [.string "&&", .array [.string "unknown"],
      .array [.string "in", .string "$", .array [.integer 1]],
      .array [.string "==", .string "$.b", .integer 2]] ∧
    e = .array [.string "!some", .string ".a", v] ∧
    e' = .array [.string "!some", .string ".a", layered [.any, .all] v] ∧
    Replaces .default v (layered [.any, .all] v) e e' ∧
    Program.compile .default e' = Program.compile .default e ∧
    Splices .default v w ∧
    Replaces .default v w e (.array [.string "!some", .string ".a", w]) ∧
    (Program.compile .default e).AnswersAs
      (Program.compile .default (.array [.string "!some", .string ".a", w])) := by
  have hsome : Token.BuiltIn .default "!some" (.quantify .any) := ⟨by decide, by decide⟩
  have hand : Token.BuiltIn .default "&&" (.combine .all) := ⟨by decide, by decide⟩
  refine ⟨_, _, _, _, rfl, rfl, rfl, rfl, .body .any hsome _ [] .here, ?_,
    .mk .all [] [_, _] [_] hand hand (by decide) (by simp), .body .any hsome _ [] .here, ?_⟩
  · exact ((compile_renested .default).1 [.any, .all] _ _ _ (.body .any hsome _ [] .here)).1
  · exact (compile_renested .default).2 _ _ _ _
      (.mk .all [] [_, _] [_] hand hand (by decide) (by simp)) (.body .any hsome _ [] .here)

end RecordFilter
