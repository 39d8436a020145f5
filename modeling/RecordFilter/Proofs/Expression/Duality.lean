import Mathlib.Logic.Relation
import RecordFilter.Proofs.Program.Hoisting
import RecordFilter.Proofs.Query.Duality

/-!
# Pushing negations through an expression

A negation in front of a combinator may be pushed to the children, and one in front of a
quantifier to the body, if the combinator or the quantifier is turned into the dual one;
and it may be pulled out again. `Dual` is one such exchange of a node, and `RewritesTo`
makes it anywhere in an expression: below combinators and quantifiers, negated or not.

Whatever is rewritten, and however often, an expression that compiles with nothing given
up goes on doing so, has the same literals in the same slots, and answers alike for every
record at every position (`compilesTo_rewritten`). A step is checked on the queries that
are read from the two expressions, which are interchangeable
(`interchangeable_of_rewritesTo`). A node without children or without a path may be
rewritten too, but then it is given up before and after.
-/

namespace RecordFilter

namespace Token

/-- A token as it is written, with the negation mark in front if it is negated. -/
def raw (t : Token) : String := if t.negated then "!" ++ t.name else t.name

def node (t : Token) (operands : List Value) : Value := .array (.string t.raw :: operands)

end Token

namespace Combinator

variable (c : Combinator) (negated : Bool)

theorem resolve_raw : Token.resolve (Token.raw ⟨c.symbol, negated⟩) = ⟨c.symbol, negated⟩ := by
  cases c <;> cases negated <;> decide

theorem ofToken?_symbol : Operator.ofToken? c.symbol = some (.combine c) := by
  cases c <;> decide

theorem get?_symbol (registry : Registry) : registry.get? c.symbol = none := by
  have hsymbol : Registry.isIdentifier c.symbol = false := by cases c <;> decide
  rw [Registry.get?, hsymbol]
  rfl

end Combinator

namespace Quantifier

variable (q : Quantifier) (negated : Bool)

theorem resolve_raw : Token.resolve (Token.raw ⟨q.name, negated⟩) = ⟨q.name, negated⟩ := by
  cases q <;> cases negated <;> decide

theorem ofToken?_name : Operator.ofToken? q.name = some (.quantify q) := by
  cases q <;> decide

end Quantifier

namespace Expression

/-- The negation `["!&&", v]` of an expression, which is the only child of a negated
conjunction. -/
def negation (v : Value) : Value := Token.node ⟨Combinator.all.symbol, true⟩ [v]

/-- A negated node, and the dual one with the negation pushed to its parts. The
quantifiers have to be the built-in ones. -/
inductive Dual (options : CompileOptions) : Value → Value → Prop where
  | combine (c : Combinator) (vs : List Value) :
    Dual options (Token.node ⟨c.symbol, true⟩ vs)
      (Token.node ⟨c.dual.symbol, false⟩ (vs.map negation))
  | quantify (q : Quantifier) (left body : Value)
    (hregistry : ∀ q : Quantifier, options.registry.get? q.name = none) :
    Dual options (Token.node ⟨q.name, true⟩ [left, body])
      (Token.node ⟨q.dual.name, false⟩ [left, negation body])

/-- An expression with one negation pushed inwards or pulled outwards, at its root or at
any node below combinators and quantifiers. -/
inductive RewritesTo (options : CompileOptions) : Value → Value → Prop where
  | push {v w : Value} (h : Dual options v w) : RewritesTo options v w
  | pull {v w : Value} (h : Dual options v w) : RewritesTo options w v
  | child {v w : Value} (c : Combinator) (negated : Bool) (front back : List Value)
    (h : RewritesTo options v w) :
    RewritesTo options (Token.node ⟨c.symbol, negated⟩ (front ++ v :: back))
      (Token.node ⟨c.symbol, negated⟩ (front ++ w :: back))
  | body {v w : Value} (q : Quantifier) (negated : Bool) (left : Value) (rest : List Value)
    (h : RewritesTo options v w) :
    RewritesTo options (Token.node ⟨q.name, negated⟩ (left :: v :: rest))
      (Token.node ⟨q.name, negated⟩ (left :: w :: rest))

variable {options : CompileOptions}

section Node

variable {token : String} {operands operands' : List Value}

/-- The query of a node can be exchanged for that of the node without its mark, negated
if the node is marked. The two differ if the node is invalid. -/
theorem interchangeable_plain (options : CompileOptions) (token : String)
    (operands : List Value) :
    (Query.read options (.array (.string token :: operands))).Interchangeable
      (if (Token.resolve token).negated then
        .negated token (Query.plain options token operands)
      else Query.plain options token operands) := by
  cases h : Query.ofNode options (Token.resolve token).name ⟨token, operands⟩
      (Query.readAll options operands) with
  | error e =>
      rw [Query.read_of_error h, Query.plain_of_error h]
      split
      · exact Query.interchangeable_of_isDegraded rfl rfl rfl
      · exact Query.interchangeable_refl _
  | ok q =>
      rw [Query.read_of_ok h, Query.plain_of_ok h]
      exact Query.interchangeable_refl _

theorem interchangeable_read_of_plain
    (h : (Query.plain options token operands).Interchangeable
      (Query.plain options token operands')) :
    (Query.read options (.array (.string token :: operands))).Interchangeable
      (Query.read options (.array (.string token :: operands'))) := by
  refine (interchangeable_plain _ _ _).trans (.trans ?_ (interchangeable_plain _ _ _).symm)
  split
  · exact Query.interchangeable_negated _ _ h
  · exact h

end Node

section Combination

variable (options) (c : Combinator) (negated : Bool)

theorem plain_combination (vs : List Value) :
    Query.plain options (Token.raw ⟨c.symbol, negated⟩) vs =
      if vs.isEmpty then
        .invalid (.malformed (Token.raw ⟨c.symbol, negated⟩)
          "a combinator needs at least one child")
      else .combine c (vs.map (Query.read options)) := by
  rw [← Query.readAll_eq_map]
  apply plain_combine <;> rw [c.resolve_raw]
  · exact c.get?_symbol _
  · exact c.ofToken?_symbol

theorem interchangeable_negation (token : String) (v : Value) :
    (Query.negated token (Query.read options v)).Interchangeable
      (Query.read options (negation v)) := by
  refine .trans ?_ (interchangeable_plain _ _ _).symm
  rw [Combinator.resolve_raw, plain_combination]
  exact Query.interchangeable_negated _ _ (Query.interchangeable_combine_singleton _ _).symm

theorem interchangeable_dual_combination (vs : List Value) :
    (Query.read options (Token.node ⟨c.symbol, true⟩ vs)).Interchangeable
      (Query.read options (Token.node ⟨c.dual.symbol, false⟩ (vs.map negation))) := by
  refine (interchangeable_plain _ _ _).trans (.trans ?_ (interchangeable_plain _ _ _).symm)
  rw [c.resolve_raw, c.dual.resolve_raw, if_pos rfl, if_neg Bool.false_ne_true,
    plain_combination, plain_combination, List.isEmpty_map]
  split
  · exact Query.interchangeable_of_isDegraded rfl rfl rfl
  · -- The negation goes to the queries of the children, and from there into them.
    refine (Query.interchangeable_dual_combine _ c _).trans ?_
    apply Query.interchangeable_combine
    rw [List.map_map, List.map_map, List.forall₂_map_left_iff, List.forall₂_map_right_iff,
      List.forall₂_same]
    intro v _
    exact interchangeable_negation options _ v

theorem interchangeable_child (front back : List Value) {v w : Value}
    (h : (Query.read options v).Interchangeable (Query.read options w)) :
    (Query.read options (Token.node ⟨c.symbol, negated⟩ (front ++ v :: back))).Interchangeable
      (Query.read options (Token.node ⟨c.symbol, negated⟩ (front ++ w :: back))) := by
  apply interchangeable_read_of_plain
  rw [plain_combination, plain_combination, if_neg (by simp), if_neg (by simp)]
  apply Query.interchangeable_combine
  rw [List.map_append, List.map_append]
  have hrest : ∀ qs : List Query, List.Forall₂ Query.Interchangeable qs qs := fun qs =>
    List.forall₂_same.2 fun q _ => Query.interchangeable_refl q
  exact List.rel_append (hrest _) (.cons h (hrest _))

end Combination

section Quantification

variable (q : Quantifier) (negated : Bool) {left : Value} (rest : List Value)

theorem plain_quantification (h : options.registry.get? q.name = none) {path : Path}
    (hpath : path? options.chain [left] = some path) (body : Value) :
    Query.plain options (Token.raw ⟨q.name, negated⟩) (left :: body :: rest) =
      .quantify path q (Query.read options body) := by
  rw [path?_cons options.chain left [] (body :: rest)] at hpath
  apply plain_quantify _ _ hpath <;> rw [q.resolve_raw]
  · exact h
  · exact q.ofToken?_name

theorem plain_quantification_invalid (h : options.registry.get? q.name = none)
    (hpath : path? options.chain [left] = none) (body : Value) :
    ∃ e, Query.plain options (Token.raw ⟨q.name, negated⟩) (left :: body :: rest) =
      .invalid e := by
  rw [path?_cons options.chain left [] (body :: rest)] at hpath
  refine plain_quantify_invalid (q := q) _ ?_ ?_ (.inl hpath) <;> rw [q.resolve_raw]
  · exact h
  · exact q.ofToken?_name

theorem interchangeable_dual_quantification
    (h : ∀ q : Quantifier, options.registry.get? q.name = none) (body : Value) :
    (Query.read options (Token.node ⟨q.name, true⟩ [left, body])).Interchangeable
      (Query.read options (Token.node ⟨q.dual.name, false⟩ [left, negation body])) := by
  refine (interchangeable_plain _ _ _).trans (.trans ?_ (interchangeable_plain _ _ _).symm)
  rw [q.resolve_raw, q.dual.resolve_raw, if_pos rfl, if_neg Bool.false_ne_true]
  cases hpath : path? options.chain [left] with
  | some path =>
      rw [plain_quantification q true _ (h q) hpath,
        plain_quantification q.dual false _ (h q.dual) hpath]
      exact (Query.interchangeable_dual_quantify _ path q _).trans
        (Query.interchangeable_quantify path _ (interchangeable_negation options _ body))
  | none =>
      obtain ⟨e, he⟩ := plain_quantification_invalid q true [] (h q) hpath body
      obtain ⟨e', he'⟩ := plain_quantification_invalid q.dual false [] (h q.dual) hpath
        (negation body)
      rw [he, he']
      exact Query.interchangeable_of_isDegraded rfl rfl rfl

/-- The body of a quantifier may be exchanged. A custom operator of that name does not
look at it. -/
theorem interchangeable_body {v w : Value}
    (h : (Query.read options v).Interchangeable (Query.read options w)) :
    (Query.read options (Token.node ⟨q.name, negated⟩ (left :: v :: rest))).Interchangeable
      (Query.read options (Token.node ⟨q.name, negated⟩ (left :: w :: rest))) := by
  apply interchangeable_read_of_plain
  cases hregistry : options.registry.get? q.name with
  | some op =>
      have hcustom : options.registry.get?
          (Token.resolve (Token.raw ⟨q.name, negated⟩)).name = some op := by
        rw [q.resolve_raw]
        exact hregistry
      rw [Query.plain_custom hcustom, Query.plain_custom hcustom]
      exact Query.interchangeable_refl _
  | none =>
      cases hpath : path? options.chain [left] with
      | some path =>
          rw [plain_quantification q negated rest hregistry hpath,
            plain_quantification q negated rest hregistry hpath]
          exact Query.interchangeable_quantify path q h
      | none =>
          obtain ⟨e, he⟩ := plain_quantification_invalid q negated rest hregistry hpath v
          obtain ⟨e', he'⟩ := plain_quantification_invalid q negated rest hregistry hpath w
          rw [he, he']
          exact Query.interchangeable_of_isDegraded rfl rfl rfl

end Quantification

variable {v w : Value}

theorem interchangeable_of_dual (h : Dual options v w) :
    (Query.read options v).Interchangeable (Query.read options w) := by
  cases h with
  | combine c vs => exact interchangeable_dual_combination options c vs
  | quantify q left body hregistry => exact interchangeable_dual_quantification q hregistry body

/-- One rewriting anywhere in an expression keeps what the expression has to share. -/
theorem interchangeable_of_rewritesTo (h : RewritesTo options v w) :
    (Query.read options v).Interchangeable (Query.read options w) := by
  induction h with
  | push hdual => exact interchangeable_of_dual hdual
  | pull hdual => exact (interchangeable_of_dual hdual).symm
  | child c negated front back _ ih => exact interchangeable_child options c negated front back ih
  | body q negated left rest _ ih => exact interchangeable_body q negated rest ih

theorem interchangeable_of_rewrites (h : Relation.ReflTransGen (RewritesTo options) v w) :
    (Query.read options v).Interchangeable (Query.read options w) := by
  induction h with
  | refl => exact Query.interchangeable_refl _
  | tail _ hstep ih => exact ih.trans (interchangeable_of_rewritesTo hstep)

def CompilesTo (options : CompileOptions) (v : Value) (p : Program) : Prop :=
  (Program.compile options v).outcome = .ok p ∧
    (Query.compileExpression options v 0).2.degraded = 0

/-- An expression compiles in full if its query has no invalid node, and then to the
program of the query. -/
theorem compilesTo_iff {p : Program} : CompilesTo options v p ↔
    (Query.read options v).isDegraded = false ∧ p = (Query.read options v).program := by
  have hcount (h : options.strict = true → (Query.read options v).isDegraded = false) :
      (Query.compileExpression options v 0).2.degraded = 0 ↔
        (Query.read options v).isDegraded = false := by
    rw [Query.compileExpression_apply options v 0 h, Draft.append_eq, ← Bool.not_eq_true,
      ← Query.degraded_draft_pos _ 0, Nat.pos_iff_ne_zero, not_not]
    rfl
  constructor
  · rintro ⟨hp, hdegraded⟩
    have hstrict := fun hs => Program.isDegraded_of_outcome_compile hs hp
    rw [Program.outcome_compile options v hstrict] at hp
    exact ⟨(hcount hstrict).1 hdegraded, (Except.ok.inj hp).symm⟩
  · rintro ⟨hvalid, rfl⟩
    exact ⟨Program.outcome_compile options v fun _ => hvalid, (hcount fun _ => hvalid).2 hvalid⟩

/-- An expression that compiles with nothing given up still does so after any rewriting of
its negations. It has the same table then, and for every record at every position the same
answer or the same fault, save that the fault may name the dual quantifier. -/
theorem compilesTo_rewritten {p : Program} (h : Relation.ReflTransGen (RewritesTo options) v w)
    (hv : CompilesTo options v p) :
    ∃ p', CompilesTo options w p' ∧ p'.table = p.table ∧
      ∀ record position, EvalError.AlikeUpTo EvalError.withoutQuantifier
        (p.answer record position) (p'.answer record position) := by
  have hexchange := interchangeable_of_rewrites h
  obtain ⟨hvalid, rfl⟩ := compilesTo_iff.1 hv
  refine ⟨(Query.read options w).program,
    compilesTo_iff.2 ⟨hexchange.isDegraded_eq.trans hvalid, rfl⟩, hexchange.hoisted_eq, ?_⟩
  intro record position
  rw [Query.answer_program, Query.answer_program]
  exact hexchange.alike hvalid _

/-- In a child a negation is pushed from a quantifier to its body, and there two are pulled
together in front of a disjunction. -/
theorem compilesTo_rewritten_body : ∃ v w,
    v = .array [.string "||", .array [.string "!some", .string ".a", .array [.string "&&",
      .array [.string "!&&", .array [.string "in", .string "$", .array [.integer 1]]],
      .array [.string "!&&", .array [.string "==", .string "$.b", .integer 2]]]]] ∧
    w = .array [.string "||", .array [.string "every", .string ".a", .array [.string "!&&",
      .array [.string "!||", .array [.string "in", .string "$", .array [.integer 1]],
        .array [.string "==", .string "$.b", .integer 2]]]]] ∧
    Relation.ReflTransGen (RewritesTo ⟨false, false, []⟩) v w ∧
    ∃ p, CompilesTo ⟨false, false, []⟩ v p ∧
      ∃ p', CompilesTo ⟨false, false, []⟩ w p' ∧ p'.table = p.table ∧
        ∀ record position, EvalError.AlikeUpTo EvalError.withoutQuantifier
          (p.answer record position) (p'.answer record position) := by
  have hbuiltIn : ∀ q : Quantifier, Registry.get? [] q.name = none := by
    intro q
    cases q <;> rfl
  refine ⟨_, _, rfl, rfl, ?steps, _, ⟨rfl, rfl⟩, compilesTo_rewritten ?steps ⟨rfl, rfl⟩⟩
  apply Relation.ReflTransGen.head
  · exact .child .any false [] [] (.push (.quantify .any _ _ hbuiltIn))
  · apply Relation.ReflTransGen.single
    apply RewritesTo.child .any false [] []
    apply RewritesTo.body .all false
    apply RewritesTo.child .all true [] []
    exact .pull (.combine .any [_, _])

end Expression

end RecordFilter
