import Mathlib.Algebra.Group.Int.Defs
import Mathlib.Algebra.Group.Nat.Defs
import RecordFilter.Proofs.Program.Hoisting
import RecordFilter.Proofs.Query.Node

/-!
# Tests of the index

A position is a number of 64 bits without a sign. A path gives it to a test as an integer of
64 bits, which has one: below `2 ^ 63` the integer is the position, and from there on it is
the position less `2 ^ 64` (`toInt_toInt64_position`). Comparisons with whole numbers and
ranges of them (`IndexTest`) are exact about the integer that they are given
(`IndexTest.holds_test`), so they are exact about the position where the two are the same
number, and past that where they cannot tell them apart (`IndexTest.answer_expr`).

All this is the same for records and for rows of columns: the path to the index is placed
nowhere and takes no steps.
-/

namespace RecordFilter

namespace Comparison

def compares : Comparison → Int → Int → Bool
  | eq, a, b => a = b
  | ne, a, b => a ≠ b
  | strictEq, a, b => a = b
  | strictNe, a, b => a ≠ b
  | lt, a, b => a < b
  | le, a, b => a ≤ b
  | gt, a, b => a > b
  | ge, a, b => a ≥ b

theorem holds_integer (op : Comparison) (a b : Int64) :
    op.holds (some (.integer a)) (.integer b) = op.compares a.toInt b.toInt := by
  have horder : order? (some (.integer a)) (.integer b) = some (compare a.toInt b.toInt) := rfl
  have hless : (some (compare a.toInt b.toInt) == some .lt) = decide (a.toInt < b.toInt) := by
    rw [Bool.eq_iff_iff, beq_iff_eq, decide_eq_true_iff, Option.some_inj, Int.compare_eq_lt]
  have hequal : (some (compare a.toInt b.toInt) == some .eq) = decide (a.toInt = b.toInt) := by
    rw [Bool.eq_iff_iff, beq_iff_eq, decide_eq_true_iff, Option.some_inj, Int.compare_eq_eq]
  have hgreater : (some (compare a.toInt b.toInt) == some .gt) = decide (a.toInt > b.toInt) := by
    rw [Bool.eq_iff_iff, beq_iff_eq, decide_eq_true_iff, Option.some_inj, Int.compare_eq_gt]
  cases op with
  | eq | strictEq => exact hequal
  | ne | strictNe => exact (congrArg (! ·) hequal).trans (decide_not).symm
  | lt => exact hless
  | gt => exact hgreater
  | le =>
      rw [holds, horder, hless, hequal, ← Bool.decide_or, compares]
      exact decide_eq_decide.2 Int.le_iff_lt_or_eq.symm
  | ge =>
      rw [holds, horder, hgreater, hequal, ← Bool.decide_or, compares]
      exact decide_eq_decide.2 (by omega)

end Comparison

def Interval.contains : Interval → Int → Int → Int → Bool
  | closed, n, m, a => n ≤ a && a ≤ m
  | openEnds, n, m, a => n < a && a < m
  | closedOpen, n, m, a => n ≤ a && a < m
  | openClosed, n, m, a => n < a && a ≤ m

/-- A comparison of the index with an integer, or a range of integers for it. -/
inductive IndexTest where
  | compare (op : Comparison) (n : Int64)
  | range (interval : Interval) (n m : Int64)

namespace IndexTest

def operator : IndexTest → Operator
  | compare op _ => .compare op
  | range interval _ _ => .range interval

def literal : IndexTest → Value
  | compare _ n => .integer n
  | range _ n m => .array [.integer n, .integer m]

def expr (t : IndexTest) (token : String) : Value :=
  .array [.string token, .string "$i", t.literal]

def test {μ ρ : Type} : IndexTest → Test μ ρ
  | compare op n => .compare op (.integer n)
  | range interval n m => .range interval (.integer n) (.integer m)

def holds : IndexTest → Int → Bool
  | compare op n, a => op.compares a n.toInt
  | range interval n m, a => interval.contains n.toInt m.toInt a

theorem holds_test (t : IndexTest) (a : Int64) :
    (t.test : Test MemberSet Pattern).holds (some (.integer a)) = .ok (t.holds a.toInt) := by
  cases t with
  | compare op n => rw [test, Test.holds, op.holds_integer, holds]
  | range interval n m =>
      rw [test, Test.holds, Comparison.holds_integer, Comparison.holds_integer, holds]
      cases interval <;> rfl

/-- The tokens of the operators are without a negation mark, and no custom operator has one
of them as its name. -/
theorem of_mem_tokens (t : IndexTest) : ∀ token ∈ t.operator.tokens,
    Token.resolve token = ⟨token, false⟩ ∧ Operator.ofToken? token = some t.operator ∧
      Registry.isIdentifier token = false := by
  cases t with
  | compare op n =>
      rw [operator]
      cases op <;> decide
  | range interval n m =>
      rw [operator]
      cases interval <;> decide

theorem read_expr (options : CompileOptions) (t : IndexTest) {token : String}
    (h : token ∈ t.operator.tokens) :
    Query.read options (t.expr token) = .test .index t.test := by
  obtain ⟨hresolve, hoperator, hidentifier⟩ := t.of_mem_tokens token h
  have hregistry : options.registry.get? token = none := by
    rw [Registry.get?, hidentifier]
    rfl
  have hnode : Query.ofNode options (Token.resolve token).name
      ⟨token, [.string "$i", t.literal]⟩ (Query.readAll options [.string "$i", t.literal]) =
        .ok (.test .index t.test) := by
    rw [hresolve, Query.ofNode, hregistry]
    simp only [hoperator]
    cases t <;> rfl
  rw [expr, Query.read_of_ok hnode, hresolve]
  rfl

end IndexTest

/-- The integer that a position is for a test. -/
theorem toInt_toInt64_position (position : Position) :
    position.toInt64.toInt =
      if position.toNat < 2 ^ 63 then (position.toNat : Int)
      else (position.toNat : Int) - 2 ^ 64 := by
  have htoInt : position.toInt64.toInt = position.toBitVec.toInt := rfl
  rw [htoInt, BitVec.toInt_eq_toNat_cond, UInt64.toNat_toBitVec]
  by_cases h : position.toNat < 2 ^ 63
  · rw [if_pos h, if_pos (by omega)]
  · rw [if_neg h, if_neg (by omega)]
    rfl

namespace IndexTest

/-- The programs of a test, over records and over columns, match at a position exactly if
the position compares as the test says. -/
structure MatchesExactly (t : IndexTest) (p : Program) (q : ColumnProgram)
    (position : Position) : Prop where
  record : ∀ record, p.accepts record position = t.holds position.toNat
  source : ∀ (source : Source) record, source position = some record →
    p.acceptsAt source position = t.holds position.toNat
  row : ∀ columns, q.accepts columns position = t.holds position.toNat

section Answer

variable {t : IndexTest} {p : Program} {q : ColumnProgram} {position : Position}

theorem eval_test (t : IndexTest) (table : HoistTable) (scope : Scope) :
    (Predicate.test .index t.test).eval table scope =
      .ok (t.holds scope.index.toInt64.toInt) := by
  have hfetch : (t.test : Test Slot Slot).fetch? table = some t.test := by
    cases t <;> rfl
  rw [Predicate.eval, Predicate.evalTest, hfetch]
  exact t.holds_test _

/-- Programs that ask the test of the integer match exactly if the integer compares like the
position. -/
theorem matchesExactly_iff
    (hp : ∀ record, p.answer record position = .ok (t.holds position.toInt64.toInt))
    (hq : ∀ columns, q.answer columns position = .ok (t.holds position.toInt64.toInt)) :
    t.MatchesExactly p q position ↔
      t.holds position.toInt64.toInt = t.holds position.toNat := by
  have haccepts : ∀ record, p.accepts record position = t.holds position.toInt64.toInt :=
    fun record => congrArg isMatch (hp record)
  constructor
  · intro h
    rw [← haccepts .null]
    exact h.record .null
  · intro h
    refine ⟨fun record => (haccepts record).trans h, fun source record hrecord => ?_,
      fun columns => (congrArg isMatch (hq columns)).trans h⟩
    rw [Program.acceptsAt, hrecord, Option.any_some, haccepts, h]

/-- The integer compares like the position if it is the position, and otherwise if the test
does not tell the two apart. -/
theorem holds_toInt64_iff (t : IndexTest) (position : Position) :
    t.holds position.toInt64.toInt = t.holds position.toNat ↔
      position.toNat < 2 ^ 63 ∨
        t.holds (position.toNat - 2 ^ 64) = t.holds position.toNat := by
  rw [toInt_toInt64_position]
  by_cases h : position.toNat < 2 ^ 63
  · rw [if_pos h]
    exact iff_of_true rfl (.inl h)
  · rw [if_neg h, or_iff_right h]

/-- A test of the index compiles for records and for columns, with any token of its operator,
and answers by the integer that the position is. It is exact below `2 ^ 63`, and past that
at the positions that it does not tell apart from their integers. -/
theorem answer_expr {names : Option (List String)} {layout : Layout}
    (hl : Layout.read names = .ok layout) (options : CompileOptions) (t : IndexTest)
    {token : String} (htoken : token ∈ t.operator.tokens) :
    ∃ p q, (Program.compile options (t.expr token)).outcome = .ok p ∧
      (ColumnProgram.compile names options (t.expr token)).outcome = .ok q ∧
      ∀ position : Position,
        (∀ record, p.answer record position = .ok (t.holds position.toInt64.toInt)) ∧
        (∀ columns, q.answer columns position = .ok (t.holds position.toInt64.toInt)) ∧
        (t.MatchesExactly p q position ↔ position.toNat < 2 ^ 63 ∨
          t.holds (position.toNat - 2 ^ 64) = t.holds position.toNat) := by
  have hread := t.read_expr options htoken
  have hslots : (t.test : Test (List Value) Pattern).atSlot 0 = t.test := by
    cases t <;> rfl
  have hvalid : (Query.read options (t.expr token)).isDegraded = false := by
    rw [hread, Query.isDegraded]
  have hpredicate : (Query.read options (t.expr token)).predicate 0 = .test .index t.test := by
    rw [hread, Query.predicate, hslots]
  have hfits : layout.fits ((Query.read options (t.expr token)).predicate 0) = true := by
    rw [hpredicate]
    rfl
  have himage : Predicate.orNever (layout.image?
      ((Query.read options (t.expr token)).predicate 0)) = .test .index t.test := by
    rw [hpredicate]
    rfl
  refine ⟨_, _, Program.outcome_compile options _ fun _ => hvalid,
    ColumnProgram.outcome_compile hl options _ fun _ => ⟨hvalid, hfits⟩, fun position => ?_⟩
  have hp : ∀ record, (Query.read options (t.expr token)).program.answer record position =
      .ok (t.holds position.toInt64.toInt) := by
    intro record
    rw [Program.answer, Program.eval, Query.program, hpredicate]
    exact t.eval_test _ _
  have hq : ∀ columns, ((Query.read options (t.expr token)).columnProgram layout).answer columns
      position = .ok (t.holds position.toInt64.toInt) := by
    intro columns
    rw [ColumnProgram.answer, Program.eval, Query.columnProgram, himage]
    exact t.eval_test _ _
  exact ⟨hp, hq, (matchesExactly_iff hp hq).trans (t.holds_toInt64_iff position)⟩

/-- A half-open range with the end left out, in a layout with a name. -/
theorem answer_expr_range :
    ∃ p q, (Program.compile ⟨true, true, []⟩ (.array [.string "[)", .string "$i",
          .array [.integer 2, .integer 5]])).outcome = .ok p ∧
      (ColumnProgram.compile (some [".a"]) ⟨true, true, []⟩ (.array [.string "[)",
          .string "$i", .array [.integer 2, .integer 5]])).outcome = .ok q ∧
      (range .closedOpen 2 5).MatchesExactly p q 5 ∧ p.accepts .null 5 = false := by
  have hl : Layout.read (some [".a"]) = .ok ⟨some [[⟨.field "a", false⟩]]⟩ := rfl
  have htoken : "[)" ∈ (range .closedOpen 2 5).operator.tokens := by decide
  obtain ⟨p, q, hp, hq, h⟩ := answer_expr hl ⟨true, true, []⟩ (range .closedOpen 2 5) htoken
  have hexact := (h 5).2.2.2 (.inl (by decide))
  exact ⟨p, q, hp, hq, hexact, hexact.record .null⟩

/-- Position `2 ^ 63` is not less than zero, and is answered as if it were. -/
theorem not_matchesExactly_past :
    ∃ p q, (Program.compile ⟨false, false, []⟩
          (.array [.string ">=", .string "$i", .integer 0])).outcome = .ok p ∧
      (ColumnProgram.compile none ⟨false, false, []⟩
          (.array [.string ">=", .string "$i", .integer 0])).outcome = .ok q ∧
      p.accepts .null 9223372036854775808 = false ∧
      q.accepts [] 9223372036854775808 = false ∧
      (compare .ge 0).holds (9223372036854775808 : Position).toNat = true ∧
      ¬(compare .ge 0).MatchesExactly p q 9223372036854775808 := by
  refine ⟨_, _, rfl, rfl, by decide, by decide, by decide, fun h => ?_⟩
  exact absurd (h.record .null) (by decide)

end Answer

end IndexTest

end RecordFilter
