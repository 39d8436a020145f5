import RecordFilter.Proofs.Query.Compiled

/-!
# Evaluating the compiled form of a query

The compiled form of a query answers as the query does, in every table that
holds the literals of the query from its slot on (`Query.eval_predicate`). The
table may hold anything else before and behind them, so the statement passes
from a query to its parts: the literals of a part stand in the same table, at
the slot that the part was compiled for.
-/

namespace RecordFilter

namespace HoistTable

/-- A table holds some literals from a slot on. -/
def Holds (table : HoistTable) (slot : Slot) (literals : HoistTable) : Prop :=
  ∀ i entry, literals[i]? = some entry → table[slot + i]? = some entry

theorem holds_self (table : HoistTable) : table.Holds 0 table := by
  intro i entry h
  rw [Nat.zero_add]
  exact h

theorem Holds.left {table front back : HoistTable} {slot : Slot}
    (h : table.Holds slot (front ++ back)) : table.Holds slot front := by
  intro i entry hi
  have hlt : i < front.length := (List.getElem?_eq_some_iff.1 hi).1
  apply h
  rw [List.getElem?_append_left hlt]
  exact hi

theorem Holds.right {table front back : HoistTable} {slot : Slot}
    (h : table.Holds slot (front ++ back)) : table.Holds (slot + front.length) back := by
  intro i entry hi
  have hsplit : (front ++ back)[front.length + i]? = some entry := by
    rw [List.getElem?_append_right (Nat.le_add_right _ _), Nat.add_sub_cancel_left]
    exact hi
  rw [Nat.add_assoc]
  exact h _ _ hsplit

theorem Holds.head {table : HoistTable} {slot : Slot} {entry : Hoisted}
    (h : table.Holds slot [entry]) : table[slot]? = some entry :=
  h 0 entry rfl

end HoistTable

theorem Test.fetch?_atSlot {table : HoistTable} {slot : Slot} (t : Test (List Value) Pattern)
    (h : table.Holds slot t.hoisted) : (t.atSlot slot).fetch? table = some t.prepare := by
  cases t with
  | member items =>
      simp only [atSlot, fetch?, HoistTable.members?, h.head, Option.map_some, prepare]
  | pattern p =>
      simp only [atSlot, fetch?, HoistTable.pattern?, h.head, Option.map_some, prepare]
  | _ => rfl

theorem Predicate.eval_combineAll (table : HoistTable) (c : Combinator) (ps : List Predicate)
    (scope : Scope) : (combineAll c ps).eval table scope = evalAll table c ps scope := by
  match ps with
  | [] => rfl
  | [p] => rw [combineAll, evalAll_eq_settle, settle_singleton]
  | _ :: _ :: _ => rfl

namespace Query

mutual

theorem eval_predicate {table : HoistTable} (q : Query) (slot : Slot) (scope : Scope)
    (h : table.Holds slot q.hoisted) : (q.predicate slot).eval table scope = q.eval scope := by
  match q with
  | invalid _ => rfl
  | negated _ body =>
      rw [predicate, eval]
      split
      · rfl
      · rw [Predicate.eval, eval_predicate body slot scope h]
  | combine c children =>
      rw [predicate, Predicate.eval_combineAll, eval]
      exact evalAll_predicates children slot c scope h
  | quantify path k body =>
      have hbody : (body.predicate slot).eval table = body.eval := by
        funext inner
        exact eval_predicate body slot inner h
      rw [predicate, Predicate.eval, eval, hbody]
  | test path t =>
      rw [predicate, Predicate.eval, Predicate.evalTest, Test.fetch?_atSlot t h, eval]
  | custom _ _ _ => rfl

theorem evalAll_predicates {table : HoistTable} (qs : List Query) (slot : Slot) (c : Combinator)
    (scope : Scope) (h : table.Holds slot (hoistedAll qs)) :
    Predicate.evalAll table c (predicates slot qs) scope = evalAll c qs scope := by
  match qs with
  | [] => rfl
  | q :: qs =>
      have hq := eval_predicate q slot scope h.left
      have hqs := evalAll_predicates qs (slot + q.hoisted.length) c scope h.right
      rw [predicates, Predicate.evalAll, evalAll, hq]
      cases q.eval scope with
      | error e => rfl
      | ok answer => simp only [hqs]

end

/-- The program of a query answers as the query does. -/
theorem answer_program (q : Query) (record : Value) (position : Position) :
    q.program.answer record position = q.eval (.ofRecord record position) :=
  eval_predicate q 0 _ (HoistTable.holds_self _)

end Query

end RecordFilter
