import RecordFilter.Proofs.Layout.Image
import RecordFilter.Proofs.Query.Simulation

/-!
# Images and the place of their literals

A query is compiled for some slot and its literals stand in some table from this slot
on. Which slot and which table this is makes no difference to the answers of the
predicate, also after it was placed in a layout (`map_eval_image?_predicate`). So the
part of an expression answers in the table of the whole as it does on its own.

For the predicate itself this was seen by way of the query, which needs no table. That
way is not open here, because what is left of a query in a layout is not a query: where
a node has no place, it depends on the combinators around it how much is given up.
-/

namespace RecordFilter

theorem Layout.orNever_image?_combineAll (layout : Layout) (c : Combinator)
    (ps : List Predicate) :
    Predicate.orNever (layout.image? (.combineAll c ps)) = .combineAll c (layout.images ps) := by
  match ps with
  | [] => rfl
  | [_] => rfl
  | _ :: _ :: _ => rfl

theorem Predicate.eval_orNever_congr {table table' : HoistTable}
    {x y : Except CompileError Predicate} (h : x.map (eval table) = y.map (eval table')) :
    (orNever x).eval table = (orNever y).eval table' := by
  cases x with
  | error e =>
      cases y with
      | error e' => rfl
      | ok q => cases h
  | ok p =>
      cases y with
      | error e' => cases h
      | ok q => exact Except.ok.inj h

theorem Predicate.map_eval_map_not (table : HoistTable) (x : Except CompileError Predicate) :
    (x.map Predicate.not).map (eval table) =
      (x.map (eval table)).map fun ask scope => (ask scope).map (! ·) := by
  cases x <;> rfl

namespace Query

variable (layout : Layout)

mutual

/-- The image of a query has the same answers wherever the literals of the query
stand. -/
theorem map_eval_image?_predicate (q : Query) {table table' : HoistTable} {slot slot' : Slot}
    (h : table.Holds slot q.hoisted) (h' : table'.Holds slot' q.hoisted) :
    (layout.image? (q.predicate slot)).map (Predicate.eval table) =
      (layout.image? (q.predicate slot')).map (Predicate.eval table') := by
  match q with
  | invalid _ => rfl
  | negated _ body =>
      rw [predicate, predicate]
      split
      · rfl
      · rw [Layout.image?, Layout.image?, Predicate.map_eval_map_not,
          Predicate.map_eval_map_not, map_eval_image?_predicate body h h']
  | combine _ [] => rfl
  -- A single child stands for the combinator, so it may be missing as a whole.
  | combine _ [q] => exact map_eval_image?_predicate q h.left h'.left
  | combine c (q :: r :: qs) =>
      apply congrArg Except.ok
      funext scope
      exact (evalAll_images_predicates c (q :: r :: qs) h scope).trans
        (evalAll_images_predicates c (q :: r :: qs) h' scope).symm
  | quantify path k body =>
      have hbody : (body.predicate slot).eval table = (body.predicate slot').eval table' := by
        funext scope
        rw [eval_predicate body slot scope h, eval_predicate body slot' scope h']
      rw [predicate, predicate, Layout.image?, Layout.image?]
      cases layout.placePath path with
      | error e => rfl
      | ok path' =>
          apply congrArg Except.ok
          funext scope
          rw [Predicate.eval, Predicate.eval, hbody]
  | test path t =>
      rw [predicate, predicate, Layout.image?, Layout.image?]
      cases layout.placePath path with
      | error e => rfl
      | ok path' =>
          apply congrArg Except.ok
          funext scope
          rw [Predicate.eval, Predicate.eval, Predicate.evalTest, Predicate.evalTest,
            Test.fetch?_atSlot t h, Test.fetch?_atSlot t h']
  | custom _ _ _ => rfl

/-- The images of some queries, one after the other in a table, are asked what the
queries answer as programs of their own. -/
theorem evalAll_images_predicates (c : Combinator) (qs : List Query) {table : HoistTable}
    {slot : Slot} (h : table.Holds slot (hoistedAll qs)) (scope : Scope) :
    Predicate.evalAll table c (layout.images (predicates slot qs)) scope =
      settle c.neutral (fun q => (q.columnProgram layout).program.eval scope) qs := by
  match qs with
  | [] => rfl
  | q :: qs =>
      have hq : (Predicate.orNever (layout.image? (q.predicate slot))).eval table =
          (q.columnProgram layout).program.eval :=
        Predicate.eval_orNever_congr
          (map_eval_image?_predicate q h.left (HoistTable.holds_self q.hoisted))
      rw [predicates, Layout.images, Predicate.evalAll_cons, settle_cons, hq,
        evalAll_images_predicates c qs h.right scope]

end

theorem eval_columnProgram_combine (c : Combinator) (qs : List Query) (scope : Scope) :
    ((combine c qs).columnProgram layout).program.eval scope =
      settle c.neutral (fun q => (q.columnProgram layout).program.eval scope) qs := by
  rw [columnProgram, Program.eval, predicate, Layout.orNever_image?_combineAll,
    Predicate.eval_combineAll]
  exact evalAll_images_predicates layout c qs (HoistTable.holds_self _) scope

end Query

end RecordFilter
