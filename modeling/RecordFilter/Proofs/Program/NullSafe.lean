import RecordFilter.Proofs.Assembly.Parallel
import RecordFilter.Proofs.Layout.Image
import RecordFilter.Proofs.Query.NullSafe

/-!
# Programs with null-safe chains

An expression compiles with null-safe chains exactly if it does without, and then to the
same program with null-safe paths (`chainedOf_compile`). The same nodes are given up, and
the literals are the same. The one program never accesses null, and wherever the other
one does not either, the two have the same answer. All of this holds over records and
over columns, strict or not.

The two compilations run in parallel. Their errors and their warnings differ in the path
that they name, and one of them reports that chains are null-safe (`Recast.nullSafe`).

Placing a predicate in a layout compares the keys of steps alone, so a null-safe path has
the same column and leaves the same steps, which are null-safe as well.
-/

namespace RecordFilter

open CompileError

/-- The event as null-safe chains let it happen. -/
def Event.nullSafe : Event → Event
  | neverMatches e => neverMatches e.nullSafe
  | compiled nodes literals _ => compiled nodes literals true
  | event => event

def Recast.nullSafe : Recast := ⟨CompileError.nullSafe, Event.nullSafe, fun _ => rfl⟩

namespace Query

theorem parallel_hoist (t : Test (List Value) Pattern) :
    Assembly.Parallel .nullSafe Eq t.hoist t.hoist := by
  intro slot
  rw [t.hoist_apply]
  refine .inr ⟨_, _, _, rfl, ?_, rfl⟩
  cases t <;> rfl

mutual

theorem parallel_compile (strict : Bool) (q : Query) :
    Assembly.Parallel .nullSafe (fun a b => b = a.nullSafe) (q.compile strict)
      (q.nullSafe.compile strict) := by
  match q with
  | invalid error =>
      apply Assembly.parallel_degrade
      rfl
  | negated token body =>
      rw [nullSafe, compile, compile]
      apply (parallel_compile strict body).watch.bind
      rintro ⟨p, degraded⟩ ⟨_, _⟩ ⟨rfl, rfl⟩
      cases degraded with
      | true =>
          exact (Assembly.parallel_emit (.negatedNeverMatches token)).bind fun _ _ _ =>
            Assembly.parallel_pure rfl
      | false => exact Assembly.parallel_pure rfl
  | combine c children =>
      rw [nullSafe, compile, compile]
      exact (parallel_compileAll strict children).map_image fun ps =>
        (Predicate.nullSafe_combineAll c ps).symm
  | quantify path k body =>
      rw [nullSafe, compile, compile]
      exact (parallel_compile strict body).map_image fun _ => rfl
  | test path t =>
      rw [nullSafe, compile, compile]
      apply (parallel_hoist t).map
      rintro _ _ rfl
      rfl
  | custom name op config => exact Assembly.parallel_pure rfl

theorem parallel_compileAll (strict : Bool) (qs : List Query) :
    Assembly.Parallel .nullSafe (fun as bs => bs = Predicate.nullSafeAll as)
      (compileAll strict qs) (compileAll strict (nullSafeAll qs)) := by
  match qs with
  | [] => exact Assembly.parallel_pure rfl
  | q :: qs =>
      rw [nullSafeAll, compileAll, compileAll]
      apply (parallel_compile strict q).bind
      rintro p _ rfl
      exact (parallel_compileAll strict qs).map_image fun _ => rfl

end

theorem parallel_compileExpression_true (chain strict : Bool) (registry : Registry)
    (expr : Value) :
    Assembly.Parallel .nullSafe (fun a b => b = a.nullSafe)
      (compileExpression ⟨chain, strict, registry⟩ expr)
      (compileExpression ⟨true, strict, registry⟩ expr) := by
  rw [compileExpression, compileExpression, read_true chain]
  apply (parallel_compile strict _).bind
  rintro root _ rfl
  rw [root.size_nullSafe]
  apply Assembly.parallel_nextSlot.bind
  rintro slot _ rfl
  apply (Assembly.parallel_emit (.compiled root.size slot chain)).bind
  intro _ _ _
  exact Assembly.parallel_pure rfl

end Query

namespace Layout

theorem leads_map_nullSafe (name steps : List Step) :
    leads name (steps.map Step.nullSafe) = leads name steps := by
  have hkeys : (steps.map Step.nullSafe).map Step.key = steps.map Step.key := by
    rw [List.map_map]
    rfl
  rw [Bool.eq_iff_iff, leads_iff, leads_iff, hkeys]

theorem longest?_map_nullSafe (steps : List Step) (column : Nat) (names : List (List Step)) :
    longest? (steps.map Step.nullSafe) column names = longest? steps column names := by
  induction names generalizing column with
  | nil => rfl
  | cons name rest ih => rw [longest?, longest?, ih, leads_map_nullSafe]

theorem column?_map_nullSafe (layout : Layout) (steps : List Step) :
    layout.column? (steps.map Step.nullSafe) = layout.column? steps := by
  rcases layout with ⟨names⟩
  cases names with
  | some names => exact longest?_map_nullSafe steps 0 names
  | none =>
      match steps with
      | [] => rfl
      | ⟨.field _, _⟩ :: _ => rfl
      | ⟨.index _, _⟩ :: _ => rfl

theorem placePath_nullSafe (layout : Layout) (path : Path) :
    layout.placePath path.nullSafe = mapNullSafe Path.nullSafe (layout.placePath path) := by
  rcases path with ⟨root, steps⟩
  match root, steps with
  | .index, _ => rfl
  | .column _, _ => rfl
  | .record, [] => rfl
  | .record, s :: steps =>
      have hcolumn := layout.column?_map_nullSafe (s :: steps)
      rw [List.map_cons] at hcolumn
      rw [Path.nullSafe, List.map_cons, placePath, placePath, hcolumn]
      · cases layout.column? (s :: steps) with
        | none => rfl
        | some place =>
            rcases place with ⟨column, used⟩
            simp only [mapNullSafe, Path.nullSafe, List.map_drop, List.map_cons]
      · simp
      · simp

theorem parallel_placed_nullSafe (layout : Layout) (path : Path) :
    Assembly.Parallel .nullSafe (fun a b => b = a.nullSafe) (layout.placed path)
      (layout.placed path.nullSafe) := by
  rw [placed, placed, placePath_nullSafe]
  cases layout.placePath path with
  | error e => exact Assembly.parallel_fail e
  | ok path' => exact Assembly.parallel_pure rfl

mutual

theorem parallel_place_nullSafe (layout : Layout) (strict : Bool) (p : Predicate) :
    Assembly.Parallel .nullSafe (fun a b => b = a.nullSafe) (layout.place strict p)
      (layout.place strict p.nullSafe) := by
  match p with
  | .never => exact Assembly.parallel_pure rfl
  | .combine c children =>
      rw [Predicate.nullSafe, place, place]
      exact (parallel_placeAll_nullSafe layout strict children).map_image fun _ => rfl
  | .not body =>
      rw [Predicate.nullSafe, place, place]
      exact (parallel_place_nullSafe layout strict body).map_image fun _ => rfl
  | .quantify path q body =>
      rw [Predicate.nullSafe, place, place]
      exact (layout.parallel_placed_nullSafe path).map_image fun _ => rfl
  | .test path t =>
      rw [Predicate.nullSafe, place, place]
      exact (layout.parallel_placed_nullSafe path).map_image fun _ => rfl
  | .custom name op config => exact Assembly.parallel_fail _

theorem parallel_placeAll_nullSafe (layout : Layout) (strict : Bool) (ps : List Predicate) :
    Assembly.Parallel .nullSafe (fun as bs => bs = Predicate.nullSafeAll as)
      (layout.placeAll strict ps) (layout.placeAll strict (Predicate.nullSafeAll ps)) := by
  match ps with
  | [] => exact Assembly.parallel_pure rfl
  | p :: ps =>
      rw [Predicate.nullSafeAll, placeAll, placeAll]
      apply ((parallel_place_nullSafe layout strict p).rescue rfl strict).bind
      rintro p _ rfl
      exact (parallel_placeAll_nullSafe layout strict ps).map_image fun _ => rfl

end

theorem nullSafe_of_readName_error {name : String} {e : CompileError}
    (h : readName name = .error e) : e.nullSafe = e := by
  unfold readName at h
  split at h
  · cases h
  · cases h
    rfl

theorem nullSafe_of_mapM_readName_error {names : List String} {e : CompileError}
    (h : names.mapM readName = .error e) : e.nullSafe = e := by
  induction names with
  | nil => cases h
  | cons name rest ih =>
      rw [List.mapM_cons] at h
      cases hname : readName name with
      | error e' =>
          rw [hname] at h
          cases h
          exact nullSafe_of_readName_error hname
      | ok steps =>
          cases hrest : rest.mapM readName with
          | error e' =>
              rw [hname, hrest] at h
              cases h
              exact ih hrest
          | ok columns =>
              rw [hname, hrest] at h
              cases h

/-- Chains have no part in reading a layout, not even in its errors. -/
theorem nullSafe_of_read_error {names : Option (List String)} {e : CompileError}
    (h : read names = .error e) : e.nullSafe = e := by
  cases names with
  | none => cases h
  | some names =>
      cases hnames : names.mapM readName with
      | error e' =>
          rw [read, hnames] at h
          cases h
          exact nullSafe_of_mapM_readName_error hnames
      | ok columns =>
          rw [read, hnames] at h
          cases h

end Layout

theorem ColumnProgram.parallel_compileIn_true (layout : Layout) (named : Nat)
    (chain strict : Bool) (registry : Registry) (expr : Value) :
    Assembly.Parallel .nullSafe (fun a b => b = a.nullSafe)
      (compileIn layout named ⟨chain, strict, registry⟩ expr)
      (compileIn layout named ⟨true, strict, registry⟩ expr) := by
  rw [compileIn, compileIn]
  apply (Query.parallel_compileExpression_true chain strict registry expr).bind
  rintro root _ rfl
  apply ((layout.parallel_place_nullSafe strict root).rescue rfl strict).bind
  rintro root _ rfl
  apply (Assembly.parallel_emit (.placed named)).bind
  intro _ _ _
  exact Assembly.parallel_pure rfl

/-- A program that is another one with null-safe paths, and that guards it in every
scope, those of records as well as those of rows. -/
structure Program.Guards (guarded plain : Program) : Prop where
  table_eq : guarded.table = plain.table
  root_eq : guarded.root = plain.root.nullSafe
  guards_eval : ∀ scope, EvalError.Guards (guarded.eval scope) (plain.eval scope)

theorem Program.guards_nullSafe (root : Predicate) (table : HoistTable) :
    Guards ⟨root.nullSafe, table⟩ ⟨root, table⟩ where
  table_eq := rfl
  root_eq := rfl
  guards_eval := root.guards_eval table

namespace Compilation

/-- How a compilation with null-safe chains comes out beside one without of the same
input: both come to programs, or to the same error but for the path that it names. -/
structure ChainedOf {α : Type} (Guards : α → α → Prop) (chained plain : Compilation α) :
    Prop where
  ok_of_ok : ∀ p, plain.outcome = .ok p → ∃ q, chained.outcome = .ok q ∧ Guards q p
  error_of_error : ∀ e, plain.outcome = .error e → chained.outcome = .error e.nullSafe
  events_eq : chained.events = plain.events.map Event.nullSafe

theorem chainedOf_of_parallel {α : Type} {x y : Assembly Predicate}
    (h : Assembly.Parallel .nullSafe (fun a b => b = a.nullSafe) x y)
    (program : Predicate → HoistTable → α) {Guards : α → α → Prop}
    (hguards : ∀ root table, Guards (program root.nullSafe table) (program root table)) :
    ChainedOf Guards ⟨(y 0).1.map (program · (y 0).2.hoisted), (y 0).2.events⟩
      ⟨(x 0).1.map (program · (x 0).2.hoisted), (x 0).2.events⟩ := by
  rcases h 0 with ⟨e, d, hx, hy⟩ | ⟨root, _, d, hx, hy, rfl⟩
  · rw [hx, hy]
    refine ⟨fun p hp => ?_, fun e' he => ?_, rfl⟩
    · cases hp
    · cases he
      rfl
  · rw [hx, hy]
    refine ⟨fun p hp => ?_, fun e he => ?_, rfl⟩
    · cases hp
      exact ⟨_, rfl, hguards root d.hoisted⟩
    · cases he

/-- Null-safe chains change neither whether an expression compiles, nor what is given
up, nor the literals, nor any answer but those that access null. -/
theorem chainedOf_compile (names : Option (List String)) (strict : Bool) (registry : Registry)
    (expr : Value) :
    (Program.compile ⟨true, strict, registry⟩ expr).ChainedOf Program.Guards
        (Program.compile ⟨false, strict, registry⟩ expr) ∧
      (ColumnProgram.compile names ⟨true, strict, registry⟩ expr).ChainedOf
        (fun q p => q.program.Guards p.program)
        (ColumnProgram.compile names ⟨false, strict, registry⟩ expr) := by
  constructor
  · exact chainedOf_of_parallel (Query.parallel_compileExpression_true false strict registry expr)
      Program.mk Program.guards_nullSafe
  · rw [ColumnProgram.compile, ColumnProgram.compile]
    cases hl : Layout.read names with
    | error e =>
        refine ⟨fun p hp => ?_, fun e' he => ?_, rfl⟩
        · cases hp
        · cases he
          exact congrArg Except.error (Layout.nullSafe_of_read_error hl).symm
    | ok layout =>
        exact chainedOf_of_parallel
          (ColumnProgram.parallel_compileIn_true layout _ false strict registry expr)
          (fun root table => ColumnProgram.mk ⟨root, table⟩) Program.guards_nullSafe

end Compilation

end RecordFilter
