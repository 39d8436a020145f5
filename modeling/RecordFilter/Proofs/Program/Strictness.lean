import RecordFilter.Proofs.Assembly.Lockstep
import RecordFilter.Proofs.Layout.Image
import RecordFilter.Proofs.Query.Node

/-!
# Strict and lenient programs

Strict and lenient compilation of the same expression are in lockstep, over records
and over columns (`strictOf_compile`). So a strict compilation succeeds exactly if the
lenient one warns of nothing, and then the two are the same. Otherwise its error is
the one that the first lenient warning is about. The warning that a negated node never
matches is about no error, but it is never the first.

Compiling an expression and placing the predicate are each in lockstep, and placing
comes after compiling. The order in which a node checks its operands plays no part
here: it is settled when the query is read, which does not depend on strictness.
-/

namespace RecordFilter

namespace Query

theorem read_strict (chain : Bool) (registry : Registry) (v : Value) :
    read ⟨chain, true, registry⟩ v = read ⟨chain, false, registry⟩ v := by
  apply read_map id
  · intro v
    rfl
  · intro e children
    rw [List.map_id]
    rfl

theorem lockstep_hoist (t : Test (List Value) Pattern) :
    Assembly.Lockstep t.hoist t.hoist := by
  apply Assembly.lockstep_self
  intro slot
  rw [t.hoist_apply]
  cases t <;> exact ⟨rfl, rfl⟩

mutual

theorem lockstep_compile (q : Query) :
    Assembly.Lockstep (q.compile true) (q.compile false) := by
  match q with
  | invalid error => exact Assembly.lockstep_degrade error
  | negated token body =>
      rw [compile, compile]
      apply (lockstep_compile body).watch.bind
      rintro ⟨p, degraded⟩ slot d hslot hd
      -- Only a body that was warned about makes the negation warn.
      rw [Assembly.eq_false_of_watch hslot hd]
      exact Assembly.lockstep_pure _
  | combine c children =>
      rw [compile, compile]
      exact (lockstep_compileAll children).map _
  | quantify path k body =>
      rw [compile, compile]
      exact (lockstep_compile body).map _
  | test path t =>
      rw [compile, compile]
      exact (lockstep_hoist t).map _
  | custom name op config => exact Assembly.lockstep_pure _

theorem lockstep_compileAll (qs : List Query) :
    Assembly.Lockstep (compileAll true qs) (compileAll false qs) := by
  match qs with
  | [] => exact Assembly.lockstep_pure []
  | q :: qs =>
      rw [compileAll, compileAll]
      apply (lockstep_compile q).bind
      intro p _ _ _ _
      exact (lockstep_compileAll qs).map _

end

theorem lockstep_compileExpression (chain : Bool) (registry : Registry) (expr : Value) :
    Assembly.Lockstep (compileExpression ⟨chain, true, registry⟩ expr)
      (compileExpression ⟨chain, false, registry⟩ expr) := by
  rw [compileExpression, compileExpression, read_strict]
  apply (lockstep_compile _).bind
  intro root _ _ _ _
  apply Assembly.lockstep_nextSlot.bind
  intro hoisted _ _ _ _
  exact (Assembly.lockstep_emit rfl).map _

end Query

namespace Layout

variable (layout : Layout)

theorem lockstep_placed (path : Path) :
    Assembly.Lockstep (layout.placed path) (layout.placed path) := by
  rw [placed]
  split
  · exact Assembly.lockstep_pure _
  · exact Assembly.lockstep_fail _

mutual

theorem lockstep_place (p : Predicate) :
    Assembly.Lockstep (layout.place true p) (layout.place false p) := by
  match p with
  | .never => exact Assembly.lockstep_pure _
  | .combine c children =>
      rw [place, place]
      exact (lockstep_placeAll children).map _
  | .not body =>
      rw [place, place]
      exact (lockstep_place body).map _
  | .quantify path q body =>
      rw [place, place]
      exact (layout.lockstep_placed path).map _
  | .test path t =>
      rw [place, place]
      exact (layout.lockstep_placed path).map _
  | .custom name op config => exact Assembly.lockstep_fail _

theorem lockstep_placeAll (ps : List Predicate) :
    Assembly.Lockstep (layout.placeAll true ps) (layout.placeAll false ps) := by
  match ps with
  | [] => exact Assembly.lockstep_pure []
  | p :: ps =>
      rw [placeAll, placeAll]
      apply (lockstep_place p).rescue.bind
      intro p _ _ _ _
      exact (lockstep_placeAll ps).map _

end

end Layout

theorem ColumnProgram.lockstep_compileIn (layout : Layout) (named : Nat) (chain : Bool)
    (registry : Registry) (expr : Value) :
    Assembly.Lockstep (compileIn layout named ⟨chain, true, registry⟩ expr)
      (compileIn layout named ⟨chain, false, registry⟩ expr) := by
  rw [compileIn, compileIn]
  apply (Query.lockstep_compileExpression chain registry expr).bind
  intro root _ _ _ _
  apply (layout.lockstep_place root).rescue.bind
  intro root _ _ _ _
  exact (Assembly.lockstep_emit rfl).map _

namespace Compilation

structure StrictOf {α : Type} (strict lenient : Compilation α) : Prop where
  lenient_ok : ∃ p, lenient.outcome = .ok p
  ok_iff : (∃ p, strict.outcome = .ok p) ↔ ∀ event ∈ lenient.events, event.isWarning = false
  eq_of_ok : (∃ p, strict.outcome = .ok p) → strict = lenient
  error_eq : ∀ event, lenient.events.find? Event.isWarning = some event →
    ∃ e, event = .neverMatches e ∧ strict.outcome = .error e

/-- Assemblies in lockstep come out as strict and lenient compilations do, whatever is
made of the predicate and the literals that they come to. -/
theorem strictOf_of_lockstep {α : Type} {x y : Assembly Predicate}
    (h : Assembly.Lockstep x y) (hok : ∃ p, (y 0).1 = .ok p)
    (program : Predicate → HoistTable → α) :
    StrictOf ⟨(x 0).1.map (program · (x 0).2.hoisted), (x 0).2.events⟩
      ⟨(y 0).1.map (program · (y 0).2.hoisted), (y 0).2.events⟩ := by
  rcases hy : y 0 with ⟨r, d⟩
  rw [hy] at hok
  obtain ⟨p, rfl⟩ : ∃ p, r = .ok p := hok
  cases hd : d.warning? with
  | none =>
      have hquiet : ∀ event ∈ d.events, event.isWarning = false := by
        simpa [Draft.warning?, List.find?_eq_none] using hd
      rw [(h.quiet 0 _ _ hy hd).1]
      refine ⟨⟨_, rfl⟩, iff_of_true ⟨_, rfl⟩ hquiet, fun _ => rfl, ?_⟩
      intro event hevent
      rw [Draft.warning?] at hd
      rw [hd] at hevent
      cases hevent
  | some first =>
      obtain ⟨e, d', rfl, hx⟩ := h.warned 0 _ _ first hy hd
      have hstopped : ¬ ∃ q, (x 0).1.map (program · (x 0).2.hoisted) = .ok q := by
        rintro ⟨q, hq⟩
        rw [hx] at hq
        cases hq
      refine ⟨⟨_, rfl⟩, iff_of_false hstopped ?_, fun hq => absurd hq hstopped, ?_⟩
      · intro hquiet
        have hwarning := List.find?_some hd
        rw [hquiet _ (List.mem_of_find?_eq_some hd)] at hwarning
        cases hwarning
      · intro event hevent
        rw [Draft.warning?, hevent] at hd
        cases hd
        exact ⟨e, rfl, by rw [hx, Except.map]⟩

/-- Strict and lenient compilation agree up to the first warning, over records and over
columns with valid names or without names. -/
theorem strictOf_compile (names : Option (List String)) (chain : Bool) (registry : Registry)
    (expr : Value) :
    (Program.compile ⟨chain, true, registry⟩ expr).StrictOf
        (Program.compile ⟨chain, false, registry⟩ expr) ∧
      ∀ layout, Layout.read names = .ok layout →
        (ColumnProgram.compile names ⟨chain, true, registry⟩ expr).StrictOf
          (ColumnProgram.compile names ⟨chain, false, registry⟩ expr) := by
  constructor
  · refine strictOf_of_lockstep (Query.lockstep_compileExpression chain registry expr) ?_
      Program.mk
    rw [Query.compileExpression_apply _ _ _ (by simp)]
    exact ⟨_, rfl⟩
  · intro layout hl
    have hok : ∃ p, (ColumnProgram.compileIn layout ((names.map List.length).getD 0)
        ⟨chain, false, registry⟩ expr 0).1 = .ok p := by
      obtain ⟨d, hd, -⟩ := ColumnProgram.compileIn_apply layout
        ((names.map List.length).getD 0) ⟨chain, false, registry⟩ expr (by simp)
      exact ⟨_, by rw [hd]⟩
    rw [ColumnProgram.compile, ColumnProgram.compile, hl]
    exact strictOf_of_lockstep (ColumnProgram.lockstep_compileIn layout _ chain registry expr)
      hok fun root table => ColumnProgram.mk ⟨root, table⟩

/-- A conjunction below a negation, a part of which has no column: the lenient program
warns of the part alone, and the strict compilation stops there. -/
theorem strictOf_compile_unmapped :
    ∃ layout, Layout.read (some [".a"]) = .ok layout ∧
      (ColumnProgram.compile (some [".a"]) ⟨false, true, []⟩ (.array [.string "!&&",
          .array [.string "==", .string ".a", .integer 1],
          .array [.string "==", .string ".b.c", .integer 1]])).StrictOf
        (ColumnProgram.compile (some [".a"]) ⟨false, false, []⟩ (.array [.string "!&&",
          .array [.string "==", .string ".a", .integer 1],
          .array [.string "==", .string ".b.c", .integer 1]])) ∧
      (ColumnProgram.compile (some [".a"]) ⟨false, true, []⟩ (.array [.string "!&&",
          .array [.string "==", .string ".a", .integer 1],
          .array [.string "==", .string ".b.c", .integer 1]])).outcome =
        .error (.unmappedColumn ⟨.record, [⟨.field "b", false⟩, ⟨.field "c", false⟩]⟩) := by
  obtain ⟨layout, hl⟩ : ∃ layout, Layout.read (some [".a"]) = .ok layout := ⟨_, rfl⟩
  have hstrict := (strictOf_compile (some [".a"]) false [] (.array [.string "!&&",
    .array [.string "==", .string ".a", .integer 1],
    .array [.string "==", .string ".b.c", .integer 1]])).2 layout hl
  obtain ⟨e, he, herror⟩ := hstrict.error_eq _ rfl
  cases he
  exact ⟨layout, hl, hstrict, herror⟩

end Compilation

end RecordFilter
