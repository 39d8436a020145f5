import RecordFilter.Program.Basic
import RecordFilter.Query.Meaning

/-!
# What a query compiles to

Compilation threads the first free slot through the parts of a query. Its
outcome can be said without doing so: `hoisted` lists the literals of a query,
which do not depend on the slot, and `predicate slot` is the compiled form if
these literals are put into the table from `slot` on. `draft slot` is all that a
lenient compilation contributes.

`compile_apply` ties the three to `Query.compile`: this is the outcome of a
compilation that is lenient or meets no invalid node. A strict compilation of any
other query stops with an error (`compile_strict_of_isDegraded`).
-/

namespace RecordFilter

theorem Assembly.map_apply {α β : Type} {x : Assembly α} {slot : Slot}
    {r : Except CompileError α} {d : Draft} (h : x slot = (r, d)) (f : α → β) :
    (x >>= fun a => pure (f a)) slot = (r.map f, d) := by
  cases r with
  | error e => rw [bind_apply_error h, Except.map]
  | ok a => rw [bind_apply_ok h, pure_apply, Draft.append_empty, Except.map]

namespace Test

def hoisted : Test (List Value) Pattern → HoistTable
  | member items => [.members (.ofItems items)]
  | pattern p => [.pattern p]
  | _ => []

def atSlot (slot : Slot) : Test (List Value) Pattern → Test Slot Slot
  | compare op literal => compare op literal
  | range interval min max => range interval min max
  | truthy => truthy
  | falsy => falsy
  | member _ => member slot
  | text op needle => text op needle
  | pattern _ => pattern slot
  | type t => type t

def draft (slot : Slot) (t : Test (List Value) Pattern) : Draft :=
  ⟨t.hoisted, t.hoisted.map fun _ => .hoisted slot, 0⟩

theorem hoist_apply (t : Test (List Value) Pattern) (slot : Slot) :
    t.hoist slot = (.ok (t.atSlot slot), t.draft slot) := by
  cases t <;> rfl

end Test

namespace Query

mutual

def hoisted : Query → HoistTable
  | invalid _ => []
  | negated _ body => body.hoisted
  | combine _ children => hoistedAll children
  | quantify _ _ body => body.hoisted
  | test _ t => t.hoisted
  | custom _ _ _ => []

def hoistedAll : List Query → HoistTable
  | [] => []
  | q :: qs => q.hoisted ++ hoistedAll qs

end

mutual

def predicate (slot : Slot) : Query → Predicate
  | invalid _ => .never
  | negated _ body => if body.isDegraded then .never else .not (body.predicate slot)
  | combine c children => .combineAll c (predicates slot children)
  | quantify path q body => .quantify path q (body.predicate slot)
  | test path t => .test path (t.atSlot slot)
  | custom name op config => .custom name op config

/-- The compiled forms of some queries, each with its literals behind those of
the queries in front of it. -/
def predicates (slot : Slot) : List Query → List Predicate
  | [] => []
  | q :: qs => q.predicate slot :: predicates (slot + q.hoisted.length) qs

end

@[simp] theorem length_predicates (slot : Slot) (qs : List Query) :
    (predicates slot qs).length = qs.length := by
  induction qs generalizing slot with
  | nil => rfl
  | cons q qs ih => rw [predicates, List.length_cons, List.length_cons, ih]

mutual

def draft (slot : Slot) : Query → Draft
  | invalid error => ⟨[], [.neverMatches error], 1⟩
  | negated token body =>
    if body.isDegraded then body.draft slot ++ ⟨[], [.negatedNeverMatches token], 0⟩
    else body.draft slot
  | combine _ children => drafts slot children
  | quantify _ _ body => body.draft slot
  | test _ t => t.draft slot
  | custom _ _ _ => .empty

def drafts (slot : Slot) : List Query → Draft
  | [] => .empty
  | q :: qs => q.draft slot ++ drafts (slot + q.hoisted.length) qs

end

mutual

@[simp] theorem hoisted_draft (q : Query) (slot : Slot) : (q.draft slot).hoisted = q.hoisted := by
  match q with
  | invalid _ => rfl
  | negated _ body =>
      have h := hoisted_draft body slot
      rw [draft, hoisted]
      split
      · rw [Draft.append_eq, h, List.append_nil]
      · exact h
  | combine _ children => exact hoisted_drafts children slot
  | quantify _ _ body => exact hoisted_draft body slot
  | test _ _ => rfl
  | custom _ _ _ => rfl

@[simp] theorem hoisted_drafts (qs : List Query) (slot : Slot) :
    (drafts slot qs).hoisted = hoistedAll qs := by
  match qs with
  | [] => rfl
  | q :: qs =>
      rw [drafts, hoistedAll, Draft.append_eq, hoisted_draft q, hoisted_drafts qs]

end

mutual

/-- A node is given up in a query exactly if one of its nodes is invalid. -/
theorem degraded_draft_pos (q : Query) (slot : Slot) :
    0 < (q.draft slot).degraded ↔ q.isDegraded = true := by
  match q with
  | invalid _ => simp [draft, isDegraded]
  | negated _ body =>
      have h := degraded_draft_pos body slot
      rw [draft, isDegraded]
      split
      · rw [Draft.append_eq]
        exact h
      · exact h
  | combine _ children => exact degraded_drafts_pos children slot
  | quantify _ _ body => exact degraded_draft_pos body slot
  | test _ _ => simp [draft, Test.draft, isDegraded]
  | custom _ _ _ => simp [draft, Draft.empty, isDegraded]

theorem degraded_drafts_pos (qs : List Query) (slot : Slot) :
    0 < (drafts slot qs).degraded ↔ anyDegraded qs = true := by
  match qs with
  | [] => simp [drafts, Draft.empty, anyDegraded]
  | q :: qs =>
      have hq := degraded_draft_pos q slot
      have hqs := degraded_drafts_pos qs (slot + q.hoisted.length)
      rw [drafts, anyDegraded, Draft.append_eq, Bool.or_eq_true, ← hq, ← hqs]
      exact Nat.add_pos_iff_pos_or_pos

end

mutual

/-- The outcome of a compilation that is lenient or meets no invalid node. -/
theorem compile_apply (strict : Bool) (q : Query) (slot : Slot)
    (h : strict = true → q.isDegraded = false) :
    q.compile strict slot = (.ok (q.predicate slot), q.draft slot) := by
  match q with
  | invalid error =>
      have hs : strict = false := by
        cases strict with
        | false => rfl
        | true => simp [isDegraded] at h
      subst hs
      rfl
  | negated token body =>
      have hbody := compile_apply strict body slot h
      -- The count that is watched is that of the body's own draft.
      have hwatch : Assembly.watch (body.compile strict) slot =
          (.ok (body.predicate slot, body.isDegraded), body.draft slot) := by
        have hpos : decide (0 < (body.draft slot).degraded) = body.isDegraded := by
          rw [Bool.eq_iff_iff, decide_eq_true_iff]
          exact degraded_draft_pos body slot
        rw [Assembly.watch, hbody]
        simp only [hpos]
      rw [compile, Assembly.bind_apply_ok hwatch, predicate, draft]
      cases body.isDegraded with
      | true => rfl
      | false =>
          simp only [Bool.false_eq_true, if_false, Assembly.pure_apply, Draft.append_empty]
  | combine c children =>
      have hall := compileAll_apply strict children slot h
      rw [compile, Assembly.map_apply hall, predicate, draft, Except.map]
  | quantify path k body =>
      have hbody := compile_apply strict body slot h
      rw [compile, Assembly.map_apply hbody, predicate, draft, Except.map]
  | test path t =>
      rw [compile, Assembly.map_apply (t.hoist_apply slot), predicate, draft, Except.map]
  | custom name op config => rfl

theorem compileAll_apply (strict : Bool) (qs : List Query) (slot : Slot)
    (h : strict = true → anyDegraded qs = false) :
    compileAll strict qs slot = (.ok (predicates slot qs), drafts slot qs) := by
  match qs with
  | [] => rfl
  | q :: qs =>
      have hparts : strict = true → q.isDegraded = false ∧ anyDegraded qs = false := by
        intro hs
        simpa [anyDegraded] using h hs
      have hq := compile_apply strict q slot fun hs => (hparts hs).1
      have hqs := compileAll_apply strict qs (slot + q.hoisted.length) fun hs => (hparts hs).2
      rw [compileAll, Assembly.bind_apply_ok hq, hoisted_draft,
        Assembly.map_apply hqs, predicates, drafts, Except.map]

end

mutual

theorem compile_strict_of_isDegraded (q : Query) (slot : Slot) (h : q.isDegraded = true) :
    ∃ e d, q.compile true slot = (.error e, d) := by
  match q with
  | invalid error => exact ⟨error, _, rfl⟩
  | negated token body =>
      obtain ⟨e, d, hbody⟩ := compile_strict_of_isDegraded body slot h
      have hwatch : Assembly.watch (body.compile true) slot = (.error e, d) := by
        rw [Assembly.watch, hbody]
      exact ⟨e, d, by rw [compile, Assembly.bind_apply_error hwatch]⟩
  | combine c children =>
      obtain ⟨e, d, hall⟩ := compileAll_strict_of_anyDegraded children slot h
      exact ⟨e, d, by rw [compile, Assembly.bind_apply_error hall]⟩
  | quantify path k body =>
      obtain ⟨e, d, hbody⟩ := compile_strict_of_isDegraded body slot h
      exact ⟨e, d, by rw [compile, Assembly.bind_apply_error hbody]⟩
  | test path t => simp [isDegraded] at h
  | custom name op config => simp [isDegraded] at h

theorem compileAll_strict_of_anyDegraded (qs : List Query) (slot : Slot)
    (h : anyDegraded qs = true) : ∃ e d, compileAll true qs slot = (.error e, d) := by
  match qs with
  | [] => simp [anyDegraded] at h
  | q :: qs =>
      cases hq : q.isDegraded with
      | true =>
          obtain ⟨e, d, he⟩ := compile_strict_of_isDegraded q slot hq
          exact ⟨e, d, by rw [compileAll, Assembly.bind_apply_error he]⟩
      | false =>
          have hqs : anyDegraded qs = true := by simpa [anyDegraded, hq] using h
          obtain ⟨e, d, he⟩ := compileAll_strict_of_anyDegraded qs (slot + q.hoisted.length) hqs
          have hok := compile_apply true q slot fun _ => hq
          refine ⟨e, q.draft slot ++ d, ?_⟩
          rw [compileAll, Assembly.bind_apply_ok hok, hoisted_draft,
            Assembly.bind_apply_error he]

end

def program (q : Query) : Program := ⟨q.predicate 0, q.hoisted⟩

theorem compileExpression_apply (options : CompileOptions) (expr : Value) (slot : Slot)
    (h : options.strict = true → (read options expr).isDegraded = false) :
    compileExpression options expr slot =
      (.ok ((read options expr).predicate slot),
        (read options expr).draft slot ++
          ⟨[], [.compiled ((read options expr).predicate slot).size
            (slot + (read options expr).hoisted.length) options.chain], 0⟩) := by
  have hq := compile_apply options.strict (read options expr) slot h
  rw [compileExpression, Assembly.bind_apply_ok hq, hoisted_draft]
  rfl

end Query

namespace Program

/-- An expression compiles to the program of its query, unless compilation is
strict and a node is invalid. -/
theorem outcome_compile (options : CompileOptions) (expr : Value)
    (h : options.strict = true → (Query.read options expr).isDegraded = false) :
    (compile options expr).outcome = .ok (Query.read options expr).program := by
  rw [compile, Query.compileExpression_apply options expr 0 h, Draft.append_eq,
    Query.hoisted_draft, List.append_nil]
  rfl

theorem outcome_compile_lenient (chain : Bool) (registry : Registry) (expr : Value) :
    (compile ⟨chain, false, registry⟩ expr).outcome =
      .ok (Query.read ⟨chain, false, registry⟩ expr).program :=
  outcome_compile _ _ (by simp)

end Program

end RecordFilter
