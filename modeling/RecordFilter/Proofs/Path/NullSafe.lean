import RecordFilter.Path.Reader
import RecordFilter.Path.Resolve

/-!
# Null-safe paths

Reading a path with null-safe chains marks all of its steps and changes nothing else
(`Path.read?_true`). Such a path never steps from null or from an absent value, for it
ends there. Where the path without the marks comes to an end, the marks were not needed,
and it comes to the same end (`Path.guards_resolve`).

`EvalError.Guards` says this of two evaluations: the one never accesses null, and it is
the other one if that does not access null either. The relation passes from parts to the
whole, so it carries over from paths to everything that is evaluated by way of them.
-/

namespace RecordFilter

namespace EvalError

def isNullAccess : EvalError → Bool
  | nullAccess _ _ _ => true
  | type _ _ => false

variable {α β : Type}

def NullFree (x : Except EvalError α) : Prop := ∀ e, x = .error e → e.isNullAccess = false

theorem nullFree_ok (a : α) : NullFree (.ok a) := by
  intro e h
  cases h

theorem nullFree_type (operation found : String) :
    NullFree (.error (.type operation found) : Except EvalError α) := by
  intro e h
  cases h
  rfl

/-- An evaluation that does not access null, and that is another one if the other one
does not access null either. -/
structure Guards (guarded plain : Except EvalError α) : Prop where
  nullFree : NullFree guarded
  eq_of_nullFree : NullFree plain → guarded = plain

theorem NullFree.guards {x : Except EvalError α} (h : NullFree x) : Guards x x where
  nullFree := h
  eq_of_nullFree _ := rfl

theorem Guards.bind {y x : Except EvalError α} {f g : α → Except EvalError β}
    (h : Guards y x) (hfg : ∀ a, Guards (f a) (g a)) : Guards (y >>= f) (x >>= g) where
  nullFree e he := by
    cases y with
    | error e' =>
        cases he
        exact h.nullFree _ rfl
    | ok a => exact (hfg a).nullFree e he
  eq_of_nullFree hfree := by
    have hx : NullFree x := by
      intro e he
      rw [he] at hfree
      exact hfree e rfl
    rw [h.eq_of_nullFree hx]
    cases x with
    | error e => rfl
    | ok a => exact (hfg a).eq_of_nullFree hfree

theorem Guards.map {y x : Except EvalError α} (h : Guards y x) (f : α → β) :
    Guards (y.map f) (x.map f) := by
  have hbind := h.bind fun a => (nullFree_ok (f a)).guards
  cases y <;> cases x <;> exact hbind

end EvalError

def Step.nullSafe (s : Step) : Step := ⟨s.key, true⟩

def Path.nullSafe (path : Path) : Path := ⟨path.root, path.steps.map Step.nullSafe⟩

namespace Path

theorem stepOf_true (optional : Bool) (name : List Char) :
    stepOf true name = (stepOf optional name).map Step.nullSafe := by
  rw [stepOf, stepOf]
  split
  · rfl
  · rfl

/-- Chains do not change what the steps of a text are, only that they are null-safe. -/
theorem readSteps_true (chain : Bool) (scan : Scan) (waiting : Bool) (cs : List Char) :
    readSteps true scan waiting cs = (readSteps chain scan waiting cs).map Step.nullSafe := by
  fun_induction readSteps chain scan waiting cs with
  | case1 waiting => rw [readSteps, List.map_nil]
  | case2 read waiting => rw [readSteps, Bool.or_true, stepOf_true]
  | case3 read waiting => rw [readSteps, Bool.or_true, stepOf_true]
  | case4 waiting c cs hquestion ih => rw [readSteps, if_pos hquestion, ih]
  | case5 waiting c cs hquestion hbracket ih =>
      rw [readSteps, if_neg hquestion, if_pos hbracket, ih]
  | case6 waiting c cs hquestion hbracket hname ih =>
      rw [readSteps, if_neg hquestion, if_neg hbracket, if_pos hname, ih]
  | case7 waiting c cs hquestion hbracket hname ih =>
      rw [readSteps, if_neg hquestion, if_neg hbracket, if_neg hname, ih]
  | case8 read waiting c cs hname ih => rw [readSteps, if_pos hname, ih]
  | case9 read waiting c cs hname ihquestion ihbracket ihdot =>
      rw [readSteps, if_neg hname, ihquestion, ihbracket, ihdot, Bool.or_true, List.map_append,
        ← stepOf_true, apply_ite (List.map Step.nullSafe), apply_ite (List.map Step.nullSafe)]
  | case10 read waiting c cs hclosing ih =>
      rw [readSteps, if_pos hclosing, ih, Bool.or_true, List.map_append, ← stepOf_true]
  | case11 read waiting c cs hclosing ih => rw [readSteps, if_neg hclosing, ih]

theorem read?_true (chain : Bool) (raw : String) :
    read? true raw = (read? chain raw).map nullSafe := by
  rw [read?, read?]
  split
  · rfl
  · split
    · rfl
    · rw [Option.map_map]
      congr 1
      funext cs
      rw [Function.comp_apply, nullSafe, readSteps_true chain]

/-- Null-safe steps end where others would fault, and lead to the same end if none of
the others faults. -/
theorem guards_follow (path other : Path) (ss : List Step) (v : Option Value) :
    EvalError.Guards (other.follow (ss.map Step.nullSafe) v) (path.follow ss v) := by
  induction ss generalizing v with
  | nil =>
      rw [List.map_nil, follow_nil, follow_nil]
      exact (EvalError.nullFree_ok v).guards
  | cons s ss ih =>
      rw [List.map_cons]
      match v with
      | none | some .null =>
          rw [follow, follow, Step.nullSafe, if_pos rfl]
          split
          · exact (EvalError.nullFree_ok _).guards
          · refine ⟨EvalError.nullFree_ok _, fun h => ?_⟩
            cases h _ rfl
      | some (.boolean _) | some (.integer _) | some (.float _) | some (.string _)
      | some (.array _) | some (.object _) => exact ih _

theorem guards_resolve (path : Path) (scope : Scope) :
    EvalError.Guards (path.nullSafe.resolve scope) (path.resolve scope) :=
  guards_follow path path.nullSafe path.steps (path.root.value scope)

end Path

namespace CompileError

def nullSafe : CompileError → CompileError
  | unmappedColumn path => unmappedColumn path.nullSafe
  | e => e

variable {α β γ δ : Type}

/-- A result passed through `f`, or the error with the path that it names null-safe. -/
def mapNullSafe (f : α → β) : Except CompileError α → Except CompileError β
  | .ok a => .ok (f a)
  | .error e => .error e.nullSafe

theorem mapNullSafe_bind {f : α → β} {g : γ → δ} (x : Except CompileError α)
    {k : α → Except CompileError γ} {l : β → Except CompileError δ}
    (h : ∀ a, l (f a) = mapNullSafe g (k a)) :
    (mapNullSafe f x >>= l) = mapNullSafe g (x >>= k) := by
  cases x with
  | error e => rfl
  | ok a => exact h a

end CompileError

end RecordFilter
