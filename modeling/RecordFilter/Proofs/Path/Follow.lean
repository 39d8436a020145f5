import RecordFilter.Path.Resolve

/-!
# Following paths in parts

A path that comes to a value may be cut anywhere: the value of its front part is
where the rest sets out from (`follow_append_of_some`). Whether steps come to a value,
and to which, depends on their keys alone and not on null-safe marks, which only
decide between an absent value and a fault (`follow_of_keys`).

Two evaluations may differ in what they say of a fault and still come to the same.
`AlikeUpTo` compares them once that is forgotten. Which path some steps belong to
shows only in the faults. `withoutPath` drops it there, so that evaluations over
differently rooted paths can be compared: two of them are alike if they differ in
nothing else.
-/

namespace RecordFilter

namespace EvalError

section AlikeUpTo

variable {α β : Type} {forget : EvalError → EvalError} {x y z : Except EvalError α}

/-- The same result, or two faults that are the same but for what is forgotten of them. -/
def AlikeUpTo {α : Type} (forget : EvalError → EvalError) (x y : Except EvalError α) : Prop :=
  x.mapError forget = y.mapError forget

theorem alikeUpTo_refl (forget : EvalError → EvalError) (x : Except EvalError α) :
    AlikeUpTo forget x x := rfl

theorem AlikeUpTo.symm (h : AlikeUpTo forget x y) : AlikeUpTo forget y x := Eq.symm h

theorem AlikeUpTo.trans (h : AlikeUpTo forget x y) (h' : AlikeUpTo forget y z) :
    AlikeUpTo forget x z := Eq.trans h h'

theorem AlikeUpTo.cases (h : AlikeUpTo forget x y) :
    (∃ a, x = .ok a ∧ y = .ok a) ∨
      ∃ e f, x = .error e ∧ y = .error f ∧ forget e = forget f := by
  rw [AlikeUpTo] at h
  cases x with
  | ok a =>
      cases y with
      | ok b =>
          cases h
          exact .inl ⟨a, rfl, rfl⟩
      | error f => cases h
  | error e =>
      cases y with
      | ok b => cases h
      | error f => exact .inr ⟨e, f, rfl, rfl, Except.error.inj h⟩

theorem alikeUpTo_error {e f : EvalError} (h : forget e = forget f) :
    AlikeUpTo forget (.error e : Except EvalError α) (.error f) := by
  change Except.error (forget e) = Except.error (forget f)
  rw [h]

theorem AlikeUpTo.bind (h : AlikeUpTo forget x y) {f g : α → Except EvalError β}
    (hfg : ∀ a, AlikeUpTo forget (f a) (g a)) : AlikeUpTo forget (x >>= f) (y >>= g) := by
  rcases h.cases with ⟨a, rfl, rfl⟩ | ⟨e, e', rfl, rfl, he⟩
  · exact hfg a
  · exact alikeUpTo_error he

theorem AlikeUpTo.map (h : AlikeUpTo forget x y) (f : α → β) :
    AlikeUpTo forget (x.map f) (y.map f) := by
  rcases h.cases with ⟨a, rfl, rfl⟩ | ⟨e, e', rfl, rfl, he⟩
  · exact alikeUpTo_refl _ _
  · exact alikeUpTo_error he

end AlikeUpTo

def withoutPath : EvalError → EvalError
  | nullAccess _ step found => nullAccess .record step found
  | type operation found => type operation found

/-- The same result, or two faults that differ at most in the paths they name. -/
def Alike {α : Type} (x y : Except EvalError α) : Prop :=
  x.mapError withoutPath = y.mapError withoutPath

section Alike

variable {α β : Type} {x y : Except EvalError α}

theorem alike_iff : Alike x y ↔ AlikeUpTo withoutPath x y := Iff.rfl

theorem alike_refl (x : Except EvalError α) : Alike x x := rfl

theorem Alike.cases (h : Alike x y) :
    (∃ a, x = .ok a ∧ y = .ok a) ∨
      ∃ e f, x = .error e ∧ y = .error f ∧ e.withoutPath = f.withoutPath :=
  (alike_iff.1 h).cases

theorem alike_error {e f : EvalError} (h : e.withoutPath = f.withoutPath) :
    Alike (.error e : Except EvalError α) (.error f) :=
  alike_iff.2 (alikeUpTo_error h)

theorem Alike.bind (h : Alike x y) (f : α → Except EvalError β) : Alike (x >>= f) (y >>= f) :=
  alike_iff.2 ((alike_iff.1 h).bind fun _ => alikeUpTo_refl _ _)

theorem Alike.map (h : Alike x y) (f : α → β) : Alike (x.map f) (y.map f) :=
  alike_iff.2 ((alike_iff.1 h).map f)

end Alike

end EvalError

namespace Path

theorem follow_cons_of_ne_null (path : Path) (s : Step) (ss : List Step) {v : Value}
    (hv : v ≠ .null) : path.follow (s :: ss) (some v) = path.follow ss (s.key.lookup v) := by
  cases v with
  | null => exact absurd rfl hv
  | _ => rfl

theorem exists_of_follow_cons {path : Path} {s : Step} {ss : List Step} {v : Option Value}
    {w : Value} (h : path.follow (s :: ss) v = .ok (some w)) :
    ∃ u, v = some u ∧ u ≠ .null ∧ path.follow ss (s.key.lookup u) = .ok (some w) := by
  cases v with
  | none =>
      rw [follow] at h
      split at h <;> cases h
  | some u =>
      by_cases hu : u = .null
      · subst hu
        rw [follow] at h
        split at h <;> cases h
      · rw [follow_cons_of_ne_null path s ss hu] at h
        exact ⟨u, rfl, hu, h⟩

/-- A path that comes to a value goes on from there. -/
theorem follow_append_of_some (path : Path) (ss ts : List Step) {v : Option Value} {w : Value}
    (h : path.follow ss v = .ok (some w)) :
    path.follow (ss ++ ts) v = path.follow ts (some w) := by
  induction ss generalizing v with
  | nil =>
      rw [follow_nil] at h
      cases h
      rfl
  | cons s ss ih =>
      obtain ⟨u, rfl, hu, hrest⟩ := exists_of_follow_cons h
      rw [List.cons_append, follow_cons_of_ne_null path s _ hu]
      exact ih hrest

/-- Steps with the same keys come to the same value, whichever of them are
null-safe. -/
theorem follow_of_keys (path other : Path) {ss ts : List Step} {v : Option Value} {w : Value}
    (hkeys : ss.map Step.key = ts.map Step.key) (h : path.follow ss v = .ok (some w)) :
    other.follow ts v = .ok (some w) := by
  induction ss generalizing ts v with
  | nil =>
      rw [List.map_nil, eq_comm, List.map_eq_nil_iff] at hkeys
      subst hkeys
      rw [follow_nil] at h ⊢
      exact h
  | cons s ss ih =>
      cases ts with
      | nil => cases hkeys
      | cons t ts =>
          rw [List.map_cons, List.map_cons, List.cons.injEq] at hkeys
          obtain ⟨hkey, hrest⟩ := hkeys
          obtain ⟨u, rfl, hu, hfollow⟩ := exists_of_follow_cons h
          rw [follow_cons_of_ne_null other t ts hu, ← hkey]
          exact ih hrest hfollow

/-- What some steps come to does not depend on the path that they belong to, but
for the faults. -/
theorem follow_alike (path other : Path) (ss : List Step) (v : Option Value) :
    EvalError.Alike (path.follow ss v) (other.follow ss v) := by
  induction ss generalizing v with
  | nil =>
      rw [follow_nil, follow_nil]
      exact EvalError.alike_refl _
  | cons s ss ih =>
      match v with
      | none | some .null =>
          rw [follow, follow]
          split
          · exact EvalError.alike_refl _
          · exact EvalError.alike_error rfl
      | some (.boolean _) | some (.integer _) | some (.float _) | some (.string _)
      | some (.array _) | some (.object _) => exact ih _

end Path

end RecordFilter
