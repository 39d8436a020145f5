import RecordFilter.Assembly

/-!
# Assemblies side by side

Two assemblies run in parallel if from every slot on they hoist the same literals, give up
as many nodes and come to related results, or both stop with an error (`Parallel`). Which
results are related is left open, and so is what becomes of errors and events (`Recast`):
with equality and nothing recast the two are the same assembly (`eq_of_parallel`). The
relation passes from parts to the whole, since after the same literals the next parts start
from the same slot.

Computations in a row may be bracketed in any way, for drafts may. This makes assemblies
a lawful monad, and two of them that do the same in other groups can be brought side by
side by rewriting.
-/

namespace RecordFilter

/-- What errors and events are on the other side. A warning is about an error, so the two
have to fit. -/
structure Recast where
  error : CompileError → CompileError
  event : Event → Event
  event_neverMatches : ∀ e, event (.neverMatches e) = .neverMatches (error e)

namespace Recast

def same : Recast := ⟨id, id, fun _ => rfl⟩

def draft (c : Recast) (d : Draft) : Draft := ⟨d.hoisted, d.events.map c.event, d.degraded⟩

theorem draft_append (c : Recast) (d e : Draft) : c.draft (d ++ e) = c.draft d ++ c.draft e := by
  rw [Draft.append_eq, Draft.append_eq, draft, List.map_append]
  rfl

@[simp] theorem error_same (e : CompileError) : same.error e = e := rfl

@[simp] theorem draft_same (d : Draft) : same.draft d = d := by
  rw [draft, same, List.map_id]

/-- The same literals and events with related results, or with errors, but for what is
recast of them. -/
def Relates {α β : Type} (c : Recast) (R : α → β → Prop) (x : Except CompileError α × Draft)
    (y : Except CompileError β × Draft) : Prop :=
  (∃ e d, x = (.error e, d) ∧ y = (.error (c.error e), c.draft d)) ∨
    ∃ a b d, x = (.ok a, d) ∧ y = (.ok b, c.draft d) ∧ R a b

theorem Relates.behind {α β : Type} {c : Recast} {R : α → β → Prop}
    {x : Except CompileError α × Draft} {y : Except CompileError β × Draft}
    (h : c.Relates R x y) (d : Draft) :
    c.Relates R (x.1, d ++ x.2) (y.1, c.draft d ++ y.2) := by
  rcases h with ⟨e, d', rfl, rfl⟩ | ⟨a, b, d', rfl, rfl, hab⟩
  · exact .inl ⟨e, d ++ d', rfl, by rw [c.draft_append]⟩
  · exact .inr ⟨a, b, d ++ d', rfl, by rw [c.draft_append], hab⟩

end Recast

namespace Assembly

variable {α β γ δ : Type}

theorem bind_pure_self (x : Assembly α) : (x >>= pure) = x := by
  funext slot
  rcases h : x slot with ⟨e | a, d⟩
  · rw [bind_apply_error h]
  · rw [bind_apply_ok h, pure_apply, Draft.append_empty]

theorem pure_bind_apply (a : α) (f : α → Assembly β) : (pure a >>= f) = f a := by
  funext slot
  rw [bind_apply_ok (pure_apply a slot), Draft.empty_append]
  rfl

theorem bind_bind_apply (x : Assembly α) (f : α → Assembly β) (g : β → Assembly γ) :
    (x >>= f >>= g) = x >>= fun a => f a >>= g := by
  funext slot
  rcases hx : x slot with ⟨e | a, d⟩
  · rw [bind_apply_error hx, bind_apply_error (bind_apply_error hx)]
  · rcases hf : f a (slot + d.hoisted.length) with ⟨e | b, d'⟩
    · have hxf : (x >>= f) slot = (.error e, d ++ d') := by rw [bind_apply_ok hx, hf]
      rw [bind_apply_ok hx, bind_apply_error hxf, bind_apply_error hf]
    · have hxf : (x >>= f) slot = (.ok b, d ++ d') := by rw [bind_apply_ok hx, hf]
      have hlength : (d ++ d').hoisted.length = d.hoisted.length + d'.hoisted.length :=
        List.length_append
      rw [bind_apply_ok hx, bind_apply_ok hxf, bind_apply_ok hf, hlength, Nat.add_assoc,
        Draft.append_assoc]

instance : LawfulMonad Assembly :=
  .mk' Assembly bind_pure_self pure_bind_apply bind_bind_apply

def Parallel (c : Recast) (R : α → β → Prop) (x : Assembly α) (y : Assembly β) : Prop :=
  ∀ slot, c.Relates R (x slot) (y slot)

theorem parallel_same_iff {R : α → β → Prop} {x : Assembly α} {y : Assembly β} :
    Parallel .same R x y ↔
      ∀ slot, (∃ e d, x slot = (.error e, d) ∧ y slot = (.error e, d)) ∨
        ∃ a b d, x slot = (.ok a, d) ∧ y slot = (.ok b, d) ∧ R a b := by
  simp only [Parallel, Recast.Relates, Recast.error_same, Recast.draft_same]

theorem parallel_self {R : α → α → Prop} (h : ∀ a, R a a) (x : Assembly α) :
    Parallel .same R x x := by
  rw [parallel_same_iff]
  intro slot
  rcases hx : x slot with ⟨e | a, d⟩
  · exact .inl ⟨e, d, rfl, rfl⟩
  · exact .inr ⟨a, a, d, rfl, rfl, h a⟩

theorem eq_of_parallel {x y : Assembly α} (h : Parallel .same Eq x y) : x = y := by
  funext slot
  rcases parallel_same_iff.1 h slot with ⟨e, d, hx, hy⟩ | ⟨a, b, d, hx, hy, rfl⟩
  · rw [hx, hy]
  · rw [hx, hy]

variable {c : Recast} {R : α → β → Prop} {S : γ → δ → Prop} {x : Assembly α} {y : Assembly β}

theorem parallel_pure {a : α} {b : β} (h : R a b) : Parallel c R (pure a) (pure b) :=
  fun _ => .inr ⟨a, b, .empty, rfl, rfl, h⟩

theorem parallel_fail (e : CompileError) : Parallel c R (fail e) (fail (c.error e)) :=
  fun _ => .inl ⟨e, .empty, rfl, rfl⟩

theorem parallel_nextSlot : Parallel c Eq nextSlot nextSlot :=
  fun slot => .inr ⟨slot, slot, .empty, rfl, rfl, rfl⟩

theorem parallel_emit (event : Event) : Parallel c Eq (emit event) (emit (c.event event)) :=
  fun _ => .inr ⟨(), (), ⟨[], [event], 0⟩, rfl, rfl, rfl⟩

theorem parallel_degrade {R : Predicate → Predicate → Prop} (hnever : R .never .never)
    (strict : Bool) (e : CompileError) :
    Parallel c R (degrade strict e) (degrade strict (c.error e)) := by
  intro slot
  cases strict with
  | true => exact .inl ⟨e, _, rfl, rfl⟩
  | false =>
      refine .inr ⟨.never, .never, _, rfl, ?_, hnever⟩
      rw [Recast.draft, List.map_singleton, c.event_neverMatches]
      rfl

theorem Parallel.bind (h : Parallel c R x y) {f : α → Assembly γ} {g : β → Assembly δ}
    (hfg : ∀ a b, R a b → Parallel c S (f a) (g b)) : Parallel c S (x >>= f) (y >>= g) := by
  intro slot
  rcases h slot with ⟨e, d, hx, hy⟩ | ⟨a, b, d, hx, hy, hab⟩
  · exact .inl ⟨e, d, bind_apply_error hx, bind_apply_error hy⟩
  · rw [bind_apply_ok hx, bind_apply_ok hy]
    -- The literals are the same, so the second ones start in the same slot.
    exact (hfg a b hab (slot + d.hoisted.length)).behind d

theorem Parallel.map (h : Parallel c R x y) {f : α → γ} {g : β → δ}
    (hfg : ∀ a b, R a b → S (f a) (g b)) :
    Parallel c S (x >>= fun a => pure (f a)) (y >>= fun b => pure (g b)) :=
  h.bind fun a b hab => parallel_pure (hfg a b hab)

theorem Parallel.map_image {k : α → β} {l : γ → δ} (h : Parallel c (fun a b => b = k a) x y)
    {f : α → γ} {g : β → δ} (hfg : ∀ a, g (k a) = l (f a)) :
    Parallel c (fun a b => b = l a) (x >>= fun a => pure (f a)) (y >>= fun b => pure (g b)) := by
  apply h.map
  rintro a _ rfl
  exact hfg a

theorem Parallel.watch (h : Parallel c R x y) :
    Parallel c (fun a b => R a.1 b.1 ∧ a.2 = b.2) (watch x) (watch y) := by
  intro slot
  rcases h slot with ⟨e, d, hx, hy⟩ | ⟨a, b, d, hx, hy, hab⟩
  · exact .inl ⟨e, d, by rw [Assembly.watch, hx], by rw [Assembly.watch, hy]⟩
  · exact .inr ⟨_, _, d, by rw [Assembly.watch, hx], by rw [Assembly.watch, hy], hab, rfl⟩

theorem rescue_apply_error {x : Assembly Predicate} {slot : Slot} {e : CompileError} {d : Draft}
    (strict : Bool) (h : x slot = (.error e, d)) :
    rescue strict x slot =
      ((degrade strict e (slot + d.hoisted.length)).1,
        d ++ (degrade strict e (slot + d.hoisted.length)).2) := by
  rw [rescue, h]

theorem Parallel.rescue {R : Predicate → Predicate → Prop} {x y : Assembly Predicate}
    (h : Parallel c R x y) (hnever : R .never .never) (strict : Bool) :
    Parallel c R (rescue strict x) (rescue strict y) := by
  intro slot
  rcases h slot with ⟨e, d, hx, hy⟩ | ⟨a, b, d, hx, hy, hab⟩
  · rw [rescue_apply_error strict hx, rescue_apply_error strict hy]
    exact (parallel_degrade hnever strict e (slot + d.hoisted.length)).behind d
  · exact .inr ⟨a, b, d, by rw [Assembly.rescue, hx], by rw [Assembly.rescue, hy], hab⟩

end Assembly

end RecordFilter
