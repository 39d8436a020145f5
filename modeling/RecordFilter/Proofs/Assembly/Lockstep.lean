import RecordFilter.Assembly

/-!
# Strict and lenient assemblies in lockstep

Strict compilation stops where lenient compilation warns for the first time.
`Lockstep` says so of two assemblies: as long as the lenient one gives no warning,
the strict one comes to the same, and where the lenient one warns, the strict one has
stopped with the error that the first warning is about.

The relation passes from parts to the whole. What comes after a warning plays no part,
so of two computations in a row the second ones have to be in lockstep only on what
the first one comes to without a warning (`Lockstep.bind`). An assembly that warns of
nothing has given up nothing; this is carried along, since a negation asks for it.
-/

namespace RecordFilter

def Event.isWarning : Event → Bool
  | neverMatches _ => true
  | negatedNeverMatches _ => true
  | _ => false

def Draft.warning? (d : Draft) : Option Event := d.events.find? Event.isWarning

theorem Draft.warning?_append (d e : Draft) :
    (d ++ e).warning? = d.warning?.or e.warning? := by
  rw [warning?, append_eq, List.find?_append]
  rfl

namespace Assembly

variable {α β : Type}

/-- Unless the second assembly warns, the first one does the same; if it does, the
first one stops with the error of the first warning. -/
structure Lockstep (strict lenient : Assembly α) : Prop where
  quiet : ∀ slot r d, lenient slot = (r, d) → d.warning? = none →
    strict slot = (r, d) ∧ d.degraded = 0
  warned : ∀ slot r d event, lenient slot = (r, d) → d.warning? = some event →
    ∃ e d', event = .neverMatches e ∧ strict slot = (.error e, d')

/-- What neither warns nor gives up anything is in lockstep with itself. -/
theorem lockstep_self {x : Assembly α}
    (h : ∀ slot, (x slot).2.warning? = none ∧ (x slot).2.degraded = 0) : Lockstep x x where
  quiet slot r d hx _ := by
    have hslot := h slot
    rw [hx] at hslot
    exact ⟨hx, hslot.2⟩
  warned slot r d event hx hevent := by
    have hslot := h slot
    rw [hx, hevent] at hslot
    cases hslot.1

theorem lockstep_pure (a : α) : Lockstep (pure a : Assembly α) (pure a) :=
  lockstep_self fun _ => ⟨rfl, rfl⟩

theorem lockstep_fail (e : CompileError) : Lockstep (fail e : Assembly α) (fail e) :=
  lockstep_self fun _ => ⟨rfl, rfl⟩

theorem lockstep_nextSlot : Lockstep nextSlot nextSlot := lockstep_self fun _ => ⟨rfl, rfl⟩

theorem lockstep_emit {event : Event} (h : event.isWarning = false) :
    Lockstep (emit event) (emit event) := by
  apply lockstep_self
  intro slot
  refine ⟨?_, rfl⟩
  change List.find? Event.isWarning [event] = none
  rw [List.find?_cons_of_neg (by simp [h]), List.find?_nil]

theorem lockstep_degrade (e : CompileError) : Lockstep (degrade true e) (degrade false e) where
  quiet slot r d hslot hd := by
    cases hslot
    cases hd
  warned slot r d event hslot hd := by
    cases hslot
    cases hd
    exact ⟨e, _, rfl, rfl⟩

/-- One after the other, where the second ones may rely on what the lenient first one
comes to without a warning. -/
theorem Lockstep.bind {x y : Assembly α} {f g : α → Assembly β} (h : Lockstep x y)
    (hfg : ∀ a slot d, y slot = (.ok a, d) → d.degraded = 0 → Lockstep (f a) (g a)) :
    Lockstep (x >>= f) (y >>= g) where
  quiet slot r d hslot hd := by
    rcases hy : y slot with ⟨e | a, d₁⟩
    · rw [bind_apply_error hy] at hslot
      cases hslot
      obtain ⟨hx, hdegraded⟩ := h.quiet slot _ _ hy hd
      exact ⟨bind_apply_error hx, hdegraded⟩
    · rw [bind_apply_ok hy] at hslot
      cases hslot
      rw [Draft.warning?_append, Option.or_eq_none_iff] at hd
      obtain ⟨hx, hdegraded⟩ := h.quiet slot _ _ hy hd.1
      obtain ⟨hrest, hdegraded'⟩ := (hfg a slot d₁ hy hdegraded).quiet _ _ _ rfl hd.2
      refine ⟨?_, ?_⟩
      · rw [bind_apply_ok hx, hrest]
      · rw [Draft.append_eq, hdegraded, hdegraded']
  warned slot r d event hslot hd := by
    rcases hy : y slot with ⟨e | a, d₁⟩
    · rw [bind_apply_error hy] at hslot
      cases hslot
      obtain ⟨e', d', hevent, hx⟩ := h.warned slot _ _ event hy hd
      exact ⟨e', d', hevent, bind_apply_error hx⟩
    · rw [bind_apply_ok hy] at hslot
      cases hslot
      rw [Draft.warning?_append] at hd
      cases hfirst : d₁.warning? with
      | some first =>
          -- The first warning is one of the first computation.
          rw [hfirst] at hd
          cases hd
          obtain ⟨e', d', hevent, hx⟩ := h.warned slot _ _ event hy hfirst
          exact ⟨e', d', hevent, bind_apply_error hx⟩
      | none =>
          rw [hfirst] at hd
          obtain ⟨hx, hdegraded⟩ := h.quiet slot _ _ hy hfirst
          obtain ⟨e', d', hevent, hrest⟩ :=
            (hfg a slot d₁ hy hdegraded).warned _ _ _ event rfl hd
          exact ⟨e', d₁ ++ d', hevent, by rw [bind_apply_ok hx, hrest]⟩

theorem Lockstep.map {x y : Assembly α} (h : Lockstep x y) (f : α → β) :
    Lockstep (x >>= fun a => pure (f a)) (y >>= fun a => pure (f a)) :=
  h.bind fun a _ _ _ _ => lockstep_pure (f a)

theorem watch_apply {x : Assembly α} {slot : Slot} {r : Except CompileError α} {d : Draft}
    (h : x slot = (r, d)) : watch x slot = (r.map (·, decide (0 < d.degraded)), d) := by
  rw [watch, h]
  cases r <;> rfl

theorem eq_false_of_watch {x : Assembly α} {slot : Slot} {a : α} {degraded : Bool} {d : Draft}
    (h : watch x slot = (.ok (a, degraded), d)) (hd : d.degraded = 0) : degraded = false := by
  rcases hx : x slot with ⟨e | b, d'⟩
  · rw [watch_apply hx] at h
    cases h
  · rw [watch_apply hx] at h
    cases h
    rw [hd]
    rfl

theorem Lockstep.watch {x y : Assembly α} (h : Lockstep x y) :
    Lockstep (watch x) (watch y) where
  quiet slot r d hslot hd := by
    rcases hy : y slot with ⟨r', d'⟩
    rw [watch_apply hy] at hslot
    cases hslot
    obtain ⟨hx, hdegraded⟩ := h.quiet slot _ _ hy hd
    exact ⟨watch_apply hx, hdegraded⟩
  warned slot r d event hslot hd := by
    rcases hy : y slot with ⟨r', d'⟩
    rw [watch_apply hy] at hslot
    cases hslot
    obtain ⟨e, d'', hevent, hx⟩ := h.warned slot _ _ event hy hd
    exact ⟨e, d'', hevent, by rw [watch_apply hx, Except.map]⟩

/-- An error that gives up a node is the first warning, unless one came before it. -/
theorem Lockstep.rescue {x y : Assembly Predicate} (h : Lockstep x y) :
    Lockstep (rescue true x) (rescue false y) where
  quiet slot r d hslot hd := by
    rcases hy : y slot with ⟨e | p, d'⟩
    · rw [Assembly.rescue, hy] at hslot
      cases hslot
      rw [Draft.warning?_append, Option.or_eq_none_iff] at hd
      cases hd.2
    · rw [Assembly.rescue, hy] at hslot
      cases hslot
      obtain ⟨hx, hdegraded⟩ := h.quiet slot _ _ hy hd
      exact ⟨by rw [Assembly.rescue, hx], hdegraded⟩
  warned slot r d event hslot hd := by
    rcases hy : y slot with ⟨e | p, d'⟩
    · rw [Assembly.rescue, hy] at hslot
      cases hslot
      rw [Draft.warning?_append] at hd
      cases hfirst : d'.warning? with
      | some first =>
          rw [hfirst] at hd
          cases hd
          obtain ⟨e', d'', hevent, hx⟩ := h.warned slot _ _ event hy hfirst
          obtain ⟨d₁, hrescue⟩ := rescue_apply_strict_error hx
          exact ⟨e', d₁, hevent, hrescue⟩
      | none =>
          rw [hfirst] at hd
          cases hd
          obtain ⟨d₁, hrescue⟩ := rescue_apply_strict_error (h.quiet slot _ _ hy hfirst).1
          exact ⟨e, d₁, rfl, hrescue⟩
    · rw [Assembly.rescue, hy] at hslot
      cases hslot
      obtain ⟨e', d'', hevent, hx⟩ := h.warned slot _ _ event hy hd
      obtain ⟨d₁, hrescue⟩ := rescue_apply_strict_error hx
      exact ⟨e', d₁, hevent, hrescue⟩

end Assembly

end RecordFilter
