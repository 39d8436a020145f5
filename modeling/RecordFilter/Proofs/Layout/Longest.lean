import Mathlib.Data.List.OfFn
import RecordFilter.Proofs.Layout.Column

/-!
# The longest name

Of the names that lead some steps the longest one is taken, and of several equally long
ones the last (`longest?`). If no two names have the same keys there are never several:
names of one length that lead the same steps have the same keys. Then the choice does not
depend on the order of the names. It is the name that is longer than every other one that
leads the steps (`IsLongest`), and a path is placed at its column if there is one, and
nowhere otherwise (`bindsLongest`).

Null-safe marks have no part in this, for names and paths are compared by their keys.
-/

namespace RecordFilter.Layout

def keysOf (name : String) : Except CompileError (List Key) :=
  (readName name).map (List.map Step.key)

theorem exists_longest? {steps name : List Step} {names : List (List Step)} (first : Nat)
    (hname : name ∈ names) (hleads : leads name steps = true) :
    ∃ found, longest? steps first names = some found := by
  induction names generalizing first with
  | nil => cases hname
  | cons other rest ih =>
      rw [longest?]
      cases hrest : longest? steps (first + 1) rest with
      | none =>
          rcases List.mem_cons.1 hname with rfl | hmem
          · exact ⟨_, if_pos hleads⟩
          · obtain ⟨found, hfound⟩ := ih (first + 1) hmem
            rw [hfound] at hrest
            cases hrest
      | some found => exact ⟨_, (apply_ite some _ _ _).symm⟩

theorem length_le_of_longest? {steps name : List Step} {names : List (List Step)}
    {first column used : Nat} (h : longest? steps first names = some (column, used))
    (hname : name ∈ names) (hleads : leads name steps = true) : name.length ≤ used := by
  induction names generalizing first column used with
  | nil => cases hname
  | cons other rest ih =>
      rcases cases_of_longest?_cons h with ⟨-, heq, hlonger⟩ | ⟨hrest, hle⟩
      · cases heq
        rcases List.mem_cons.1 hname with rfl | hmem
        · exact Nat.le_refl _
        · obtain ⟨found, hfound⟩ := exists_longest? (first + 1) hmem hleads
          exact Nat.le_trans (ih hfound hmem) (Nat.le_of_lt (hlonger found hfound))
      · rcases List.mem_cons.1 hname with rfl | hmem
        · exact hle hleads
        · exact ih hrest hmem

section

variable {n : Nat} {keys : Fin n → List Key} {names : Fin n → List Step} {steps : List Step}
  {k l : Fin n}

/-- The steps begin with the keys of a name, and those of any other name that they begin
with are fewer. -/
structure IsLongest (keys : Fin n → List Key) (steps : List Step) (k : Fin n) : Prop where
  isPrefix : keys k <+: steps.map Step.key
  longest : ∀ l, l ≠ k → keys l <+: steps.map Step.key → (keys l).length < (keys k).length

theorem IsLongest.unique (hk : IsLongest keys steps k) (hl : IsLongest keys steps l) :
    k = l := by
  by_contra hne
  have hlt := hl.longest k hne hk.isPrefix
  have hgt := hk.longest l (Ne.symm hne) hl.isPrefix
  exact Nat.lt_asymm hlt hgt

theorem isLongest_comp (keys : Fin n → List Key) (σ : Equiv.Perm (Fin n)) :
    IsLongest (keys ∘ σ) steps k ↔ IsLongest keys steps (σ k) := by
  constructor
  · intro h
    refine ⟨h.isPrefix, fun l hne hbegins => ?_⟩
    have hlt := h.longest (σ.symm l) (fun heq => hne (by rw [← heq, σ.apply_symm_apply]))
    rw [Function.comp_apply, σ.apply_symm_apply] at hlt
    exact hlt hbegins
  · intro h
    exact ⟨h.isPrefix, fun l hne hbegins => h.longest (σ l) (σ.injective.ne hne) hbegins⟩

/-- Names with different keys do not lead the same steps if they are equally long. -/
theorem isLongest_of_forall_length_le (hkeys : Function.Injective keys)
    (hbegins : keys k <+: steps.map Step.key)
    (hle : ∀ l, keys l <+: steps.map Step.key → (keys l).length ≤ (keys k).length) :
    IsLongest keys steps k := by
  refine ⟨hbegins, fun l hne hl => Nat.lt_of_le_of_ne (hle l hl) fun hlength => ?_⟩
  have hsame : keys l <+: keys k := List.prefix_of_prefix_length_le hl hbegins (hle l hl)
  exact hne (hkeys (hsame.eq_of_length hlength))

/-- What is found for some steps, among names with different keys, is the longest name
that leads them. -/
theorem longest?_ofFn_eq_some_iff (hkeys : Function.Injective fun k => (names k).map Step.key)
    {column used : Nat} :
    longest? steps 0 (List.ofFn names) = some (column, used) ↔
      ∃ k, IsLongest (fun k => (names k).map Step.key) steps k ∧ column = k ∧
        used = (names k).length := by
  have hfound : ∀ {column used}, longest? steps 0 (List.ofFn names) = some (column, used) →
      ∃ k, IsLongest (fun k => (names k).map Step.key) steps k ∧ column = k ∧
        used = (names k).length := by
    intro column used h
    obtain ⟨i, name, hi, hname, hused, hleads⟩ := exists_of_longest? h
    obtain ⟨hlt, rfl⟩ := List.getElem?_eq_some_iff.1 hname
    rw [List.length_ofFn] at hlt
    rw [List.getElem_ofFn] at hused hleads
    refine ⟨⟨i, hlt⟩, ?_, by rw [hi, Nat.zero_add], hused⟩
    apply isLongest_of_forall_length_le hkeys (leads_iff.1 hleads)
    intro l hl
    rw [List.length_map, List.length_map, ← hused]
    exact length_le_of_longest? h (List.mem_ofFn.2 ⟨l, rfl⟩) (leads_iff.2 hl)
  constructor
  · exact hfound
  · rintro ⟨k, hk, rfl, rfl⟩
    obtain ⟨⟨column, used⟩, h⟩ := exists_longest? 0 (List.mem_ofFn.2 ⟨k, rfl⟩)
      (leads_iff.2 hk.isPrefix)
    obtain ⟨l, hl, rfl, rfl⟩ := hfound h
    rw [h, hk.unique hl]

/-- Any path into the record but the record itself is placed at the column of the longest
name that it begins with, with what is left of its steps, or it begins with no name and
has no place. -/
def BindsLongest (layout : Layout) (keys : Fin n → List Key) : Prop :=
  ∀ s ss,
    (∃ k, IsLongest keys (s :: ss) k ∧ layout.placePath ⟨.record, s :: ss⟩ =
        .ok ⟨.column k, (s :: ss).drop (keys k).length⟩) ∨
      (∀ k, ¬ keys k <+: (s :: ss).map Step.key) ∧ layout.placePath ⟨.record, s :: ss⟩ =
        .error (.unmappedColumn ⟨.record, s :: ss⟩)

theorem bindsLongest (hkeys : Function.Injective fun k => (names k).map Step.key) :
    BindsLongest ⟨some (List.ofFn names)⟩ fun k => (names k).map Step.key := by
  intro s ss
  cases h : longest? (s :: ss) 0 (List.ofFn names) with
  | none =>
      refine .inr ⟨fun k hk => ?_, ?_⟩
      · obtain ⟨found, hfound⟩ := exists_longest? 0 (List.mem_ofFn.2 ⟨k, rfl⟩)
          (leads_iff.2 hk)
        rw [hfound] at h
        cases h
      · simp only [placePath, column?, h]
  | some found =>
      obtain ⟨k, hk, hcolumn, hused⟩ := (longest?_ofFn_eq_some_iff hkeys).1 h
      refine .inl ⟨k, hk, ?_⟩
      simp only [placePath, column?, h, hcolumn, hused, List.length_map]

end

end RecordFilter.Layout
