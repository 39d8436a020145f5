import RecordFilter.Layout
import RecordFilter.Proofs.Path.Follow

/-!
# Cutting paths at a column

In a layout the front of a path leads to a column and the rest applies to the
cell. A layout spreads a record over some cells if this makes no difference: the
steps of a path lead from the record to where those behind the front lead from the
cell (`Spreads`). That is all that placing a path has to rely on
(`resolve_placePath`).

A layout with names does so if every name leads to its cell (`spreads_named`), and
a layout without names if the record is the array of its cells
(`spreads_numbered`).
-/

namespace RecordFilter.Layout

/-- The layout may cut paths into the record at its cells. -/
def Spreads (layout : Layout) (record : Value) (cell : Nat → Option Value) : Prop :=
  ∀ path steps column used, layout.column? steps = some (column, used) →
    Path.follow path steps (some record) = Path.follow path (steps.drop used) (cell column)

theorem mapM_readName_cons_eq_ok_iff {name : String} {rest : List String}
    {columns : List (List Step)} :
    (name :: rest).mapM readName = .ok columns ↔ ∃ steps others, readName name = .ok steps ∧
      rest.mapM readName = .ok others ∧ columns = steps :: others := by
  rw [List.mapM_cons]
  constructor
  · intro h
    cases hname : readName name with
    | error e =>
        rw [hname] at h
        cases h
    | ok steps =>
        cases hrest : rest.mapM readName with
        | error e =>
            rw [hname, hrest] at h
            cases h
        | ok others =>
            rw [hname, hrest] at h
            cases h
            exact ⟨steps, others, rfl, rfl, rfl⟩
  · rintro ⟨steps, others, hname, hrest, rfl⟩
    rw [hname, hrest]
    rfl

/-- What is found among some names is the first one, if it leads the steps and is longer
than what is found behind it, and otherwise what is found behind it. -/
theorem cases_of_longest?_cons {steps name : List Step} {rest : List (List Step)}
    {first : Nat} {found : Nat × Nat} (h : longest? steps first (name :: rest) = some found) :
    (leads name steps = true ∧ found = (first, name.length) ∧
        ∀ other, longest? steps (first + 1) rest = some other → other.2 < name.length) ∨
      longest? steps (first + 1) rest = some found ∧
        (leads name steps = true → name.length ≤ found.2) := by
  rw [longest?] at h
  cases hrest : longest? steps (first + 1) rest with
  | none =>
      simp only [hrest] at h
      split at h
      · next hleads => exact .inl ⟨hleads, (Option.some.inj h).symm, nofun⟩
      · cases h
  | some other =>
      simp only [hrest] at h
      split at h
      · next hlonger =>
          rw [Bool.and_eq_true, decide_eq_true_iff] at hlonger
          refine .inl ⟨hlonger.1, (Option.some.inj h).symm, ?_⟩
          rintro _ ⟨⟩
          exact hlonger.2
      · next hshorter =>
          rw [Bool.and_eq_true, decide_eq_true_iff] at hshorter
          cases h
          exact .inr ⟨rfl, fun hleads => Nat.not_lt.1 fun hlt => hshorter ⟨hleads, hlt⟩⟩

theorem exists_of_longest? {steps : List Step} {names : List (List Step)}
    {first column used : Nat} (h : longest? steps first names = some (column, used)) :
    ∃ k name, column = first + k ∧ names[k]? = some name ∧ used = name.length ∧
      leads name steps = true := by
  induction names generalizing first column used with
  | nil => cases h
  | cons name rest ih =>
      rcases cases_of_longest?_cons h with ⟨hleads, heq, -⟩ | ⟨hrest, -⟩
      · cases heq
        exact ⟨0, name, rfl, rfl, rfl, hleads⟩
      · obtain ⟨k, other, hk, hother, hused, hleads⟩ := ih hrest
        exact ⟨k + 1, other, by omega, hother, hused, hleads⟩

theorem spreads_named {names : List (List Step)} {record : Value} {cell : Nat → Option Value}
    (h : ∀ k name, names[k]? = some name → ∃ path v,
      Path.follow path name (some record) = .ok (some v) ∧ cell k = some v) :
    Spreads ⟨some names⟩ record cell := by
  intro path steps column used hcolumn
  obtain ⟨k, name, hk, hname, rfl, hleads⟩ := exists_of_longest? hcolumn
  rw [Nat.zero_add] at hk
  subst hk
  obtain ⟨other, v, hfollow, hcell⟩ := h column name hname
  -- The name and the front of the path share their keys, but not their null-safe marks.
  have hkeys : name.map Step.key = (steps.take name.length).map Step.key := by
    rw [List.map_take, ← List.length_map Step.key]
    exact List.prefix_iff_eq_take.1 (leads_iff.1 hleads)
  have hfront := Path.follow_of_keys other path hkeys hfollow
  have hsplit := Path.follow_append_of_some path _ (steps.drop name.length) hfront
  rw [List.take_append_drop] at hsplit
  rw [hsplit, hcell]

theorem spreads_numbered {cells : List Value} {cell : Nat → Option Value}
    (h : ∀ k, cell k = cells[k]?) : Spreads ⟨none⟩ (.array cells) cell := by
  intro path steps column used hcolumn
  match steps with
  | [] => cases hcolumn
  | ⟨.field name, optional⟩ :: rest => cases hcolumn
  | ⟨.index position, optional⟩ :: rest =>
      simp only [column?] at hcolumn
      split at hcolumn
      · next hpos =>
          cases hcolumn
          rw [Path.follow_cons_of_ne_null path _ _ (by simp), h]
          change path.follow rest (Value.itemAt? cells position.toInt) = path.follow rest _
          rw [Value.itemAt?, if_neg (by omega)]
      · cases hcolumn

/-- A placed path leads to the same in the row as the path does in the record. -/
theorem resolve_placePath {layout : Layout} {record : Value} {columns : List (List Value)}
    {row : Position} (hs : layout.Spreads record (Scope.ofRow columns row).cell)
    {path placed : Path} (hroot : ∀ n, path.root ≠ .column n)
    (h : layout.placePath path = .ok placed) :
    EvalError.Alike (placed.resolve (.ofRow columns row))
      (path.resolve (.ofRecord record row)) := by
  match path with
  | ⟨.record, []⟩ => cases h
  | ⟨.record, s :: ss⟩ =>
      simp only [placePath] at h
      cases hcolumn : layout.column? (s :: ss) with
      | none =>
          rw [hcolumn] at h
          cases h
      | some found =>
          obtain ⟨column, used⟩ := found
          rw [hcolumn] at h
          cases h
          change EvalError.Alike _ (Path.follow _ (s :: ss) (some record))
          rw [hs _ _ _ _ hcolumn]
          exact Path.follow_alike _ _ _ _
  | ⟨.index, steps⟩ =>
      cases h
      exact EvalError.alike_refl _
  | ⟨.column n, steps⟩ => exact absurd rfl (hroot n)

end RecordFilter.Layout
