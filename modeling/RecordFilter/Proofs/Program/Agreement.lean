import RecordFilter.Proofs.Layout.Column
import RecordFilter.Proofs.Layout.Image
import RecordFilter.Proofs.Query.Paths

/-!
# Rows of columns and records

A row of columns carries a record if the name of every column leads from the record
to the cell, or, without names, if the record is the array of the cells (`Carries`).
A program over columns then answers for the row as the program over records does for
the record; only the paths that faults name may differ (`answer_alike`).

The placed predicate differs from the predicate in the paths outside of the bodies
of quantifiers alone, and placing such a path makes no difference where the layout
spreads the record over the cells (`eval_image`). In the body of a quantifier both
programs ask the same predicate of the same items.
-/

namespace RecordFilter

namespace Layout

theorem exists_of_mapM_readName {names : List String} {columns : List (List Step)}
    (h : names.mapM readName = .ok columns) {k : Nat} {steps : List Step}
    (hk : columns[k]? = some steps) :
    ∃ name, names[k]? = some name ∧ Path.read? false name = some ⟨.record, steps⟩ := by
  induction names generalizing columns k with
  | nil =>
      cases h
      cases hk
  | cons name rest ih =>
      obtain ⟨first, others, hname, hrest, rfl⟩ := mapM_readName_cons_eq_ok_iff.1 h
      cases k with
      | zero =>
          cases hk
          refine ⟨name, rfl, ?_⟩
          unfold readName at hname
          split at hname
          · next hread =>
              cases hname
              exact hread
          · cases hname
      | succ k => exact ih hrest hk

variable {layout : Layout} {table : HoistTable} {record : Value} {columns : List (List Value)}
  {row : Position}

mutual

/-- The image of a predicate answers for a row as the predicate does for the record
that the layout spreads over the row. -/
theorem eval_image (hs : layout.Spreads record (Scope.ofRow columns row).cell)
    (p : Predicate) (hfits : layout.fits p = true)
    (hroots : p.everyPath fun path => ∀ n, path.root ≠ .column n) :
    EvalError.Alike
      ((Predicate.orNever (layout.image? p)).eval table (.ofRow columns row))
      (p.eval table (.ofRecord record row)) := by
  match p with
  | .never => exact EvalError.alike_refl _
  | .combine c children => exact evalAll_images hs c children hfits hroots
  | .not body =>
      obtain ⟨body', hbody⟩ := exists_image_of_fits (p := body) hfits
      have h := eval_image hs body hfits hroots
      rw [hbody] at h
      rw [image?, hbody]
      exact h.map (! ·)
  | .quantify path q body =>
      obtain ⟨path', hpath⟩ := exists_of_fitsPath hfits
      -- The body is the same on both sides, and so are the scopes of the items.
      rw [image?, hpath]
      exact (resolve_placePath hs hroots.1 hpath).bind fun v => q.scan (body.eval table) v
  | .test path t =>
      obtain ⟨path', hpath⟩ := exists_of_fitsPath hfits
      rw [image?, hpath]
      change EvalError.Alike (Predicate.evalTest table path' t _)
        (Predicate.evalTest table path t _)
      rw [Predicate.evalTest, Predicate.evalTest]
      cases t.fetch? table with
      | none => exact EvalError.alike_refl _
      | some t => exact (resolve_placePath hs hroots hpath).bind fun v => t.holds v
  | .custom name op config => cases hfits

theorem evalAll_images (hs : layout.Spreads record (Scope.ofRow columns row).cell)
    (c : Combinator) (ps : List Predicate) (hfits : layout.fitsAll ps = true)
    (hroots : Predicate.everyPathAll (fun path => ∀ n, path.root ≠ .column n) ps) :
    EvalError.Alike
      (Predicate.evalAll table c (layout.images ps) (.ofRow columns row))
      (Predicate.evalAll table c ps (.ofRecord record row)) := by
  match ps with
  | [] => exact EvalError.alike_refl _
  | p :: ps =>
      rw [fitsAll, Bool.and_eq_true] at hfits
      have hhead := eval_image hs p hfits.1 hroots.1
      have hrest := evalAll_images hs c ps hfits.2 hroots.2
      rw [images, Predicate.evalAll, Predicate.evalAll]
      rcases hhead.cases with ⟨answer, hrow, hrecord⟩ | ⟨e, e', hrow, hrecord, he⟩
      · rw [hrow, hrecord]
        by_cases hneutral : answer = c.neutral
        · simp only [hneutral, if_true]
          exact hrest
        · simp only [hneutral, if_false]
          exact EvalError.alike_refl _
      · rw [hrow, hrecord]
        exact EvalError.alike_error he

end

end Layout

namespace ColumnProgram

/-- A row of columns carries a record: the name of each column leads to its cell,
or the record is the array of the cells if there are no names. -/
def Carries (names : Option (List String)) (columns : List (List Value)) (row : Position)
    (record : Value) : Prop :=
  match names with
  | none => ∃ cells, columns.map (·[row.toNat]?) = cells.map some ∧ record = .array cells
  | some names => ∀ (k : Nat) (name : String), names[k]? = some name → ∃ path v,
      Path.read? false name = some path ∧ path.resolve (.ofRecord record row) = .ok (some v) ∧
        columns[k]?.bind (·[row.toNat]?) = some v

theorem Carries.spreads {names : Option (List String)} {columns : List (List Value)}
    {row : Position} {record : Value} {layout : Layout} (h : Carries names columns row record)
    (hl : Layout.read names = .ok layout) :
    layout.Spreads record (Scope.ofRow columns row).cell := by
  match names with
  | none =>
      cases hl
      obtain ⟨cells, hcells, rfl⟩ := h
      apply Layout.spreads_numbered
      intro k
      have hk : columns[k]?.map (·[row.toNat]?) = cells[k]?.map some := by
        rw [← List.getElem?_map, hcells, List.getElem?_map]
      change columns[k]?.bind (·[row.toNat]?) = cells[k]?
      cases hcell : cells[k]? with
      | none =>
          rw [hcell, Option.map_none, Option.map_eq_none_iff] at hk
          rw [hk, Option.bind_none]
      | some v =>
          rw [hcell, Option.map_some, Option.map_eq_some_iff] at hk
          obtain ⟨column, hcolumn, hv⟩ := hk
          rw [hcolumn]
          exact hv
  | some names =>
      rw [Layout.read] at hl
      cases hsteps : names.mapM Layout.readName with
      | error e =>
          rw [hsteps] at hl
          cases hl
      | ok steps =>
          rw [hsteps] at hl
          cases hl
          apply Layout.spreads_named
          intro k name hk
          obtain ⟨raw, hraw, hread⟩ := Layout.exists_of_mapM_readName hsteps hk
          obtain ⟨path, v, hpath, hresolve, hcell⟩ := h k raw hraw
          rw [hread] at hpath
          cases hpath
          exact ⟨_, v, hresolve, hcell⟩

/-- Where strict compilation for columns succeeds, that for records does, and the two
programs answer alike for a row and the record that it carries. -/
theorem answer_alike {names : Option (List String)} {options : CompileOptions} {expr : Value}
    {p : ColumnProgram} (hs : options.strict = true)
    (h : (compile names options expr).outcome = .ok p) :
    ∃ q, (Program.compile options expr).outcome = .ok q ∧
      ∀ columns row record, Carries names columns row record →
        EvalError.Alike (p.answer columns row) (q.answer record row) := by
  obtain ⟨layout, hl, hvalid, hfits⟩ := of_outcome_compile_strict hs h
  rw [outcome_compile hl options expr fun _ => ⟨hvalid, hfits⟩] at h
  cases h
  refine ⟨_, Program.outcome_compile options expr fun _ => hvalid, ?_⟩
  intro columns row record hcarries
  exact Layout.eval_image (hcarries.spreads hl) _ hfits
    (Query.no_column_predicate_read options expr 0)

/-- The longer of two names leads to the cell, in a row that carries a nested record. -/
theorem answer_alike_nested :
    Carries (some [".a.b", ".a"])
        [[.object [("c", .integer 2)]], [.object [("b", .object [("c", .integer 2)])]]] 0
        (.object [("a", .object [("b", .object [("c", .integer 2)])])]) ∧
      ∃ p q, (compile (some [".a.b", ".a"]) ⟨false, true, []⟩
            (.array [.string ">", .string ".a.b.c", .integer 1])).outcome = .ok p ∧
        (Program.compile ⟨false, true, []⟩
            (.array [.string ">", .string ".a.b.c", .integer 1])).outcome = .ok q ∧
        EvalError.Alike
          (p.answer
            [[.object [("c", .integer 2)]], [.object [("b", .object [("c", .integer 2)])]]] 0)
          (q.answer (.object [("a", .object [("b", .object [("c", .integer 2)])])]) 0) := by
  have hcarries : Carries (some [".a.b", ".a"])
      [[.object [("c", .integer 2)]], [.object [("b", .object [("c", .integer 2)])]]] 0
      (.object [("a", .object [("b", .object [("c", .integer 2)])])]) := by
    intro k name hname
    match k with
    | 0 =>
        cases hname
        exact ⟨_, _, rfl, rfl, rfl⟩
    | 1 =>
        cases hname
        exact ⟨_, _, rfl, rfl, rfl⟩
    | k + 2 => cases hname
  obtain ⟨p, hp⟩ : ∃ p, (compile (some [".a.b", ".a"]) ⟨false, true, []⟩
      (.array [.string ">", .string ".a.b.c", .integer 1])).outcome = .ok p := ⟨_, rfl⟩
  obtain ⟨q, hq, halike⟩ := answer_alike rfl hp
  exact ⟨hcarries, p, q, hp, hq, halike _ _ _ hcarries⟩

end ColumnProgram

end RecordFilter
