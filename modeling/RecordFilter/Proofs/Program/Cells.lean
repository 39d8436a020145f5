import RecordFilter.Proofs.Predicate.Leaves

/-!
# The cells that decide about a row

A program over columns looks at nothing but the index of a row and the cells of the row:
once a predicate is placed, every path outside of the bodies of quantifiers starts at the
index or at a cell, no custom operator is left there, and the bodies of quantifiers name no
columns (`Predicate.KeepsToRow`). A row has no record, so a node that was left unplaced would
not fault, it would be asked about an absent value.

Rows are therefore kept apart: a row is answered by its own cells in the columns that the
predicate names, whatever the columns hold elsewhere (`answer_eq_of_cells`).
-/

namespace RecordFilter

def Root.column? : Root → Option Nat
  | column n => some n
  | _ => none

namespace Predicate

/-- The predicate is about the index and the cells of a row: all its paths start there, no
custom operator asks for a record, and what is asked of items names no columns. -/
structure KeepsToRow (p : Predicate) : Prop where
  paths : ∀ path ∈ p.outerPaths, path.root = .index ∨ ∃ n, path.root = .column n
  noCustom : ∀ name op config, .custom name op config ∉ p.leaves
  bodies : ∀ path q body, .quantify path q body ∈ p.leaves →
    body.everyPath fun path => ∀ n, path.root ≠ .column n

def columns (p : Predicate) : List Nat := p.outerPaths.filterMap fun path => path.root.column?

theorem mem_columns {p : Predicate} {path : Path} {n : Nat} (hpath : path ∈ p.outerPaths)
    (hroot : path.root = .column n) : n ∈ p.columns :=
  List.mem_filterMap.2 ⟨path, hpath, by rw [hroot, Root.column?]⟩

end Predicate

theorem Layout.root_of_placePath {layout : Layout} {path path' : Path}
    (h : layout.placePath path = .ok path') :
    path'.root = .index ∨ ∃ n, path'.root = .column n := by
  rcases cases_of_placePath h with ⟨rfl, hroot⟩ | ⟨column, used, rfl⟩
  · cases hpath : path'.root with
    | record => exact absurd hpath hroot
    | index => exact .inl rfl
    | column n => exact .inr ⟨n, rfl⟩
  · exact .inr ⟨column, rfl⟩

theorem Layout.keepsToRow_image {layout : Layout} {p : Predicate}
    (h : p.everyPath fun path => ∀ n, path.root ≠ .column n) :
    (Predicate.orNever (layout.image? p)).KeepsToRow where
  paths path' hpath' := by
    obtain ⟨leaf, hleaf, hsome⟩ := List.mem_filterMap.1 hpath'
    obtain ⟨source, -, path, other, hsource, hplaced, rfl⟩ := leaves_image p leaf hleaf
    rw [Predicate.Leaf.path?_withPath hsource] at hsome
    cases hsome
    exact root_of_placePath hplaced
  noCustom name op config hleaf := by
    obtain ⟨source, -, path, other, hsource, -, heq⟩ := leaves_image p _ hleaf
    have hsome := Predicate.Leaf.path?_withPath hsource other
    rw [← heq] at hsome
    cases hsome
  bodies path q body hleaf := by
    obtain ⟨source, hmem, _, other, -, -, heq⟩ := leaves_image p _ hleaf
    have hbody : source.body? = some body := by
      rw [← source.body?_withPath other, ← heq, Predicate.Leaf.body?]
    rw [Predicate.everyPath_iff_leaves] at h
    exact Predicate.Leaf.everyPath_body (h source hmem) hbody

theorem Path.resolve_ofRow_congr {path : Path} {columns columns' : List (List Value)}
    {row : Position} (hroot : path.root = .index ∨ ∃ n, path.root = .column n)
    (h : ∀ n, path.root = .column n →
      (Scope.ofRow columns row).cell n = (Scope.ofRow columns' row).cell n) :
    path.resolve (.ofRow columns row) = path.resolve (.ofRow columns' row) := by
  have hvalue : path.root.value (.ofRow columns row) = path.root.value (.ofRow columns' row) := by
    rcases hroot with hroot | ⟨n, hroot⟩
    · rw [hroot]
      rfl
    · rw [hroot]
      exact h n hroot
  rw [resolve, resolve, hvalue]

/-- A predicate that keeps to the row answers by the cells of the row that it names. -/
theorem Predicate.KeepsToRow.eval_eq {p : Predicate} (hp : p.KeepsToRow) (table : HoistTable)
    {columns columns' : List (List Value)} {row : Position}
    (h : ∀ n ∈ p.columns, (Scope.ofRow columns row).cell n = (Scope.ofRow columns' row).cell n) :
    p.eval table (.ofRow columns row) = p.eval table (.ofRow columns' row) :=
  p.eval_eq_of_resolve hp.noCustom fun path hpath =>
    Path.resolve_ofRow_congr (hp.paths path hpath) fun _ hroot => h _ (mem_columns hpath hroot)

namespace ColumnProgram

/-- An expression compiles for columns to a predicate that keeps to the row, and the answer
for a row is decided by the cells of the row in the columns that the predicate names. -/
theorem answer_eq_of_cells {names : Option (List String)} {layout : Layout}
    (hl : Layout.read names = .ok layout) (chain : Bool) (registry : Registry) (expr : Value) :
    ∃ p, (compile names ⟨chain, false, registry⟩ expr).outcome = .ok p ∧
      p.program.root.KeepsToRow ∧
      ∀ (columns columns' : List (List Value)) (row : Position),
        (∀ n ∈ p.program.root.columns,
          (Scope.ofRow columns row).cell n = (Scope.ofRow columns' row).cell n) →
        p.answer columns row = p.answer columns' row := by
  have hkeeps : ((Query.read ⟨chain, false, registry⟩ expr).columnProgram
      layout).program.root.KeepsToRow :=
    Layout.keepsToRow_image (Query.no_column_predicate_read _ expr 0)
  exact ⟨_, outcome_compile hl _ expr nofun, hkeeps, fun _ _ _ h => hkeeps.eval_eq _ h⟩

/-- A quantifier over the first column and a test that has no column, in two tables that
agree on one cell alone. -/
theorem answer_eq_of_cells_quantified :
    ∃ p, (compile (some [".a"]) ⟨false, false, []⟩ (.array [.string "||",
          .array [.string ">", .string ".b", .integer 0],
          .array [.string "some", .string ".a", .array [.string "==", .string ".t",
            .integer 1]]])).outcome = .ok p ∧
      p.program.root.KeepsToRow ∧ p.program.root.columns = [0] ∧
      p.answer [[.null, .array [.object [("t", .integer 1)]]], [.integer 5, .integer 6]] 1 =
        p.answer [[.integer 7, .array [.object [("t", .integer 1)]], .null]] 1 := by
  have hl : Layout.read (some [".a"]) = .ok ⟨some [[⟨.field "a", false⟩]]⟩ := rfl
  obtain ⟨p, hp, hkeeps, hanswer⟩ := answer_eq_of_cells hl false []
    (.array [.string "||", .array [.string ">", .string ".b", .integer 0],
      .array [.string "some", .string ".a", .array [.string "==", .string ".t", .integer 1]]])
  have hcolumns : p.program.root.columns = [0] := by
    cases hp
    rfl
  refine ⟨p, hp, hkeeps, hcolumns, hanswer _ _ 1 ?_⟩
  rw [hcolumns]
  exact List.forall_mem_singleton.2 rfl

end ColumnProgram

end RecordFilter
