import Mathlib.Data.List.Forall2
import RecordFilter.Proofs.Program.Rows

/-!
# The rows of the output

A filter over columns gives one list of rows, or one column of cells for each column. Cells
go with the rows if each column has one cell for each row, from that row (`RowAligned`).

The cells are collected for each column on its own, and a row that a column does not reach
leaves no gap there: the column has the cells of the rows that it reaches, in their order.
The output is therefore aligned exactly if all columns reach all rows that are listed
(`filter_rowAligned_iff`). These are below the length of the first column, so this is so
for columns of one length.
-/

namespace RecordFilter

namespace ColumnProgram

def CellsAt (column : List Value) (rows : List Position) (cells : List Value) : Prop :=
  cells.map some = rows.map fun row => column[row.toNat]?

/-- The output has a column for each column, with its cells at the rows. -/
def RowAligned (rows : List Position) (columns output : List (List Value)) : Prop :=
  List.Forall₂ (fun column cells => CellsAt column rows cells) columns output

theorem CellsAt.length_eq {column cells : List Value} {rows : List Position}
    (h : CellsAt column rows cells) : cells.length = rows.length := by
  rw [← List.length_map some, h, List.length_map]

theorem CellsAt.lt_length {column cells : List Value} {rows : List Position}
    (h : CellsAt column rows cells) {row : Position} (hrow : row ∈ rows) :
    row.toNat < column.length := by
  have hmem : column[row.toNat]? ∈ cells.map some := by
    rw [h]
    exact List.mem_map_of_mem hrow
  obtain ⟨cell, -, hcell⟩ := List.mem_map.1 hmem
  exact (List.getElem?_eq_some_iff.1 hcell.symm).1

theorem cellsAt_filterMap (column : List Value) (rows : List Position) :
    CellsAt column (rows.filter fun row => row.toNat < column.length)
      (rows.filterMap fun row => column[row.toNat]?) := by
  induction rows with
  | nil => rfl
  | cons row rows ih =>
      cases hcell : column[row.toNat]? with
      | none =>
          have hpast : ¬ row.toNat < column.length :=
            Nat.not_lt.2 (List.getElem?_eq_none_iff.1 hcell)
          rw [List.filterMap_cons, hcell, List.filter_cons_of_neg (by simpa using hpast)]
          exact ih
      | some cell =>
          have hlt : row.toNat < column.length := (List.getElem?_eq_some_iff.1 hcell).1
          rw [List.filterMap_cons, hcell, List.filter_cons_of_pos (by simpa using hlt), CellsAt,
            List.map_cons, List.map_cons, hcell, ih]

theorem cellsAt_filterMap_iff {column : List Value} {rows : List Position} :
    CellsAt column rows (rows.filterMap fun row => column[row.toNat]?) ↔
      ∀ row ∈ rows, row.toNat < column.length := by
  constructor
  · intro h row hrow
    exact h.lt_length hrow
  · intro h
    have hcells := cellsAt_filterMap column rows
    rw [List.filter_eq_self.2 fun row hrow => decide_eq_true (h row hrow)] at hcells
    exact hcells

theorem lt_rowCount_of_mem_filterRows {p : ColumnProgram} {columns : List (List Value)}
    {candidates : Option (List Position)} {row : Position}
    (h : row ∈ p.filterRows columns candidates) : row.toNat < rowCount columns :=
  of_decide_eq_true (List.mem_filter.1 (List.mem_filter.1 h).1).2

/-- A filter gives a column for each column, with the cells of the listed rows that the
column reaches, in their order. The output keeps to the listed rows exactly if each column
reaches all of them, and so it does if no column is shorter than the first. -/
theorem filter_rowAligned_iff (p : ColumnProgram) (columns : List (List Value))
    (candidates : Option (List Position)) :
    List.Forall₂ (fun column cells => CellsAt column ((p.filterRows columns candidates).filter
        fun row => row.toNat < column.length) cells) columns (p.filter columns candidates) ∧
      (RowAligned (p.filterRows columns candidates) columns (p.filter columns candidates) ↔
        ∀ column ∈ columns, ∀ row ∈ p.filterRows columns candidates,
          row.toNat < column.length) ∧
      ((∀ column ∈ columns, rowCount columns ≤ column.length) →
        RowAligned (p.filterRows columns candidates) columns (p.filter columns candidates)) := by
  have hiff : RowAligned (p.filterRows columns candidates) columns
      (p.filter columns candidates) ↔ ∀ column ∈ columns,
        ∀ row ∈ p.filterRows columns candidates, row.toNat < column.length := by
    rw [RowAligned, filter, List.forall₂_map_right_iff, List.forall₂_same]
    exact forall₂_congr fun column _ => cellsAt_filterMap_iff
  refine ⟨?_, hiff, fun h => hiff.2 fun column hcolumn row hrow => ?_⟩
  · rw [filter, List.forall₂_map_right_iff, List.forall₂_same]
    exact fun column _ => cellsAt_filterMap column _
  · exact Nat.lt_of_lt_of_le (lt_rowCount_of_mem_filterRows hrow) (h column hcolumn)

/-- Two columns of two cells, with the second row listed first. -/
theorem filter_rowAligned_reversed :
    ∃ p, (compile none ⟨false, true, []⟩
          (.array [.string ">", .string "[0]", .integer 0])).outcome = .ok p ∧
      p.filterRows [[.integer 1, .integer 2], [.integer 5, .integer 6]] (some [1, 0]) =
        [1, 0] ∧
      RowAligned
        (p.filterRows [[.integer 1, .integer 2], [.integer 5, .integer 6]] (some [1, 0]))
        [[.integer 1, .integer 2], [.integer 5, .integer 6]]
        (p.filter [[.integer 1, .integer 2], [.integer 5, .integer 6]] (some [1, 0])) :=
  ⟨⟨⟨.test ⟨.column 0, []⟩ (.compare .gt (.integer 0)), []⟩⟩, rfl, by decide,
    (filter_rowAligned_iff _ [[.integer 1, .integer 2],
    [.integer 5, .integer 6]] (some [1, 0])).2.2 (by decide)⟩

/-- The second column has no cell in the second row, and its only cell stands where the
cells of that row are. -/
theorem filter_rowAligned_not_short :
    ∃ p, (compile none ⟨false, true, []⟩
          (.array [.string ">", .string "[0]", .integer 0])).outcome = .ok p ∧
      p.filterRows [[.integer 1, .integer 2], [.integer 5]] (some [1, 0]) = [1, 0] ∧
      p.filter [[.integer 1, .integer 2], [.integer 5]] (some [1, 0]) =
        [[.integer 2, .integer 1], [.integer 5]] ∧
      ¬ RowAligned [1, 0] [[.integer 1, .integer 2], [.integer 5]]
        [[.integer 2, .integer 1], [.integer 5]] := by
  refine ⟨⟨⟨.test ⟨.column 0, []⟩ (.compare .gt (.integer 0)), []⟩⟩, rfl, by decide, rfl,
    fun h => ?_⟩
  have hshort : CellsAt [.integer 5] [1, 0] [.integer 5] := by
    cases h with
    | cons _ h =>
        cases h with
        | cons h _ => exact h
  exact absurd hshort.length_eq (by decide)

end ColumnProgram

end RecordFilter
