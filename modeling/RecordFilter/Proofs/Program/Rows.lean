import RecordFilter.Proofs.Predicate.Absent
import RecordFilter.Proofs.Program.Stages

/-!
# Rows past the end

The rows of columns are those of the first column. A filter keeps to them: a candidate
past the last row is no match, whatever the program says of it. The question whether a
single row matches is put to the program for any number, so the two agree on some
candidates exactly if the program accepts none of those past the last row
(`filterRows_agrees_iff`).

Past the end of all columns a row has no cells, and the program answers as it does without
any columns. It may still accept such a row, for the index of a row can be tested, and so
can the absence of a cell. The predicate shows whether it does (`accepts_iff_pastEnd?`): of
columns none of which is longer than the first, the two agree exactly if the predicate
answers true past the end for none of the candidates (`filterRows_eq_filter_accepts_iff_pastEnd?`).
-/

namespace RecordFilter

theorem filter_eq_filter_iff {α : Type} {f g : α → Bool} {as : List α} :
    as.filter f = as.filter g ↔ ∀ a ∈ as, f a = g a := by
  constructor
  · intro h a ha
    have hmem : a ∈ as.filter f ↔ a ∈ as.filter g := by rw [h]
    rw [List.mem_filter, List.mem_filter, and_iff_right ha, and_iff_right ha] at hmem
    exact Bool.eq_iff_iff.2 hmem
  · exact List.filter_congr

namespace ColumnProgram

theorem filterRows_eq_filter_acceptsAt (p : ColumnProgram) (columns : List (List Value))
    (candidates : List Position) :
    p.filterRows columns (some candidates) = candidates.filter (p.acceptsAt columns) := by
  rw [filterRows, Option.getD_some, List.filter_filter]
  apply List.filter_congr
  intro row _
  exact Bool.and_comm _ _

theorem acceptsAt_of_lt (p : ColumnProgram) {columns : List (List Value)} {row : Position}
    (h : row.toNat < rowCount columns) : p.acceptsAt columns row = p.accepts columns row := by
  rw [acceptsAt, decide_eq_true h, Bool.true_and]

theorem acceptsAt_of_le (p : ColumnProgram) {columns : List (List Value)} {row : Position}
    (h : rowCount columns ≤ row.toNat) : p.acceptsAt columns row = false := by
  rw [acceptsAt, decide_eq_false (Nat.not_lt.2 h), Bool.false_and]

/-- A row that no column reaches has no cells. -/
theorem answer_of_forall_length_le (p : ColumnProgram) {columns : List (List Value)}
    {row : Position} (h : ∀ column ∈ columns, column.length ≤ row.toNat) :
    p.answer columns row = p.answer [] row := by
  have hcell : (Scope.ofRow columns row).cell = (Scope.ofRow [] row).cell := by
    funext n
    change columns[n]?.bind (·[row.toNat]?) = none
    cases hn : columns[n]? with
    | none => rfl
    | some column => exact List.getElem?_eq_none (h column (List.mem_of_getElem? hn))
  have hscope : Scope.ofRow columns row = Scope.ofRow [] row :=
    congrArg (Scope.mk none row) hcell
  rw [answer, answer, hscope]

theorem filterRows_eq_filter_accepts_iff (p : ColumnProgram) (columns : List (List Value))
    (candidates : List Position) :
    p.filterRows columns (some candidates) = candidates.filter (p.accepts columns) ↔
      ∀ row ∈ candidates, rowCount columns ≤ row.toNat → p.accepts columns row = false := by
  rw [filterRows_eq_filter_acceptsAt, filter_eq_filter_iff]
  apply forall₂_congr
  intro row _
  by_cases hpast : rowCount columns ≤ row.toNat
  · rw [p.acceptsAt_of_le hpast, eq_comm]
    exact (imp_iff_right hpast).symm
  · rw [p.acceptsAt_of_lt (Nat.not_le.1 hpast)]
    exact iff_of_true rfl fun h => absurd h hpast

/-- A filter takes the candidates that are rows and match. These are the candidates that
match exactly if none matches past the last row, and past the end of all columns a row is
asked about as if there were no columns. -/
theorem filterRows_agrees_iff (p : ColumnProgram) (columns : List (List Value))
    (candidates : List Position) :
    p.filterRows columns (some candidates) =
        candidates.filter (fun row => row.toNat < rowCount columns && p.accepts columns row) ∧
      (p.filterRows columns (some candidates) = candidates.filter (p.accepts columns) ↔
        ∀ row ∈ candidates, rowCount columns ≤ row.toNat → p.accepts columns row = false) ∧
      ∀ row, (∀ column ∈ columns, column.length ≤ row.toNat) →
        p.answer columns row = p.answer [] row :=
  ⟨p.filterRows_eq_filter_acceptsAt columns candidates,
    p.filterRows_eq_filter_accepts_iff columns candidates,
    fun _ h => p.answer_of_forall_length_le h⟩

/-- A test of the index of the row matches row 5 of two rows, which no filter takes. -/
theorem filterRows_agrees_not_index :
    ∃ p, (compile none ⟨false, true, []⟩
          (.array [.string "==", .string "$i", .integer 5])).outcome = .ok p ∧
      p.filterRows [[.integer 1, .integer 2]] (some [5]) = [] ∧
      [(5 : Position)].filter (p.accepts [[.integer 1, .integer 2]]) = [5] :=
  ⟨_, rfl, by decide, by decide⟩

/-- Past the end of all columns a row is accepted exactly if the predicate answers true
there, whatever the columns hold. -/
theorem accepts_iff_pastEnd? (p : ColumnProgram) {columns : List (List Value)} {row : Position}
    (h : ∀ column ∈ columns, column.length ≤ row.toNat) :
    p.accepts columns row = true ↔
      p.program.root.pastEnd? p.program.table row = some true := by
  have hanswer := Predicate.toOption_eval_ofRow_nil p.program.table row p.program.root
  change (p.answer [] row).toOption = _ at hanswer
  rw [accepts, p.answer_of_forall_length_le h, ← hanswer]
  cases p.answer [] row with
  | error e => simp [isMatch, Except.toOption]
  | ok b => simp [isMatch, Except.toOption]

/-- Of columns none of which is longer than the first, a matcher takes the same candidates
as a filter exactly if the predicate answers true for none of those past the end. -/
theorem filterRows_eq_filter_accepts_iff_pastEnd? (p : ColumnProgram)
    {columns : List (List Value)} (h : ∀ column ∈ columns, column.length ≤ rowCount columns)
    (candidates : List Position) :
    p.filterRows columns (some candidates) = candidates.filter (p.accepts columns) ↔
      ∀ row ∈ candidates, rowCount columns ≤ row.toNat →
        p.program.root.pastEnd? p.program.table row ≠ some true := by
  rw [filterRows_eq_filter_accepts_iff]
  apply forall₂_congr
  intro row _
  apply forall_congr'
  intro hpast
  have hpastAll : ∀ column ∈ columns, column.length ≤ row.toNat :=
    fun column hcolumn => Nat.le_trans (h column hcolumn) hpast
  rw [← Bool.not_eq_true, ne_eq, p.accepts_iff_pastEnd? hpastAll]

/-- Every row past the end differs strictly from every literal, and none lies in a range. -/
example (row : Position) :
    (Predicate.test ⟨.column 0, []⟩ (.compare .strictNe (.integer 1))).pastEnd? [] row =
        some true ∧
      (Predicate.test ⟨.column 0, []⟩ (.range .closed (.integer 1) (.integer 2))).pastEnd? []
        row = some false :=
  ⟨rfl, rfl⟩

end ColumnProgram

end RecordFilter
