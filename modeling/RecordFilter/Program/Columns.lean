import RecordFilter.Layout
import RecordFilter.Program.Basic

/-!
# Programs over columns

A column program answers for a row of a list of columns. The rows are those of
the first column; further columns may be shorter or longer. Filtering keeps the
columns apart: the records that match are given as one column of cells for each
column.
-/

namespace RecordFilter

/-- A program whose paths lead to cells of columns. -/
structure ColumnProgram where
  program : Program

namespace ColumnProgram

/-- The predicate of an expression in a layout, reported at its end. -/
def compileIn (layout : Layout) (named : Nat) (options : CompileOptions) (expr : Value) :
    Assembly Predicate := do
  let root ← Query.compileExpression options expr
  let root ← Assembly.rescue options.strict (layout.place options.strict root)
  Assembly.emit (.placed named)
  return root

/-- Compiles an expression for columns with the given names, or for columns by
number. A name that is no path into the record is an error, strict or not. -/
def compile (names : Option (List String)) (options : CompileOptions) (expr : Value) :
    Compilation ColumnProgram :=
  match Layout.read names with
  | .error e => ⟨.error e, []⟩
  | .ok layout =>
    let (root, draft) := compileIn layout ((names.map List.length).getD 0) options expr 0
    ⟨root.map fun root => ⟨⟨root, draft.hoisted⟩⟩, draft.events⟩

/-- The answer for a row. -/
def answer (p : ColumnProgram) (columns : List (List Value)) (row : Position) :
    Except EvalError Bool :=
  p.program.eval (.ofRow columns row)

/-- Whether a row matches. -/
def accepts (p : ColumnProgram) (columns : List (List Value)) (row : Position) : Bool :=
  isMatch (p.answer columns row)

/-- The number of rows. -/
def rowCount (columns : List (List Value)) : Nat := (columns.head?.map List.length).getD 0

/-- The matching rows among the candidates, or among all rows. -/
def filterRows (p : ColumnProgram) (columns : List (List Value))
    (candidates : Option (List Position)) : List Position :=
  ((candidates.getD (Source.positionsBelow (rowCount columns))).filter fun row =>
    row.toNat < rowCount columns).filter (p.accepts columns)

/-- The cells of the matching rows, column by column. -/
def filter (p : ColumnProgram) (columns : List (List Value))
    (candidates : Option (List Position)) : List (List Value) :=
  let rows := p.filterRows columns candidates
  columns.map fun column => rows.filterMap fun row => column[row.toNat]?

/-- The text of the predicate. -/
def body (p : ColumnProgram) : String := p.program.body

def explain (p : ColumnProgram) : String := p.program.explain

end ColumnProgram

end RecordFilter
