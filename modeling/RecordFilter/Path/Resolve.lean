import RecordFilter.Error
import RecordFilter.Value.Basic

/-!
# Resolving paths

Evaluation happens in a scope: the record under test, its position, and the
cells of the columns at that position. A scope of a row has no cells and a scope
of columns no record. A path starts at its root's value and follows its steps
one by one. The value may become absent on the way; a step from null or from
an absent value faults, unless it is null-safe, which ends the path.
-/

namespace RecordFilter

/-- A position of a record among others. -/
abbrev Position := UInt64

/-- What a predicate sees while it is evaluated. -/
structure Scope where
  record : Option Value
  index : Position
  cell : Nat → Option Value

namespace Scope

/-- The scope of a record at a position. -/
def ofRecord (record : Value) (index : Position) : Scope := ⟨some record, index, fun _ => none⟩

/-- The scope of a row of columns. A column may be too short for the row. -/
def ofRow (columns : List (List Value)) (row : Position) : Scope :=
  ⟨none, row, fun n => columns[n]?.bind (·[row.toNat]?)⟩

end Scope

namespace Value

/-- The item at a position; negative positions count from the end. -/
def itemAt? (items : List Value) (position : Int) : Option Value :=
  if position < 0 then
    if items.length < position.natAbs then none else items[items.length - position.natAbs]?
  else items[position.toNat]?

/-- A count as a value. -/
def ofCount (n : Nat) : Value := integer (Int64.ofNat n)

/-- The name of the type of what was found. -/
def foundName : Option Value → String
  | none => "undefined"
  | some v => v.typeName

end Value

/-- What a key leads to. Arrays have items and a length, objects fields, strings
a length in characters. -/
def Key.lookup : Key → Value → Option Value
  | .field name, .object fields => fields.lookup name
  | .field name, .array items => if name = "length" then some (.ofCount items.length) else none
  | .field name, .string s => if name = "length" then some (.ofCount s.length) else none
  | .index position, .array items => Value.itemAt? items position.toInt
  | .index position, .object fields => fields.lookup (toString position.toInt)
  | _, _ => none

/-- The value that a root stands for. -/
def Root.value (scope : Scope) : Root → Option Value
  | .record => scope.record
  | .index => some (.integer scope.index.toInt64)
  | .column n => scope.cell n

namespace Path

/-- Follows steps from a value; `path` is the path they belong to. -/
def follow (path : Path) : List Step → Option Value → Except EvalError (Option Value)
  | [], v => .ok v
  | s :: _, none =>
    if s.optional then .ok none else .error (.nullAccess path s.key "undefined")
  | s :: _, some .null =>
    if s.optional then .ok none else .error (.nullAccess path s.key "null")
  | s :: rest, some v => follow path rest (s.key.lookup v)

@[simp] theorem follow_nil (path : Path) (v : Option Value) : follow path [] v = .ok v := by
  cases v <;> rfl

/-- The value that a path leads to. -/
def resolve (path : Path) (scope : Scope) : Except EvalError (Option Value) :=
  path.follow path.steps (path.root.value scope)

end Path

end RecordFilter
