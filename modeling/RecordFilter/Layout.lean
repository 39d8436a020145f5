import RecordFilter.Assembly
import RecordFilter.Path.Reader

/-!
# Column layouts

In a layout of columns a record is spread over the cells of a row. A layout
says which column the front of a path leads to: the column of the longest name
that the path starts with, the last of several equally long ones, or without
names the column of the whole number that the path starts with. What is left of
the path applies to the cell. Null-safe marks do not count when a name is
compared with a path.

A predicate is placed in a layout by placing the paths of its tests. The body
of a quantifier stays as it is, for it is about the items of a cell. A node with
a path that leads to no column, or with a custom operator, cannot be placed;
the nearest child of a combinator around it, or the whole predicate, is given
up.
-/

namespace RecordFilter

/-- The steps that lead to each column; none for columns by number. -/
structure Layout where
  names : Option (List (List Step))

namespace Layout

/-- The steps of a column's name, which has to be a path into the record. -/
def readName (name : String) : Except CompileError (List Step) :=
  match Path.read? false name with
  | some ⟨.record, s :: steps⟩ => .ok (s :: steps)
  | _ => .error (.invalidPath name)

def read : Option (List String) → Except CompileError Layout
  | none => .ok ⟨none⟩
  | some names => do return ⟨some (← names.mapM readName)⟩

/-- Whether a path starts with the keys of a name. -/
def leads : List Step → List Step → Bool
  | [], _ => true
  | _ :: _, [] => false
  | a :: as, b :: bs => a.key = b.key && leads as bs

/-- A name leads the steps whose keys begin with its keys. -/
theorem leads_iff {name steps : List Step} :
    leads name steps = true ↔ name.map Step.key <+: steps.map Step.key := by
  induction name generalizing steps with
  | nil => simp [leads]
  | cons a as ih =>
    cases steps with
    | nil => simp [leads]
    | cons b bs => simp [leads, ih, List.cons_prefix_cons]

/-- The column and length of the longest name, the last of several, that leads
some steps. `column` numbers the names from the first one given. -/
def longest? (steps : List Step) : Nat → List (List Step) → Option (Nat × Nat)
  | _, [] => none
  | column, name :: rest =>
    match longest? steps (column + 1) rest with
    | some (other, length) =>
      if leads name steps && length < name.length then some (column, name.length)
      else some (other, length)
    | none => if leads name steps then some (column, name.length) else none

/-- The column that some steps start with, and how many of them name it. -/
def column? (layout : Layout) (steps : List Step) : Option (Nat × Nat) :=
  match layout.names, steps with
  | none, ⟨.index position, _⟩ :: _ =>
    if 0 ≤ position.toInt then some (position.toInt.toNat, 1) else none
  | none, _ => none
  | some names, steps => longest? steps 0 names

/-- The path to the cell that stands for a path into the record. -/
def placePath (layout : Layout) (path : Path) : Except CompileError Path :=
  match path with
  | ⟨.record, []⟩ => .error (.unsupported "$" "a columnar layout has no whole record")
  | ⟨.record, steps⟩ =>
    match layout.column? steps with
    | some (column, used) => .ok ⟨.column column, steps.drop used⟩
    | none => .error (.unmappedColumn path)
  | path => .ok path

/-- The placed path in the course of a compilation. -/
def placed (layout : Layout) (path : Path) : Assembly Path :=
  match layout.placePath path with
  | .ok path => return path
  | .error e => Assembly.fail e

mutual

/-- The predicate in the layout. -/
def place (layout : Layout) (strict : Bool) : Predicate → Assembly Predicate
  | .never => return .never
  | .combine c children => do return .combine c (← placeAll layout strict children)
  | .not body => do return .not (← place layout strict body)
  | .quantify path q body => do return .quantify (← placed layout path) q body
  | .test path t => do return .test (← placed layout path) t
  | .custom name _ _ => Assembly.fail (.unsupported name "custom operators need whole records")

/-- The children of a combinator in the layout, each given up on its own. -/
def placeAll (layout : Layout) (strict : Bool) : List Predicate → Assembly (List Predicate)
  | [] => return []
  | p :: ps => do
    let p ← Assembly.rescue strict (place layout strict p)
    return p :: (← placeAll layout strict ps)

end

end Layout

end RecordFilter
