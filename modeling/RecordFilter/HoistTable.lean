import RecordFilter.MemberSet
import RecordFilter.Pattern.Basic

/-!
# Hoisted literals

Patterns and membership sets are prepared once, when an expression is compiled,
and kept in a table. A predicate refers to them by their slots, the positions
in the table. The table only grows at its end, so a slot keeps its meaning.
-/

namespace RecordFilter

/-- The position of a literal in the table. -/
abbrev Slot := Nat

inductive Hoisted where
  | pattern (p : Pattern)
  | members (s : MemberSet)

namespace Hoisted

/-- The literal as a listing shows it. -/
def describe : Hoisted → String
  | pattern p => p.describe
  | members s => s.describe

end Hoisted

abbrev HoistTable := List Hoisted

namespace HoistTable

/-- The pattern in a slot. -/
def pattern? (table : HoistTable) (slot : Slot) : Option Pattern :=
  match table[slot]? with
  | some (.pattern p) => some p
  | _ => none

/-- The membership set in a slot. -/
def members? (table : HoistTable) (slot : Slot) : Option MemberSet :=
  match table[slot]? with
  | some (.members s) => some s
  | _ => none

/-- One line for each literal from a slot on. -/
def listFrom : Slot → HoistTable → String
  | _, [] => ""
  | slot, entry :: rest =>
    "#" ++ toString slot ++ " = " ++ entry.describe ++ "\n" ++ listFrom (slot + 1) rest

/-- One line for each literal. -/
def list (table : HoistTable) : String := listFrom 0 table

end HoistTable

end RecordFilter
