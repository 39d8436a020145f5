import RecordFilter.Json.Printer
import RecordFilter.Value.Basic

/-!
# Membership sets

A membership test asks whether a value is one of some literals. The literals
are reduced to keys, such that two scalars that count as the same member have
one key: an integral float in the range of integers shares the key of the
integer, which also makes the two zeros one member, and every NaN has the same
key. Arrays and objects have no key and are never members. The set keeps its
literals as they were given, for listings.
-/

namespace RecordFilter

/-- What a scalar counts as among members. -/
inductive MemberKey where
  | null
  | boolean (b : Bool)
  | string (s : String)
  | integer (n : Int64)
  | float (x : Binary64)
  | nan
  deriving DecidableEq

namespace MemberKey

def ofFloat (x : Binary64) : MemberKey :=
  if x.isNaN then nan
  else match x.toInt? with
    | some n =>
      if Int64.minValue.toInt ≤ n && n ≤ Int64.maxValue.toInt then integer (Int64.ofInt n)
      else float x
    | none => float x

/-- The key of a scalar. -/
def ofValue? : Value → Option MemberKey
  | .null => some null
  | .boolean b => some (boolean b)
  | .integer n => some (integer n)
  | .float x => some (ofFloat x)
  | .string s => some (string s)
  | .array _ => none
  | .object _ => none

end MemberKey

/-- Literals and their keys, each key once. -/
structure MemberSet where
  items : List Value
  keys : List MemberKey

namespace MemberSet

def ofItems (items : List Value) : MemberSet :=
  ⟨items, (items.filterMap MemberKey.ofValue?).eraseDups⟩

def contains (s : MemberSet) (v : Value) : Bool :=
  match MemberKey.ofValue? v with
  | some key => s.keys.contains key
  | none => false

/-- The number of different members. -/
def size (s : MemberSet) : Nat := s.keys.length

def isEmpty (s : MemberSet) : Bool := s.keys.isEmpty

/-- The set as a listing shows it: its literals as given. -/
def describe (s : MemberSet) : String := "set" ++ (Value.array s.items).toJson

/-- A set contains a value exactly if one of its literals has the value's
key. -/
theorem contains_ofItems {items : List Value} {v : Value} :
    (ofItems items).contains v = true ↔
      ∃ key, MemberKey.ofValue? v = some key ∧ ∃ w ∈ items, MemberKey.ofValue? w = some key := by
  simp only [contains, ofItems]
  cases h : MemberKey.ofValue? v with
  | none => simp
  | some key => simp [List.mem_eraseDups]

end MemberSet

end RecordFilter
