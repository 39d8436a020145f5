import Std.Data.HashMap

/-!
# Tables of recent entries

A table with a fixed number of slots from keys to numbers. The hash value of a
key names its slot, and a slot holds what was put there last, so older entries
get lost. An entry keeps its key, so that nothing is found under another one.
-/

namespace RecordFilter.Pattern

structure SlotTable where
  size : Nat
  slots : Std.HashMap Nat (List Nat × Nat)

namespace SlotTable

/-- A table with nothing in its slots. -/
def empty (size : Nat) : SlotTable := ⟨size, ∅⟩

/-- The hash value of a key: each number in turn is mixed in and multiplied by
a prime. -/
def hashKey (key : List Nat) : UInt64 :=
  key.foldl (fun h n => (h ^^^ n.toUInt64) * 1099511628211) 14695981039346656037

/-- The slot of a key. -/
def slot (t : SlotTable) (key : List Nat) : Nat := (hashKey key).toNat % t.size

/-- The number stored for a key, if it is still there. -/
def find? (t : SlotTable) (key : List Nat) : Option Nat :=
  match t.slots[t.slot key]? with
  | some (key', n) => if key' = key then some n else none
  | none => none

/-- Stores a number for a key in place of what the slot held. -/
def insert (t : SlotTable) (key : List Nat) (n : Nat) : SlotTable :=
  { t with slots := t.slots.insert (t.slot key) (key, n) }

end SlotTable

end RecordFilter.Pattern
