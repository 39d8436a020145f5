import RecordFilter.Unicode.CharSet

/-!
# Character tables

Properties of characters are written as text, in one of two notations. In *gap
notation* a set is the lengths of its ranges and of the gaps before them,
`gap length gap length ...`, from code point zero on. In *run notation* all
code points are covered by runs, each written as its length and its label, as
in `32Cc1Zs3Po`.
-/

namespace RecordFilter.Unicode

/-- The state of reading a table: the next code point, the number at hand, and
what was read so far in reverse. -/
structure TableState (α : Type) where
  next : Nat
  number : Nat
  label : List Char
  done : List α

namespace TableState

def start {α : Type} : TableState α := ⟨0, 0, [], []⟩

def digit {α : Type} (s : TableState α) (c : Char) : TableState α :=
  { s with number := s.number * 10 + (c.toNat - '0'.toNat) }

end TableState

/-- The numbers of a text that separates them by blanks. -/
def numbers (text : String) : List Nat :=
  let s := text.foldl (fun (s : TableState Nat) c =>
    if c.isDigit then s.digit c else { s with number := 0, done := s.number :: s.done }) .start
  (s.number :: s.done).reverse

/-- Ranges from the lengths of gaps and ranges in turn. -/
def rangesOfGaps : Nat → List Nat → List (Nat × Nat)
  | next, gap :: length :: rest =>
    (next + gap, next + gap + length - 1) :: rangesOfGaps (next + gap + length) rest
  | _, _ => []

/-- The set that a text in gap notation describes. -/
def ofGaps (text : String) : CharSet := ⟨rangesOfGaps 0 (numbers text)⟩

/-- A run of code points that share a label. -/
structure Run where
  low : Nat
  high : Nat
  label : String

namespace TableState

/-- Closes the run at hand, if there is one. -/
def close (s : TableState Run) : TableState Run :=
  if s.label.isEmpty then s
  else ⟨s.next + s.number, 0, [],
    ⟨s.next, s.next + s.number - 1, String.ofList s.label.reverse⟩ :: s.done⟩

end TableState

/-- The runs of a text in run notation. -/
def runs (text : String) : List Run :=
  (text.foldl (fun s c =>
    if c.isDigit then (if s.label.isEmpty then s else s.close).digit c
    else { s with label := c :: s.label }) TableState.start).close.done.reverse

/-- The code points whose run satisfies a condition on its label. -/
def withLabel (rs : List Run) (p : String → Bool) : CharSet :=
  ⟨CharSet.joinRanges ((rs.filter fun r => p r.label).map fun r => (r.low, r.high))⟩

end RecordFilter.Unicode
