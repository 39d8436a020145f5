/-!
# Sets of characters

A set of characters is carried as the list of its ranges of code points. The
operations keep the ranges apart and in order, so the complement is read off
the gaps between them and the other operations follow from union and
complement.
-/

namespace RecordFilter

/-- A set of code points as inclusive ranges. -/
structure CharSet where
  ranges : List (Nat × Nat)
  deriving DecidableEq, Inhabited

namespace CharSet

def empty : CharSet := ⟨[]⟩

def single (n : Nat) : CharSet := ⟨[(n, n)]⟩

def range (low high : Nat) : CharSet := ⟨[(low, high)]⟩

/-- The greatest code point. -/
def maxCode : Nat := 0x10FFFF

def containsCode (s : CharSet) (n : Nat) : Bool :=
  s.ranges.any fun (low, high) => low ≤ n && n ≤ high

def contains (s : CharSet) (c : Char) : Bool := s.containsCode c.toNat

/-- Joins a range to the ranges after it where they touch; `low` to `high` is
the range at hand. -/
def joinFrom (low high : Nat) : List (Nat × Nat) → List (Nat × Nat)
  | [] => [(low, high)]
  | (l, h) :: rest =>
    if l ≤ high + 1 then joinFrom low (max high h) rest
    else (low, high) :: joinFrom l h rest

/-- Joins touching ranges of a list in order. -/
def joinRanges : List (Nat × Nat) → List (Nat × Nat)
  | [] => []
  | (low, high) :: rest => joinFrom low high rest

/-- The set of some ranges in any order. -/
def ofRanges (rs : List (Nat × Nat)) : CharSet :=
  ⟨joinRanges (rs.mergeSort fun a b => a.1 ≤ b.1)⟩

def union (s t : CharSet) : CharSet := ofRanges (s.ranges ++ t.ranges)

/-- The ranges between `next` and `top` that the given ones leave out. -/
def gaps (top : Nat) : Nat → List (Nat × Nat) → List (Nat × Nat)
  | next, [] => if next ≤ top then [(next, top)] else []
  | next, (low, high) :: rest =>
    if next < low then (next, low - 1) :: gaps top (high + 1) rest else gaps top (high + 1) rest

/-- A range without the surrogates at its ends, which are no characters. -/
def trim : Nat × Nat → List (Nat × Nat)
  | (low, high) =>
    let isSurrogate (n : Nat) : Bool := 0xD800 ≤ n && n ≤ 0xDFFF
    let low := if isSurrogate low then 0xE000 else low
    let high := if isSurrogate high then 0xD7FF else high
    if low ≤ high then [(low, high)] else []

/-- The code points up to `top` that are not in the set. -/
def complement (top : Nat) (s : CharSet) : CharSet := ⟨(gaps top 0 s.ranges).flatMap trim⟩

def compl (s : CharSet) : CharSet := s.complement maxCode

/-- The characters that a negated class stands for. A gap between two ranges goes
from the successor of one end to the predecessor of the next; where nothing but
surrogates lies between, these are the two ends themselves, and the gap takes
them in. -/
def negation (s : CharSet) : CharSet :=
  if s.containsCode 0xD7FF && !s.containsCode 0xD800 && s.containsCode 0xE000 then
    s.compl.union (.range 0xD7FF 0xE000)
  else s.compl

def inter (s t : CharSet) : CharSet := (s.compl.union t.compl).compl

def diff (s t : CharSet) : CharSet := s.inter t.compl

def symmDiff (s t : CharSet) : CharSet := (s.diff t).union (t.diff s)

/-- No code point above 127. -/
def isAscii (s : CharSet) : Bool := s.ranges.all fun (_, high) => high ≤ 127

end CharSet

end RecordFilter
