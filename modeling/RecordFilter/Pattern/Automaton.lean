import RecordFilter.Pattern.ByteRanges
import RecordFilter.Pattern.LiteralTrie
import RecordFilter.Pattern.NormalForm
import RecordFilter.Pattern.SlotTable

/-!
# The automaton of an expression

An expression is accepted if its automaton fits into ten mebibytes, both the
one that reads the bytes of a text forward and the one that reads them
backward. Nothing else about an automaton shows, so it is laid out as a mere
count: each state has a number and takes 32 bytes, each transition over a range
of bytes eight, and each alternative of a choice four. Laying out stops as soon
as the limit is passed.

Counted repetitions are laid out by copies. A set beyond ASCII is laid out by
the codings of its ranges. Forward, states with the same transitions are laid
out once; backward, paths share the states of the bytes that they end on. Both
kinds of sharing go through a table of limited size.
-/

namespace RecordFilter.Pattern

/-- What has been laid out: the number of states, and the bytes of what hangs
on them. -/
structure Extent where
  states : Nat
  links : Nat

namespace Extent

/-- The bytes in all. -/
def bytes (e : Extent) : Nat := 32 * e.states + e.links

instance : Add Extent := ⟨fun d e => ⟨d.states + e.states, d.links + e.links⟩⟩

/-- The largest extent that is accepted. -/
def limit : Nat := 10 * Nat.pow 2 20

/-- A single state with some bytes hanging on it. -/
def state (links : Nat) : Extent := ⟨1, links⟩

/-- A state with a transition for each of some ranges of bytes. -/
def transitions (n : Nat) : Extent := .state (8 * n)

/-- A choice between some alternatives. -/
def alternatives (n : Nat) : Extent := .state (4 * n)

end Extent

/-- Which end of a text is read first. -/
inductive Direction where
  | forward
  | backward
  deriving DecidableEq

/-- A list in the order in which its members are met. -/
def Direction.order {α : Type} : Direction → List α → List α
  | .forward, xs => xs
  | .backward, xs => xs.reverse

/-- A step of laying out, which fails at the limit. -/
abbrev Construction := StateT Extent Option

/-- How the last state of a part is led on: a choice takes one more
alternative for it, any other state already has room. -/
inductive Exit where
  | plain
  | choice

namespace Construction

/-- Adds an extent, and tells the number of its first state. -/
def add (d : Extent) : Construction Nat := fun e =>
  let e' := e + d
  if e'.bytes ≤ Extent.limit then some (e.states, e') else none

/-- More alternatives for choices that were laid out before. -/
def link (n : Nat) : Construction Unit := do
  let _ ← add ⟨0, 4 * n⟩

/-- Leads a part on to the next state. -/
def lead : Exit → Construction Unit
  | .plain => return
  | .choice => link 1

/-- A part of plain states. -/
def plain (d : Extent) : Construction Exit := do
  let _ ← add d
  return .plain

/-- The rest of a row behind a part. -/
def rowFrom : Exit → List (Construction Exit) → Construction Exit
  | exit, [] => return exit
  | exit, part :: rest => do
    let next ← part
    lead exit
    rowFrom next rest

/-- Parts one after the other. -/
def row : List (Construction Exit) → Construction Exit
  | [] => plain (.state 0)
  | part :: rest => do rowFrom (← part) rest

/-- More copies of a part behind one. -/
def copiesFrom (part : Construction Exit) : Nat → Exit → Construction Exit
  | 0, exit => return exit
  | n + 1, exit => do
    let next ← part
    lead exit
    copiesFrom part n next

/-- Copies of a part one after the other. -/
def copies (part : Construction Exit) : Nat → Construction Exit
  | 0 => plain (.state 0)
  | n + 1 => do copiesFrom part n (← part)

/-- More copies behind a part, each of which may be left out together with
those behind it. -/
def optionalFrom (part : Construction Exit) : Nat → Exit → Construction Exit
  | 0, exit => do
    lead exit
    return .plain
  | n + 1, exit => do
    let _ ← add (.alternatives 2)
    let next ← part
    lead exit
    optionalFrom part n next

/-- Copies of a part between two counts, or without an upper count. A part that
may take nothing is kept apart from the choice to leave it out. -/
def between (part : Construction Exit) (takesSome : Bool) :
    Nat → Option Nat → Construction Exit
  | 0, some 1 => do
    let _ ← add (.alternatives 2)
    let exit ← part
    let _ ← add (.state 0)
    lead exit
    return .plain
  | min, some max => do
    let exit ← copies part min
    if max ≤ min then return exit
    let _ ← add (.state 0)
    optionalFrom part (max - min) exit
  | 0, none =>
    if takesSome then do
      let _ ← add (.alternatives 1)
      lead (← part)
      return .choice
    else do
      lead (← part)
      let _ ← add (.alternatives 2)
      let _ ← add (.alternatives 2)
      plain (.state 0)
  | min + 1, none => do
    lead (← copies part (min + 1))
    let _ ← add (.alternatives 1)
    return .choice

/-- The further branches of a choice. -/
def branchesFrom : List (Construction Exit) → Construction Exit
  | [] => return .plain
  | branch :: rest => do
    lead (← branch)
    link 1
    branchesFrom rest

/-- A choice between parts, laid out behind its first two branches. -/
def anyOf : List (Construction Exit) → Construction Exit
  | [] => plain (.state 0)
  | [branch] => branch
  | first :: second :: rest => do
    let exit ← first
    let exit' ← second
    let _ ← add (.alternatives 2)
    let _ ← add (.state 0)
    lead exit
    lead exit'
    branchesFrom rest

/-! ## Sets -/

/-- Laying out with a table of what can be shared. -/
abbrev Sharing := StateT SlotTable Construction

/-- A state under a key, laid out unless the table has it. -/
def share (key : List Nat) (d : Extent) : Sharing Nat := do
  match (← get).find? key with
  | some n => return n
  | none =>
    let n ← add d
    modify (·.insert key n)
    return n

/-- The states for sequences of byte ranges that lead to a state. States are
shared if they have the same transitions. -/
def ahead (target : Nat) : Nat → List (List ByteRange) → Sharing Nat
  | 0, _ => return target
  | fuel + 1, sequences => do
    let transitions ← (ByteRange.byFirst sequences).mapM fun ((low, high), tails) => do
      let next ← if tails.all List.isEmpty then pure target else ahead target fuel tails
      return [low, high, next]
    share transitions.flatten (.transitions transitions.length)

/-- The states that read a sequence from its last range to its first, before
the given state. States are shared if they read the same range before the same
state. -/
def behind : Nat → List ByteRange → Sharing Nat
  | target, [] => return target
  | target, (low, high) :: rest => do
    behind (← share [target, low, high] (.state 0)) rest

/-- One alternative for each sequence. -/
def eachBehind (target : Nat) : List (List ByteRange) → Sharing Unit
  | [] => return
  | sequence :: rest => do
    let _ ← behind target sequence
    link 1
    eachBehind target rest

/-- The number of states that are kept for sharing. -/
def capacity : Direction → Nat
  | .forward => 10000
  | .backward => 1000

/-- A set of characters beyond ASCII by the codings of its ranges. -/
def coded (sequences : List (List ByteRange)) : Direction → Construction Exit
  | .forward => do
    let target ← add (.state 0)
    let _ ← (ahead target 4 sequences).run (.empty (capacity .forward))
    return .plain
  | .backward => do
    let _ ← add (.alternatives 0)
    let target ← add (.state 0)
    let _ ← (eachBehind target sequences).run (.empty (capacity .backward))
    return .plain

/-- A set of characters. -/
def chars (d : Direction) (s : CharSet) : Construction Exit :=
  if s.isAscii then plain (.transitions s.ranges.length + .state 0)
  else coded (s.ranges.flatMap ByteRange.sequences) d

end Construction

/-! ## Literals -/

namespace LiteralTrie

mutual

/-- The extent of a node and those below it: a state for each group of
branches and a choice between the groups, where a closed group is followed by
the end of a literal. The leaves are one state that is not counted here. -/
def extent : LiteralTrie → Extent
  | .node closed last =>
    let groups := (closed ++ [last]).countP (!·.isEmpty)
    if groups = 0 then ⟨0, 0⟩
    else .alternatives (groups + closed.length) + extentOfGroups closed + extentOfGroup last

def extentOfGroups : List (List (Nat × LiteralTrie)) → Extent
  | [] => ⟨0, 0⟩
  | group :: rest => extentOfGroup group + extentOfGroups rest

def extentOfGroup (group : List (Nat × LiteralTrie)) : Extent :=
  let own := match group with
    | [] => ⟨0, 0⟩
    | [_] => .state 0
    | _ => .transitions group.length
  own + extentOfBranches group

def extentOfBranches : List (Nat × LiteralTrie) → Extent
  | [] => ⟨0, 0⟩
  | (_, t) :: rest => t.extent + extentOfBranches rest

end

end LiteralTrie

namespace Regex

/-- The bytes of a literal. -/
def bytesOf (cs : List Char) : List Nat := cs.flatMap fun c => ByteRange.encode c.toNat

def literal? : Regex → Option (List Nat)
  | .literal cs => some (bytesOf cs)
  | _ => none

mutual

/-- The least number of bytes that a match takes; `none` if nothing matches, or
a part that every match needs. -/
def leastBytes : Regex → Option Nat
  | .empty => some 0
  | .literal cs => some (bytesOf cs).length
  | .chars _ s => s.ranges.head?.map fun (low, _) => (ByteRange.encode low).length
  | .look _ => some 0
  | .group body => leastBytes body
  | .repetition _ body min _ => (leastBytes body).map (· * min)
  | .alternation branches => leastOfAny branches
  | .concatenation parts => leastOfAll parts

def leastOfAny : List Regex → Option Nat
  | [] => none
  | [r] => leastBytes r
  | r :: rest => do return Nat.min (← leastBytes r) (← leastOfAny rest)

def leastOfAll : List Regex → Option Nat
  | [] => some 0
  | r :: rest => do return (← leastBytes r) + (← leastOfAll rest)

end

mutual

/-- Whether every match begins where a condition holds. -/
def startsAt (l : Look) : Regex → Bool
  | .look m => m = l
  | .group body => startsAt l body
  | .repetition _ body min _ => 0 < min && startsAt l body
  | .alternation branches => allStartAt l branches
  | .concatenation parts => firstStartsAt l parts
  | _ => false

def allStartAt (l : Look) : List Regex → Bool
  | [] => true
  | r :: rest => startsAt l r && allStartAt l rest

def firstStartsAt (l : Look) : List Regex → Bool
  | [] => false
  | r :: rest => startsAt l r || (isWidthless r && firstStartsAt l rest)

end

mutual

/-- Whether every match ends where a condition holds. -/
def endsAt (l : Look) : Regex → Bool
  | .look m => m = l
  | .group body => endsAt l body
  | .repetition _ body min _ => 0 < min && endsAt l body
  | .alternation branches => allEndAt l branches
  | .concatenation parts => lastEndsAt l parts
  | _ => false

def allEndAt (l : Look) : List Regex → Bool
  | [] => true
  | r :: rest => endsAt l r && allEndAt l rest

def lastEndsAt (l : Look) : List Regex → Bool
  | [] => false
  | r :: rest => lastEndsAt l rest || (areWidthless rest && endsAt l r)

end

/-- Whether a match is bound to the end of the text that is read first. -/
def isAnchored (r : Regex) : Direction → Bool
  | .forward => startsAt .start r
  | .backward => endsAt .finish r

mutual

/-- Lays out an expression. Groups are marked by two states, forward only. -/
def construct (d : Direction) : Regex → Construction Exit
  | .empty => .plain (.state 0)
  | .literal cs => .plain ⟨(bytesOf cs).length, 0⟩
  | .chars _ s => .chars d s
  | .look _ => .plain (.state 0)
  | .group body =>
    match d with
    | .forward => .row [.plain (.state 0), construct d body, .plain (.state 0)]
    | .backward => construct d body
  | .repetition _ body min max =>
    .between (construct d body) ((leastBytes body).any (0 < ·)) min max
  | .alternation branches =>
    match branches.mapM literal? with
    | some literals => .plain (.state 0 + (LiteralTrie.ofList (literals.map d.order)).extent)
    | none => .anyOf (constructAll d branches)
  | .concatenation parts => .row (d.order (constructAll d parts))

def constructAll (d : Direction) : List Regex → List (Construction Exit)
  | [] => []
  | r :: rest => construct d r :: constructAll d rest

end

/-- Lays out the automaton that looks for an expression. Unless the expression
is anchored, a loop over single bytes stands in front. -/
def automaton (d : Direction) (r : Regex) : Construction Exit :=
  let search : Construction Exit :=
    if r.isAnchored d then .plain (.state 0)
    else .plain (.alternatives 2 + .transitions 1 + .state 0)
  .row [search, construct d (.group r), .plain (.state 0)]

/-- Whether both automata of an expression fit. -/
def fits (r : Regex) : Bool :=
  ((automaton .forward r).run ⟨0, 0⟩).isSome && ((automaton .backward r).run ⟨0, 0⟩).isSome

end Regex

end RecordFilter.Pattern
