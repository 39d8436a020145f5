import RecordFilter.Pattern.Regex

/-!
# Matching

Whether an expression occurs in a text is decided on sets of positions: each
expression maps the set of positions where a match may start to the set where
it may end. A text of `n` characters has `n + 1` positions, and a set of them
is carried as a number, whose bits tell the positions in it.

An expression is first read on the text: for each of its literals, sets and
conditions the positions where it holds are found once. What is left is a walk
over positions, in which a literal is a shift by its length.

A repetition need not be tried more than `n + 1` times: a longer run passes some
position twice without moving and can be shortened or stretched there. Rounds
that add no position end it earlier.
-/

namespace RecordFilter.Pattern

/-- A set of positions of a text: position `i` is in it if bit `i` is set. -/
abbrev Positions := Nat

namespace Positions

/-- The positions at which a list is true. From the end of the list on, the
entries that are false are counted, and the next one that is true shifts by
all of them at once. -/
def ofList (bs : List Bool) : Positions :=
  let (s, gap) := bs.foldr (fun b (s, gap) => if b then (s <<< (gap + 1) ||| 1, 0) else (s, gap + 1))
    (0, 0)
  s <<< gap

/-- All positions of a text. -/
def all (text : List Char) : Positions := ofList (true :: text.map fun _ => true)

/-- The positions in front of a character that is accepted. -/
def before (accepts : Char → Bool) (text : List Char) : Positions := ofList (text.map accepts)

/-- What is left of a text from each position on. -/
def suffixes (text : List Char) : List (List Char) :=
  text.foldr (fun c rest => (c :: rest.headD []) :: rest) [[]]

/-- The positions at which a literal occurs. -/
def occurrences (literal text : List Char) : Positions :=
  ofList ((suffixes text).map literal.isPrefixOf)

/-- The positions at which a condition holds. -/
def satisfying (l : Look) (text : List Char) : Positions :=
  ofList (List.zipWith (fun b a => l.holds b a) (none :: text.map some) (text.map some ++ [none]))

end Positions

/-- A way over positions: by some characters where they are there, past a
condition where it holds, or made up of other ways. -/
inductive Walk where
  | step (here : Positions) (length : Nat)
  | only (here : Positions)
  | rounds (body : Walk) (min more : Nat)
  | choice (branches : List Walk)
  | row (parts : List Walk)

namespace Walk

/-- Applies a map `n` times. A map that changes nothing need not be applied
again. -/
def times (f : Positions → Positions) : Nat → Positions → Positions
  | 0, s => s
  | n + 1, s =>
    let t := f s
    if t = s then s else times f n t

/-- What is reached by at most `n` applications. Each round adds what one more
application reaches, until a round adds nothing. -/
def upTo (f : Positions → Positions) : Nat → Positions → Positions
  | 0, s => s
  | n + 1, s =>
    let t := s ||| f s
    if t = s then s else upTo f n t

mutual

/-- Where a walk that starts at one of the given positions may end. -/
def ends : Walk → Positions → Positions
  | .step here length, s => (s &&& here) <<< length
  | .only here, s => s &&& here
  | .rounds body min more, s => upTo (ends body) more (times (ends body) min s)
  | .choice branches, s => endsAny branches s
  | .row parts, s => endsAll parts s

def endsAny : List Walk → Positions → Positions
  | [], _ => 0
  | w :: rest, s => ends w s ||| endsAny rest s

def endsAll : List Walk → Positions → Positions
  | [], s => s
  | w :: rest, s => endsAll rest (ends w s)

end

end Walk

namespace Regex

mutual

/-- An expression read on a text. -/
def walk (text : List Char) : Regex → Walk
  | .empty => .row []
  | .literal cs => .step (.occurrences cs text) cs.length
  | .chars _ set => .step (.before set.contains text) 1
  | .look l => .only (.satisfying l text)
  | .group body => walk text body
  | .repetition _ body min max =>
    let limit := text.length + 1
    let more := match max with
      | some max => Nat.min (max - min) limit
      | none => limit
    .rounds (walk text body) (Nat.min min limit) more
  | .alternation branches => .choice (walks text branches)
  | .concatenation parts => .row (walks text parts)

def walks (text : List Char) : List Regex → List Walk
  | [] => []
  | r :: rest => walk text r :: walks text rest

end

/-- Where a match that starts at one of the given positions may end. -/
def ends (text : List Char) (r : Regex) (s : Positions) : Positions := (r.walk text).ends s

/-- Whether a match occurs anywhere in the text. -/
def occursIn (r : Regex) (text : List Char) : Bool := ends text r (.all text) != 0

end Regex

end RecordFilter.Pattern
