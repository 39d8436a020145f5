import RecordFilter.Pattern.Walk

/-!
# Normal form

The functions here put expressions together in one form: a set of one character
is that character, characters in a row are one literal, rows and choices are
not nested in their own kind, a choice between characters is a set of them, and
what all branches of a choice begin with stands in front of it. How large the
automaton of an expression gets depends on this form.
-/

namespace RecordFilter.Pattern.Regex

/-- Matches nothing. -/
def never : Regex := .chars false .empty

/-- A set of characters. -/
def ofChars (unicode : Bool) (s : CharSet) : Regex :=
  match s.ranges with
  | [] => never
  | [(low, high)] => if low = high then .literal [Char.ofNat low] else .chars unicode s
  | _ => .chars unicode s

/-! ## Rows -/

/-- The expressions that a row consists of. -/
def parts : Regex → List Regex
  | .concatenation rs => rs
  | r => [r]

/-- Puts an expression in front of a row. -/
def prepend : Regex → List Regex → List Regex
  | .empty, rest => rest
  | .literal cs, .literal ds :: rest => .literal (cs ++ ds) :: rest
  | r, rest => r :: rest

/-- Expressions in a row as one. -/
def ofParts : List Regex → Regex
  | [] => .empty
  | [r] => r
  | rs => .concatenation rs

/-- Some expressions one after the other. -/
def concat (rs : List Regex) : Regex := ofParts ((rs.flatMap parts).foldr prepend [])

/-! ## Choices -/

mutual

/-- Whether two expressions are written the same. A group is told apart from
every other by its number. -/
def same : Regex → Regex → Bool
  | .empty, .empty => true
  | .literal cs, .literal ds => cs == ds
  | .chars u s, .chars v t => u == v && s == t
  | .look l, .look m => l == m
  | .repetition g r min max, .repetition h q min' max' =>
    g == h && min == min' && max == max' && same r q
  | .alternation rs, .alternation qs => allSame rs qs
  | .concatenation rs, .concatenation qs => allSame rs qs
  | _, _ => false

def allSame : List Regex → List Regex → Bool
  | [], [] => true
  | r :: rs, q :: qs => same r q && allSame rs qs
  | _, _ => false

end

/-- What two rows both begin with. -/
def sharedFront : List Regex → List Regex → List Regex
  | r :: rs, q :: qs => if same r q then r :: sharedFront rs qs else []
  | _, _ => []

/-- The parts of a proper row. -/
def row? : Regex → Option (List Regex)
  | .concatenation rs => some rs
  | _ => none

/-- What all branches begin with. It is looked for only if each of them is a
row of several parts. -/
def commonFront (branches : List Regex) : List Regex :=
  match branches.mapM row? with
  | some (row :: row' :: rows) => (row' :: rows).foldl sharedFront row
  | _ => []

/-- The branches that an expression offers. -/
def branches : Regex → List Regex
  | .alternation rs => rs
  | r => [r]

/-- The set of a single character. -/
def single? : Regex → Option CharSet
  | .literal [c] => some (.single c.toNat)
  | _ => none

def class? : Regex → Option CharSet
  | .chars _ s => some s
  | _ => none

/-- A choice between branches that begin with nothing in common. -/
def choice : List Regex → Regex
  | [] => never
  | [r] => r
  | rs =>
    match (rs.mapM single?).or (rs.mapM class?) with
    | some sets => .ofChars true (.ofRanges (sets.flatMap CharSet.ranges))
    | none => .alternation rs

/-- A choice between some expressions. Without their common front the branches
begin with nothing in common, since it is as long as it can be. -/
def alternate (rs : List Regex) : Regex :=
  let rs := rs.flatMap branches
  match commonFront rs with
  | [] => choice rs
  | front =>
    let rests := rs.map fun r => concat (r.parts.drop front.length)
    concat (front ++ [choice (rests.flatMap branches)])

/-! ## Repetitions -/

mutual

/-- Whether every match is known to take no character. -/
def isWidthless : Regex → Bool
  | .empty => true
  | .literal _ => false
  | .chars _ _ => false
  | .look _ => true
  | .group body => isWidthless body
  | .repetition _ body _ max => max.isSome && isWidthless body
  | .alternation branches => areWidthless branches
  | .concatenation parts => areWidthless parts

def areWidthless : List Regex → Bool
  | [] => true
  | r :: rest => isWidthless r && areWidthless rest

end

/-- A repetition. If the body takes no character, once is as good as often. -/
def repeated (greedy : Bool) (body : Regex) (min : Nat) (max : Option Nat) : Regex :=
  let (min, max) :=
    if isWidthless body then (Nat.min min 1, some (Nat.min (max.getD 1) 1)) else (min, max)
  if max = some 0 then .empty
  else if min = 1 && max = some 1 then body
  else .repetition greedy body min max

end RecordFilter.Pattern.Regex
