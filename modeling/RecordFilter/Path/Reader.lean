import RecordFilter.Binary64.Numeral
import RecordFilter.Path.Basic

/-!
# Reading paths

`Path.read?` accepts `$`, `$i`, and texts that start with a dot or a bracket, a
dollar sign in front of it allowed. It first drops every character that no path
holds, then reads what is left in one pass: names stand behind dots or in
brackets, a question mark makes the next step null-safe, and brackets may hold
any characters but a closing one. Nothing that is left can be wrong, so only the
start of a text decides whether it is a path.

The pass carries the name that is being read and whether a question mark
waits for a step.
-/

namespace RecordFilter

/-- The characters that a path keeps. -/
def Path.isAllowed (c : Char) : Bool :=
  isNameChar c || c == '.' || c == '?' || c == '[' || c == ']'

/-- The key that a name stands for: an index if it is the canonical spelling of
a 64-bit integer, otherwise a field. -/
def Key.ofName (name : String) : Key :=
  match readInt? name.toList with
  | some n =>
    if Int64.minValue.toInt ≤ n && n ≤ Int64.maxValue.toInt && toString n == name then
      .index (Int64.ofInt n)
    else .field name
  | none => .field name

namespace Path

/-- What a pass over a path is in the middle of. The characters of a name so far
are kept in reverse. -/
inductive Scan where
  | between
  | name (read : List Char)
  | bracket (read : List Char)

/-- The step that a name, given in reverse, makes; an empty name makes none. -/
def stepOf (optional : Bool) (name : List Char) : List Step :=
  if name.isEmpty then [] else [⟨.ofName (String.ofList name.reverse), optional⟩]

/-- The steps of a text. `waiting` tells whether a question mark waits for the
next step; with `chain` every step is null-safe. -/
def readSteps (chain : Bool) : Scan → Bool → List Char → List Step
  | .between, _, [] => []
  | .name read, waiting, [] => stepOf (waiting || chain) read
  | .bracket read, waiting, [] => stepOf (waiting || chain) read
  | .between, waiting, c :: cs =>
    if c == '?' then readSteps chain .between true cs
    else if c == '[' then readSteps chain (.bracket []) waiting cs
    else if isNameChar c then readSteps chain (.name [c]) waiting cs
    else readSteps chain .between waiting cs
  | .name read, waiting, c :: cs =>
    if isNameChar c then readSteps chain (.name (c :: read)) waiting cs
    else stepOf (waiting || chain) read ++
      if c == '?' then readSteps chain .between true cs
      else if c == '[' then readSteps chain (.bracket []) false cs
      else readSteps chain .between false cs
  | .bracket read, waiting, c :: cs =>
    if c == ']' then
      stepOf (waiting || chain) read ++ readSteps chain .between (waiting && read.isEmpty) cs
    else readSteps chain (.bracket (c :: read)) waiting cs

/-- The part of a raw path that holds its steps, if the text starts like a
path. -/
def body? : List Char → Option (List Char)
  | '$' :: '.' :: cs => some ('.' :: cs)
  | '$' :: '[' :: cs => some ('[' :: cs)
  | '$' :: '?' :: cs => some ('?' :: cs)
  | '.' :: cs => some ('.' :: cs)
  | '[' :: cs => some ('[' :: cs)
  | _ => none

/-- The path that a raw text stands for. -/
def read? (chain : Bool) (raw : String) : Option Path :=
  if raw = "$" then some record
  else if raw = "$i" then some index
  else (body? raw.toList).map fun cs =>
    ⟨.record, readSteps chain .between false (cs.filter isAllowed)⟩

end Path

end RecordFilter
