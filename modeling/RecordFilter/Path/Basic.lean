/-!
# Field paths

A path starts at a root and takes steps. The root is the record under test, its
position, or the cell of a column at that position. A step goes to a field or,
by a whole number, to an item; a whole number also names the field that it
spells. A null-safe step makes the path end in an absent value where any other
step would fault.
-/

namespace RecordFilter

/-- Where a path starts. -/
inductive Root where
  | record
  | index
  | column (n : Nat)
  deriving DecidableEq

/-- What a step goes to. -/
inductive Key where
  | field (name : String)
  | index (position : Int64)
  deriving DecidableEq

structure Step where
  key : Key
  optional : Bool
  deriving DecidableEq

structure Path where
  root : Root
  steps : List Step
  deriving DecidableEq

/-- The characters of names in a path. -/
def isNameChar (c : Char) : Bool := c.isAlphanum || c == '_' || c == '-' || c == '$'

namespace Key

/-- The key as it is spelled, which is also the field that it names. -/
def text : Key → String
  | field name => name
  | index position => toString position.toInt

/-- Whether the key can stand behind a dot; every other key stands in
brackets. -/
def isPlain : Key → Bool
  | field name => name.toList.all isNameChar
  | index _ => false

end Key

namespace Step

/-- The step as a path shows it. -/
def text (s : Step) : String :=
  if s.optional then
    if s.key.isPlain then "?." ++ s.key.text else "?.[" ++ s.key.text ++ "]"
  else
    if s.key.isPlain then "." ++ s.key.text else "[" ++ s.key.text ++ "]"

end Step

namespace Root

def text : Root → String
  | record => "$"
  | index => "$i"
  | column n => "$[" ++ toString n ++ "][$i]"

end Root

namespace Path

/-- The whole record. -/
def record : Path := ⟨.record, []⟩

/-- The position of the record. -/
def index : Path := ⟨.index, []⟩

def isRecord (p : Path) : Bool := p = record

/-- The path as listings and messages show it. -/
def text (p : Path) : String := p.root.text ++ String.join (p.steps.map Step.text)

end Path

end RecordFilter
