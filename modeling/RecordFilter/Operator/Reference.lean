import RecordFilter.Operator.Basic

/-!
# The operator reference

The texts that describe the operators to a user: an overview of all categories,
and a page for each. The lists in them are read off the catalog.
-/

namespace RecordFilter.Reference

/-- What a page is about. -/
inductive Topic where
  | paths
  | operators (c : Category)
  deriving DecidableEq

/-- A text filled up with blanks to a width. -/
def pad (width : Nat) (s : String) : String :=
  s ++ String.ofList (List.replicate (width - s.length) ' ')

def upper (s : String) : String := String.ofList (s.toList.map Char.toUpper)

/-- A name with its case and its kind of hyphen levelled. -/
def levelName (s : String) : String :=
  String.ofList (s.toList.map fun c => if c = '_' then '-' else c.toLower)

/-- The topic that a user names: a category in singular or plural, or one of
some shorter names. -/
def Topic.ofName? (s : String) : Option Topic :=
  let name := levelName s
  if name = "paths" || name = "path" then some .paths
  else if name = "compare" || name = "comparisons" then some (.operators .comparison)
  else if name = "types" || name = "type" then some (.operators .typeTest)
  else if name = "regexp" || name = "regex" then some (.operators .pattern)
  else (Category.all.find? fun c => c.name = name || c.name ++ "s" = name).map .operators

/-- The name of a topic. -/
def Topic.name : Topic → String
  | paths => "paths"
  | operators c => c.name

/-- The operators of a category with their tokens. -/
def entries (c : Category) : List (Operator × List String) :=
  Operator.catalog.filter fun (op, _) => op.category = c

def sampleNode : Category → String
  | .combinator => "[\"&&\", [\"<\", \".temp\", 110], [\"==\", \".pie.filling\", \"apple\"]]"
  | .comparison => "[\"==\", \".pie.filling\", \"apple\"]"
  | .truthiness => "[\"truthy\", \".enabled\"]"
  | .membership => "[\"in\", \".type\", [\"a\", \"b\", \"c\"]]"
  | .range => "[\"[]\", \".temp\", [90, 110]]"
  | .substring => "[\"startsWith\", \".name\", \"ap\"]"
  | .pattern => "[\"regexpi\", \".name\", \"^app\"]"
  | .quantifier => "[\"some\", \".fields\", [\"==\", \".type\", \"text\"]]"
  | .typeTest => "[\"isInteger\", \".count\"]"
  | .custom => "[\"byName\", \x7b\"name\": \"abc\"\x7d]"

def shape : Arity → String
  | .variadic => "[op, node, node, ...]"
  | .unary => "[op, path]"
  | .binary => "[op, path, operand]"
  | .aux => "[op, config]"

/-- The line of a category in the overview. -/
def overviewLine (c : Category) : String :=
  let tokens := (entries c).flatMap (·.2)
  "  " ++ pad 18 c.name ++
    (if tokens.isEmpty then "registered by the caller" else String.intercalate " " tokens) ++ "\n"

/-- All categories with their tokens. -/
def overview : String :=
  "SIEVE OPERATOR REFERENCE\n\n" ++
  "Expressions are JSON arrays: [operator, left, right]. A leading `!` on the\n" ++
  "operator negates the node, except for `!`, `!!`, `!=` and `!==`.\n\n" ++
  "DOCUMENTATION CATEGORIES\n\n" ++
  "  paths             field paths, `$`, `$i`, null-safe steps\n" ++
  String.join (Category.all.map overviewLine) ++
  "\nRun 'sieve doc <category>' for detailed documentation.\n"

/-- The line of an operator on the page of its category. -/
def operatorLine (entry : Operator × List String) : String :=
  "  " ++ pad 16 (String.intercalate " " entry.2) ++ entry.1.describe ++ "\n"

/-- The page of a category. -/
def categoryPage (c : Category) : String :=
  upper c.name ++ "\n\n" ++
  "  shape           " ++ shape c.arity ++ "\n" ++
  "  right operand   " ++ c.rightOperand ++ "\n" ++
  "  example         " ++ sampleNode c ++ "\n\n" ++
  if (entries c).isEmpty then ""
  else "TOKENS\n\n" ++ String.join ((entries c).map operatorLine)

def pathsPage : String :=
  "PATHS\n\n" ++
  "  $                 the record under test\n" ++
  "  $i                the position of the record under test\n" ++
  "  .a.b              field steps\n" ++
  "  .items[0]         index step\n" ++
  "  .items[-1]        counted from the end\n" ++
  "  .items.length     length of an array or string\n" ++
  "  .a?.b             null-safe step: null/absent short-circuits to absent\n\n" ++
  "Only letters, digits and _ . ? [ ] - $ are kept; everything else is\n" ++
  "removed before the path is read. Paths must start with `.` or `[`.\n\n" ++
  "In a columnar layout `[k]` addresses column k, or a name table maps\n" ++
  "field paths to columns.\n"

/-- The page of a topic. -/
def page : Topic → String
  | .paths => pathsPage
  | .operators c => categoryPage c

end RecordFilter.Reference
