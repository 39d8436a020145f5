/-!
# Operators

The closed table of built-in operators. Every operator belongs to a category,
which fixes the shape of its operands, and is written by any of its tokens, the
first of which is the canonical one. No token belongs to two operators, so
looking a token up finds the operator that lists it.
-/

namespace RecordFilter

/-- How many operands follow a token. -/
inductive Arity where
  | variadic
  | unary
  | binary
  | aux
  deriving DecidableEq

inductive Category where
  | combinator
  | comparison
  | truthiness
  | membership
  | range
  | substring
  | pattern
  | quantifier
  | typeTest
  | custom
  deriving DecidableEq

inductive Combinator where
  | all
  | any
  deriving DecidableEq

inductive Comparison where
  | eq
  | ne
  | strictEq
  | strictNe
  | ge
  | le
  | lt
  | gt
  deriving DecidableEq

/-- Which ends belong to a range. -/
inductive Interval where
  | closed
  | openEnds
  | closedOpen
  | openClosed
  deriving DecidableEq

inductive TextTest where
  | includes
  | startsWith
  | endsWith
  deriving DecidableEq

inductive Quantifier where
  | any
  | all
  deriving DecidableEq

inductive TypeTest where
  | isInteger
  | isFinite
  | isNaN
  | isArray
  deriving DecidableEq

inductive Operator where
  | combine (c : Combinator)
  | compare (c : Comparison)
  | truthy
  | falsy
  | member
  | range (i : Interval)
  | text (t : TextTest)
  | regexp (ignoreCase : Bool)
  | quantify (q : Quantifier)
  | typeTest (t : TypeTest)
  deriving DecidableEq

namespace Category

/-- Every category, in the order of the reference. -/
def all : List Category :=
  [combinator, comparison, truthiness, membership, range, substring, pattern, quantifier, typeTest,
    custom]

def name : Category → String
  | combinator => "combinator"
  | comparison => "comparison"
  | truthiness => "truthiness"
  | membership => "membership"
  | range => "range"
  | substring => "substring"
  | pattern => "pattern"
  | quantifier => "quantifier"
  | typeTest => "type-test"
  | custom => "custom"

def arity : Category → Arity
  | combinator => .variadic
  | truthiness => .unary
  | typeTest => .unary
  | custom => .aux
  | _ => .binary

/-- The shape of the right operand, in words. -/
def rightOperand : Category → String
  | combinator => "list of child nodes"
  | comparison => "scalar literal"
  | truthiness => "none"
  | membership => "literal list"
  | range => "[min, max]"
  | substring => "string literal"
  | pattern => "pattern source string"
  | quantifier => "nested expression node"
  | typeTest => "none"
  | custom => "caller-defined (left operand is passed as configuration)"

end Category

namespace Combinator

/-- The answer of no children at all, which every further child has to share
for the answer to stand. -/
def neutral : Combinator → Bool
  | all => true
  | any => false

def symbol : Combinator → String
  | all => "&&"
  | any => "||"

end Combinator

namespace Comparison

def symbol : Comparison → String
  | eq => "=="
  | ne => "!="
  | strictEq => "==="
  | strictNe => "!=="
  | ge => ">="
  | le => "<="
  | lt => "<"
  | gt => ">"

end Comparison

namespace Interval

/-- The comparison with the lower bound. -/
def lower : Interval → Comparison
  | closed => .ge
  | closedOpen => .ge
  | openEnds => .gt
  | openClosed => .gt

/-- The comparison with the upper bound. -/
def upper : Interval → Comparison
  | closed => .le
  | openClosed => .le
  | openEnds => .lt
  | closedOpen => .lt

end Interval

namespace TextTest

def name : TextTest → String
  | includes => "includes"
  | startsWith => "starts_with"
  | endsWith => "ends_with"

end TextTest

namespace Quantifier

/-- The answer of no items at all, which every further item has to share for
the answer to stand. -/
def neutral : Quantifier → Bool
  | any => false
  | all => true

def name : Quantifier → String
  | any => "some"
  | all => "every"

end Quantifier

namespace TypeTest

def name : TypeTest → String
  | isInteger => "is_integer"
  | isFinite => "is_finite"
  | isNaN => "is_nan"
  | isArray => "is_array"

end TypeTest

namespace Operator

/-- Every operator with its tokens, the canonical one first. -/
def catalog : List (Operator × List String) := [
  (combine .all, ["&&"]),
  (combine .any, ["||"]),
  (compare .eq, ["=="]),
  (compare .ne, ["!="]),
  (compare .strictEq, ["==="]),
  (compare .strictNe, ["!=="]),
  (compare .ge, [">="]),
  (compare .le, ["<="]),
  (compare .lt, ["<"]),
  (compare .gt, [">"]),
  (truthy, ["truthy", "!!"]),
  (falsy, ["falsy", "!"]),
  (member, ["in", ","]),
  (range .closed, ["[]", "-"]),
  (range .openEnds, ["()"]),
  (range .closedOpen, ["[)"]),
  (range .openClosed, ["(]"]),
  (text .includes, ["includes", "*"]),
  (text .startsWith, ["startsWith", "^"]),
  (text .endsWith, ["endsWith", "$"]),
  (regexp false, ["regexp", "/", "re"]),
  (regexp true, ["regexpi", "/i", "rei"]),
  (quantify .any, ["some"]),
  (quantify .all, ["every"]),
  (typeTest .isInteger, ["isInteger"]),
  (typeTest .isFinite, ["isFinite"]),
  (typeTest .isNaN, ["isNaN"]),
  (typeTest .isArray, ["isArray"])]

/-- The operator that a bare token stands for. -/
def ofToken? (token : String) : Option Operator :=
  (catalog.find? fun entry => entry.2.contains token).map (·.1)

/-- The tokens of an operator, the canonical one first. -/
def tokens (op : Operator) : List String := (catalog.lookup op).getD []

def category : Operator → Category
  | combine _ => .combinator
  | compare _ => .comparison
  | truthy => .truthiness
  | falsy => .truthiness
  | member => .membership
  | range _ => .range
  | text _ => .substring
  | regexp _ => .pattern
  | quantify _ => .quantifier
  | typeTest _ => .typeTest

/-- What an operator asks for, in one line. -/
def describe : Operator → String
  | combine .all => "every child matches"
  | combine .any => "at least one child matches"
  | compare .eq => "loosely equal"
  | compare .ne => "not loosely equal"
  | compare .strictEq => "same type and value"
  | compare .strictNe => "different type or value"
  | compare .ge => "greater than or equal"
  | compare .le => "less than or equal"
  | compare .lt => "less than"
  | compare .gt => "greater than"
  | truthy => "value is truthy"
  | falsy => "value is falsy"
  | member => "value is one of the listed literals"
  | range .closed => "min <= value <= max"
  | range .openEnds => "min < value < max"
  | range .closedOpen => "min <= value < max"
  | range .openClosed => "min < value <= max"
  | text .includes => "string or array contains the needle"
  | text .startsWith => "string starts with the needle"
  | text .endsWith => "string ends with the needle"
  | regexp false => "display text matches the pattern"
  | regexp true => "display text matches the pattern, ignoring case"
  | quantify .any => "at least one element matches the body"
  | quantify .all => "every element matches the body"
  | typeTest .isInteger => "number with no fractional part"
  | typeTest .isFinite => "finite number"
  | typeTest .isNaN => "value is NaN"
  | typeTest .isArray => "array"

end Operator

/-- A token with its negation mark taken off. -/
structure Token where
  name : String
  negated : Bool
  deriving DecidableEq

namespace Token

/-- Whether a leading `!` is part of the token. -/
def isAtomic (raw : String) : Bool := ["!", "!!", "!=", "!=="].contains raw

/-- Takes one leading `!` off a token, unless it is part of the token or all of
it. -/
def resolve (raw : String) : Token :=
  match raw.toList with
  | '!' :: rest => if rest.isEmpty || isAtomic raw then ⟨raw, false⟩ else ⟨String.ofList rest, true⟩
  | _ => ⟨raw, false⟩

end Token

end RecordFilter
