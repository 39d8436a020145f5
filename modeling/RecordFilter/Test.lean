import RecordFilter.HoistTable
import RecordFilter.Operator.Basic
import RecordFilter.Path.Resolve
import RecordFilter.Text.Search
import RecordFilter.Value.Compare
import RecordFilter.Value.Text

/-!
# Tests

A test is what an operator asks of the value that a path leads to. The type of
tests leaves open how membership sets and patterns are given: a query holds the
literals themselves, a compiled predicate their slots in the hoist table, and
`holds` takes them prepared. `Test.fetch?` goes from slots to what the table
holds there.
-/

namespace RecordFilter

inductive Test (μ ρ : Type) where
  | compare (op : Comparison) (literal : Value)
  | range (interval : Interval) (min max : Value)
  | truthy
  | falsy
  | member (set : μ)
  | text (op : TextTest) (needle : Value)
  | pattern (p : ρ)
  | type (t : TypeTest)

namespace Comparison

/-- Loose equality with a value that may be absent; absent equals null. -/
def looselyEqual (v : Option Value) (literal : Value) : Bool :=
  match v, literal with
  | some v, literal => v.looseEq literal
  | none, .null => true
  | none, _ => false

/-- Strict equality with a value that may be absent; absent equals nothing. -/
def strictlyEqual (v : Option Value) (literal : Value) : Bool := v.any (·.strictEq literal)

/-- The order of a value that may be absent; absent is unordered. -/
def order? (v : Option Value) (literal : Value) : Option Ordering := v.bind (·.relate literal)

/-- Whether a value compares to a literal as asked. -/
def holds (op : Comparison) (v : Option Value) (literal : Value) : Bool :=
  match op with
  | .eq => looselyEqual v literal
  | .ne => !looselyEqual v literal
  | .strictEq => strictlyEqual v literal
  | .strictNe => !strictlyEqual v literal
  | .lt => order? v literal == some .lt
  | .le => order? v literal == some .lt || order? v literal == some .eq
  | .gt => order? v literal == some .gt
  | .ge => order? v literal == some .gt || order? v literal == some .eq

end Comparison

namespace TypeTest

def holds : TypeTest → Option Value → Bool
  | .isInteger, some (.integer _) => true
  | .isInteger, some (.float x) => x.isIntegral
  | .isFinite, some (.integer _) => true
  | .isFinite, some (.float x) => x.isFinite
  | .isNaN, some (.float x) => x.isNaN
  | .isArray, some (.array _) => true
  | _, _ => false

end TypeTest

namespace TextTest

/-- Whether a string contains a needle at the place that is asked for. -/
def holds (op : TextTest) (needle text : List Char) : Bool :=
  match op with
  | .includes => Text.occursIn needle text
  | .startsWith => needle.isPrefixOf text
  | .endsWith => needle.isSuffixOf text

end TextTest

namespace Test

/-- The text that a needle stands for in a string. -/
def needleText (needle : Value) : String := needle.displayText?.getD ""

/-- A substring test. Strings are searched for the needle's text, arrays for
the needle itself. -/
def textHolds (op : TextTest) (needle : Value) : Option Value → Except EvalError Bool
  | some (.string s) => .ok (op.holds (needleText needle).toList s.toList)
  | some (.array items) =>
    match op with
    | .includes => .ok (items.any (·.sameValueZero needle))
    | op => .error (.type op.name "array")
  | v => .error (.type op.name (Value.foundName v))

/-- A pattern test, of the display text of the value. -/
def patternHolds (p : Pattern) : Option Value → Except EvalError Bool
  | none => .ok (p.isMatch "undefined")
  | some v =>
    match v.displayText? with
    | some shown => .ok (p.isMatch shown)
    | none => .error (.type "pattern test" v.typeName)

/-- Whether a test holds of the value that its path leads to. -/
def holds (t : Test MemberSet Pattern) (v : Option Value) : Except EvalError Bool :=
  match t with
  | compare op literal => .ok (op.holds v literal)
  | range interval min max =>
    .ok (interval.lower.holds v min && interval.upper.holds v max)
  | truthy => .ok (v.any Value.isTruthy)
  | falsy => .ok (!v.any Value.isTruthy)
  | member set => .ok (v.any set.contains)
  | text op needle => textHolds op needle v
  | pattern p => patternHolds p v
  | type t => .ok (t.holds v)

/-- The test with its literals taken from the table; none if a slot does not
hold what the test needs. -/
def fetch? (table : HoistTable) : Test Slot Slot → Option (Test MemberSet Pattern)
  | compare op literal => some (compare op literal)
  | range interval min max => some (range interval min max)
  | truthy => some truthy
  | falsy => some falsy
  | member slot => (table.members? slot).map member
  | text op needle => some (text op needle)
  | pattern slot => (table.pattern? slot).map pattern
  | type t => some (type t)

/-- The test with its membership literals prepared. -/
def prepare : Test (List Value) Pattern → Test MemberSet Pattern
  | compare op literal => compare op literal
  | range interval min max => range interval min max
  | truthy => truthy
  | falsy => falsy
  | member items => member (.ofItems items)
  | text op needle => text op needle
  | pattern p => pattern p
  | type t => type t

/-- The test as a listing shows it, behind the text of its path. -/
def describe (path : String) : Test Slot Slot → String
  | compare op literal => path ++ " " ++ op.symbol ++ " " ++ literal.toJson
  | range interval min max =>
    path ++ " " ++ interval.lower.symbol ++ " " ++ min.toJson ++ " && " ++
      path ++ " " ++ interval.upper.symbol ++ " " ++ max.toJson
  | truthy => "truthy(" ++ path ++ ")"
  | falsy => "falsy(" ++ path ++ ")"
  | member slot => path ++ " in #" ++ toString slot
  | text op needle => op.name ++ "(" ++ path ++ ", " ++ needle.toJson ++ ")"
  | pattern slot => path ++ " =~ #" ++ toString slot
  | type t => t.name ++ "(" ++ path ++ ")"

end Test

end RecordFilter
