import RecordFilter.Registry
import RecordFilter.Test

/-!
# Predicates

The compiled form of a query: a tree whose tests refer to their literals by
slot. A node that could not be compiled is `never`. `describe` is the text of a
predicate in listings.
-/

namespace RecordFilter

inductive Predicate where
  | never
  | combine (c : Combinator) (children : List Predicate)
  | not (body : Predicate)
  | quantify (path : Path) (q : Quantifier) (body : Predicate)
  | test (path : Path) (t : Test Slot Slot)
  | custom (name : String) (op : CustomOperator) (config : Value)

namespace Predicate

/-- A combination of children; a single child stands for itself. -/
def combineAll (c : Combinator) : List Predicate → Predicate
  | [child] => child
  | children => combine c children

mutual

/-- The number of nodes, bodies of quantifiers included. -/
def size : Predicate → Nat
  | never => 1
  | combine _ children => sizeAll children + 1
  | not body => body.size + 1
  | quantify _ _ body => body.size + 1
  | test _ _ => 1
  | custom _ _ _ => 1

def sizeAll : List Predicate → Nat
  | [] => 0
  | p :: ps => p.size + sizeAll ps

end

mutual

/-- The predicate as a listing shows it. -/
def describe : Predicate → String
  | never => "never"
  | combine _ [] => "()"
  | combine c (p :: ps) => "(" ++ p.describe ++ describeRest c ps ++ ")"
  | not body => "!(" ++ body.describe ++ ")"
  | quantify path q body => q.name ++ "(" ++ path.text ++ ", " ++ body.describe ++ ")"
  | test path t => t.describe path.text
  | custom name _ config => name ++ "($, $i, " ++ config.toJson ++ ")"

/-- The children after the first one, each behind the symbol. -/
def describeRest (c : Combinator) : List Predicate → String
  | [] => ""
  | p :: ps => " " ++ c.symbol ++ " " ++ p.describe ++ describeRest c ps

end

end Predicate

end RecordFilter
