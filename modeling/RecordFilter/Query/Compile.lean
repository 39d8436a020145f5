import RecordFilter.Assembly
import RecordFilter.Query.Basic

/-!
# Compiling queries

Every test of a query becomes a test of the predicate, with its membership set
or pattern hoisted into the next free slot, in the order of the expression from
left to right. An invalid node is given up, and so is a negated node below
which a node was given up: the negation of what never matches would match
everything.
-/

namespace RecordFilter

namespace Test

/-- The test with its literals hoisted. -/
def hoist : Test (List Value) Pattern → Assembly (Test Slot Slot)
  | compare op literal => return compare op literal
  | range interval min max => return range interval min max
  | truthy => return truthy
  | falsy => return falsy
  | member items => do return member (← Assembly.hoist (.members (.ofItems items)))
  | text op needle => return text op needle
  | pattern p => do return pattern (← Assembly.hoist (.pattern p))
  | type t => return type t

end Test

namespace Query

mutual

/-- The predicate of a query. -/
def compile (strict : Bool) : Query → Assembly Predicate
  | invalid error => Assembly.degrade strict error
  | negated token body => do
    let (p, degraded) ← Assembly.watch (body.compile strict)
    if degraded then
      Assembly.emit (.negatedNeverMatches token)
      return .never
    else return .not p
  | combine c children => do return .combineAll c (← compileAll strict children)
  | quantify path q body => do return .quantify path q (← body.compile strict)
  | test path t => do return .test path (← t.hoist)
  | custom name op config => return .custom name op config

/-- The predicates of some queries, one after the other. -/
def compileAll (strict : Bool) : List Query → Assembly (List Predicate)
  | [] => return []
  | q :: qs => do
    let p ← q.compile strict
    return p :: (← compileAll strict qs)

end

/-- The predicate of an expression under some options, reported at its end. -/
def compileExpression (options : CompileOptions) (expr : Value) : Assembly Predicate := do
  let root ← (read options expr).compile options.strict
  Assembly.emit (.compiled root.size (← Assembly.nextSlot) options.chain)
  return root

end Query

end RecordFilter
