import RecordFilter.Predicate.Eval
import RecordFilter.Query.Compile

/-!
# Programs over records

A program is a compiled expression: its predicate and the literals that it
refers to. A program answers for one record at a position, and it filters a
source of records: of the candidate positions, in the order given, those are
hits that have a record on which the answer is true. A fault counts as no
match. A list of records is the source that has a record at each of its
places, and all its places are candidates unless others are given.
-/

namespace RecordFilter

structure Program where
  root : Predicate
  table : HoistTable

/-- What a compilation comes to, and what it reports on the way. -/
structure Compilation (α : Type) where
  outcome : Except CompileError α
  events : List Event

/-- Records by position. -/
abbrev Source := Position → Option Value

namespace Source

/-- The records of a list at their places. -/
def ofList (records : List Value) : Source := fun p => records[p.toNat]?

/-- Records with their positions; the last one of a position counts. -/
def ofEntries (entries : List (Position × Value)) : Source := fun p => entries.reverse.lookup p

/-- The positions below a number. -/
def positionsBelow (n : Nat) : List Position := (List.range n).map UInt64.ofNat

end Source

/-- Whether an evaluation came to true. -/
def isMatch : Except EvalError Bool → Bool
  | .ok b => b
  | .error _ => false

namespace Program

/-- Compiles an expression. -/
def compile (options : CompileOptions) (expr : Value) : Compilation Program :=
  let (root, draft) := Query.compileExpression options expr 0
  ⟨root.map (⟨·, draft.hoisted⟩), draft.events⟩

/-- The answer in a scope. -/
def eval (p : Program) (scope : Scope) : Except EvalError Bool := p.root.eval p.table scope

/-- The answer for a record at a position. -/
def answer (p : Program) (record : Value) (position : Position) : Except EvalError Bool :=
  p.eval (.ofRecord record position)

/-- Whether a record at a position matches. -/
def accepts (p : Program) (record : Value) (position : Position) : Bool :=
  isMatch (p.answer record position)

/-- The answer for the record at a position of a source; false where there is
none. -/
def answerAt (p : Program) (source : Source) (position : Position) : Except EvalError Bool :=
  match source position with
  | some record => p.answer record position
  | none => .ok false

/-- Whether a source has a matching record at a position. -/
def acceptsAt (p : Program) (source : Source) (position : Position) : Bool :=
  (source position).any (p.accepts · position)

/-- The candidate positions at which a record matches, with the records. -/
def hits (p : Program) (source : Source) (candidates : List Position) : List (Position × Value) :=
  candidates.filterMap fun position =>
    (source position).bind fun record =>
      if p.accepts record position then some (position, record) else none

theorem hits_append (p : Program) (source : Source) (cs ds : List Position) :
    p.hits source (cs ++ ds) = p.hits source cs ++ p.hits source ds := by
  simp [hits, List.filterMap_append]

/-- The matching positions of a source. -/
def positionsIn (p : Program) (source : Source) (candidates : List Position) : List Position :=
  (p.hits source candidates).map (·.1)

/-- The matching positions are the candidates at which the source has a matching
record, as often and in the order as they are given. -/
theorem positionsIn_eq_filter (p : Program) (source : Source) (candidates : List Position) :
    p.positionsIn source candidates = candidates.filter (p.acceptsAt source) := by
  induction candidates with
  | nil => rfl
  | cons position rest ih =>
    rw [positionsIn, hits] at ih ⊢
    rw [List.filterMap_cons, List.filter_cons, acceptsAt, ← ih]
    cases source position with
    | none => rfl
    | some record => cases h : p.accepts record position <;> simp [h]

/-- The matching records of a source. -/
def recordsIn (p : Program) (source : Source) (candidates : List Position) : List Value :=
  (p.hits source candidates).map (·.2)

/-- The candidates of a list of records: all its places unless others are
given. -/
def candidatesOf (records : List Value) (candidates : Option (List Position)) : List Position :=
  candidates.getD (Source.positionsBelow records.length)

/-- The places of a list at which a record matches. -/
def filterPositions (p : Program) (records : List Value) (candidates : Option (List Position)) :
    List Position :=
  p.positionsIn (.ofList records) (candidatesOf records candidates)

/-- The matching records of a list. -/
def filter (p : Program) (records : List Value) (candidates : Option (List Position)) :
    List Value :=
  p.recordsIn (.ofList records) (candidatesOf records candidates)

/-- The text of the predicate. -/
def body (p : Program) : String := p.root.describe

/-- The predicate on the first line, then one line for each hoisted literal. -/
def explain (p : Program) : String := p.body ++ "\n" ++ p.table.list

end Program

end RecordFilter
