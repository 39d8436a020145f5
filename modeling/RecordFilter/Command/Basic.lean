import RecordFilter.Json.Reader
import RecordFilter.Operator.Reference
import RecordFilter.Program.Columns

/-!
# Commands

What the command line can be asked to do, on texts instead of values: filter a
JSON document by an expression, explain an expression, and show the operator
reference. A command comes to a text for standard output or to an error.
-/

namespace RecordFilter

/-- How a command compiles its expression. -/
structure CommandOptions where
  chain : Bool
  strict : Bool
  columnar : Bool
  names : List String

inductive Command where
  | filter (expr : String) (input : Option String) (positions pretty : Bool)
      (options : CommandOptions)
  | explain (expr : String) (options : CommandOptions)
  | overview
  | page (topic : String)
  | version
  | help

inductive CommandError where
  | compile (error : CompileError)
  | json
  | noInput
  | notAnArray (what : String)
  | unknownTopic (name : String)

namespace CommandError

def message : CommandError → String
  | compile error => "compile error: " ++ error.message
  | json => "invalid JSON"
  | noInput => "no input provided. Use --input or pipe JSON to stdin."
  | notAnArray what => what ++ " must be a JSON array"
  | unknownTopic name =>
    "unknown category: '" ++ name ++ "'\nRun 'sieve docs' to see available categories."

end CommandError

namespace CommandOptions

def compileOptions (o : CommandOptions) : CompileOptions := ⟨o.chain, o.strict, []⟩

/-- The column names; no names at all mean columns by number. -/
def columnNames (o : CommandOptions) : Option (List String) :=
  if o.names.isEmpty then none else some o.names

/-- The compiled expression for records. -/
def program (o : CommandOptions) (expr : Value) : Except CommandError Program :=
  (Program.compile o.compileOptions expr).outcome.mapError .compile

/-- The compiled expression for columns. -/
def columnProgram (o : CommandOptions) (expr : Value) : Except CommandError ColumnProgram :=
  (ColumnProgram.compile o.columnNames o.compileOptions expr).outcome.mapError .compile

end CommandOptions

namespace Command

/-- The value of a document. -/
def document (text : String) : Except CommandError Value :=
  match Json.read? Json.documentDepth text with
  | some v => .ok v
  | none => .error .json

def items (what : String) : Value → Except CommandError (List Value)
  | .array items => .ok items
  | _ => .error (.notAnArray what)

/-- Positions as a value. -/
def positionsValue (ps : List Position) : Value :=
  .array (ps.map fun p => .integer p.toInt64)

/-- The matches in a document: an array of records, or of columns. -/
def filterDocument (expr : String) (input : Option String) (positions : Bool)
    (o : CommandOptions) : Except CommandError Value := do
  let expr ← document expr
  let some input := input | .error .noInput
  let records ← items "input" (← document input)
  if o.columnar then
    let columns ← records.mapM (items "every column")
    let p ← o.columnProgram expr
    return if positions then positionsValue (p.filterRows columns none)
      else .array ((p.filter columns none).map .array)
  else
    let p ← o.program expr
    return if positions then positionsValue (p.filterPositions records none)
      else .array (p.filter records none)

/-- The listing of a compiled expression. -/
def explainText (expr : String) (o : CommandOptions) : Except CommandError String := do
  let expr ← document expr
  if o.columnar then return (← o.columnProgram expr).explain
  else return (← o.program expr).explain

/-- The topic that a user names. -/
def topic (name : String) : Except CommandError Reference.Topic :=
  match Reference.Topic.ofName? name with
  | some t => .ok t
  | none => .error (.unknownTopic name)

def versionText : String := "sieve 0.1.0\n"

/-- How the program is called. -/
def helpText : String :=
  "Sieve - compile JSON filter expressions and run them over records\n\n" ++
  "Usage:\n" ++
  "  sieve filter EXPR [-i|--input TEXT] [--indices] [-p|--pretty] [COMPILE]\n" ++
  "  sieve explain EXPR [COMPILE]\n" ++
  "  sieve docs\n" ++
  "  sieve doc CATEGORY\n" ++
  "COMPILE is any of --chain, --strict, --columnar and --names A,B\n"

/-- What a command prints; `stdin` is its input where none is given. -/
def run (stdin : String) : Command → Except CommandError String
  | filter expr input positions pretty o => do
    let matched ← filterDocument expr (some (input.getD stdin)) positions o
    return (if pretty then matched.toJsonIndented else matched.toJson) ++ "\n"
  | explain expr o => explainText expr o
  | overview => .ok Reference.overview
  | page name => do return Reference.page (← topic name)
  | version => .ok versionText
  | help => .ok helpText

end Command

end RecordFilter
