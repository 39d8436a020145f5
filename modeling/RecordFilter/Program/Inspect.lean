import RecordFilter.Program.Columns

/-!
# Inspection texts

A compiled program, what is built from it and the compile options can be
inspected: each has a text that names its kind and shows its fields. Strings
are quoted, control characters in them written by their code point.
-/

namespace RecordFilter.Inspect

/-- A character inside quotes. -/
def escapeChar (c : Char) : List Char :=
  if c = '"' then ['\\', '"']
  else if c = '\\' then ['\\', '\\']
  else if c = '\n' then ['\\', 'n']
  else if c = '\r' then ['\\', 'r']
  else if c = '\t' then ['\\', 't']
  else if c.toNat = 0 then ['\\', '0']
  else if Json.isControl c then "\\u\x7b".toList ++ Nat.toDigits 16 c.toNat ++ ['\x7d']
  else [c]

def quote (s : String) : String := "\"" ++ String.ofList (s.toList.flatMap escapeChar) ++ "\""

/-- A kind with named fields. -/
def fields (kind : String) (fs : List (String × String)) : String :=
  kind ++ " \x7b " ++ String.intercalate ", " (fs.map fun (name, text) => name ++ ": " ++ text) ++
    " \x7d"

def list (texts : List String) : String := "[" ++ String.intercalate ", " texts ++ "]"

def program (p : Program) : String :=
  fields "Program" [("body", quote p.body), ("hoisted", toString p.table.length)]

/-- What is built around a program. -/
def around (kind : String) (p : Program) : String := fields kind [("program", program p)]

def matcher (p : Program) : String := around "Matcher" p

/-- A filter, whether it gives records or their positions. -/
def filter (p : Program) : String := around "Filter" p

def columnProgram (p : ColumnProgram) : String := "ColumnarProgram(" ++ program p.program ++ ")"

def columnMatcher (p : ColumnProgram) : String := around "ColumnarMatcher" p.program

def columnFilter (p : ColumnProgram) : String := around "ColumnarFilter" p.program

def registry (r : Registry) : String := fields "OpRegistry" [("ops", list (r.names.map quote))]

def options (o : CompileOptions) : String :=
  fields "CompileOptions"
    [("chain", toString o.chain), ("strict", toString o.strict), ("ops", registry o.registry)]

end RecordFilter.Inspect
