import RecordFilter.Command.Basic

/-!
# Command line arguments

The first argument names the command, the others are its options and its one
operand, in any order. A value follows its option as the next argument or behind
an equals sign, behind a short option also directly; as the next argument it
must not look like an option. Short options may share a hyphen. After `--`
everything is an operand. Only `--names` may be given more than once, and its
values are lists with commas.

`Command.ofArguments?` answers `none` where the arguments are not used as
intended.
-/

namespace RecordFilter

/-- What the arguments of a command have said so far. -/
structure ArgumentState where
  operands : List String
  inputs : List String
  switches : List String
  names : List String

namespace ArgumentState

def start : ArgumentState := ⟨[], [], [], []⟩

/-- Which options a command has, and how many operands it needs. -/
structure Grammar where
  takesInput : Bool
  switches : List String
  operands : Nat

/-- The options that every compiling command has. -/
def compileSwitches : List String := ["--chain", "--strict", "--columnar"]

def filterGrammar : Grammar := ⟨true, "--indices" :: "--pretty" :: compileSwitches, 1⟩

def explainGrammar : Grammar := ⟨false, compileSwitches, 1⟩

def overviewGrammar : Grammar := ⟨false, [], 0⟩

def pageGrammar : Grammar := ⟨false, [], 1⟩

/-- Whether a command has the option `--names`. -/
def Grammar.takesNames (g : Grammar) : Bool := !g.switches.isEmpty

/-- The pieces of a text between commas. -/
def splitCommas (s : String) : List String := s.splitOn ","

/-- Switches an option on, once. -/
def switch? (g : Grammar) (name : String) (s : ArgumentState) : Option ArgumentState :=
  if g.switches.contains name && !s.switches.contains name then
    some { s with switches := name :: s.switches }
  else none

/-- Gives an option its value. -/
def assign? (g : Grammar) (name value : String) (s : ArgumentState) : Option ArgumentState :=
  if name = "--input" && g.takesInput && s.inputs.isEmpty then some { s with inputs := [value] }
  else if name = "--names" && g.takesNames then
    some { s with names := s.names ++ splitCommas value }
  else none

/-- Adds an operand, if the command has room for it. -/
def operand? (g : Grammar) (arg : String) (s : ArgumentState) : Option ArgumentState :=
  if s.operands.length < g.operands then some { s with operands := s.operands ++ [arg] } else none

/-- Adds operands one after the other. -/
def operands? (g : Grammar) : List String → ArgumentState → Option ArgumentState
  | [], s => some s
  | arg :: rest, s => (operand? g arg s).bind (operands? g rest)

/-- Whether an option asks for a value. -/
def takesValue (g : Grammar) (name : String) : Bool :=
  (name = "--input" && g.takesInput) || (name = "--names" && g.takesNames)

/-- Whether an argument is an option and not a value. -/
def isOption (arg : String) : Bool :=
  match arg.toList with
  | '-' :: _ :: _ => true
  | _ => false

/-- The long form of a short option. -/
def longName? : Char → Option String
  | 'i' => some "--input"
  | 'p' => some "--pretty"
  | _ => none

/-- What an argument comes to: a new state, a new state with an option that
waits for its value, or the wish for help. -/
inductive Reading where
  | done (s : ArgumentState)
  | waiting (s : ArgumentState) (name : String)
  | help

/-- The short options behind one hyphen. -/
def readShort? (g : Grammar) : List Char → ArgumentState → Option Reading
  | [], s => some (.done s)
  | 'h' :: _, _ => some .help
  | c :: cs, s => do
    let name ← longName? c
    if takesValue g name then
      match cs with
      | [] => return .waiting s name
      | '=' :: value => return .done (← assign? g name (String.ofList value) s)
      | value => return .done (← assign? g name (String.ofList value) s)
    else readShort? g cs (← switch? g name s)

/-- A long option, which may carry its value behind an equals sign. -/
def readLong? (g : Grammar) (arg : String) (s : ArgumentState) : Option Reading :=
  let cs := arg.toList
  let name := String.ofList (cs.takeWhile (· != '='))
  match cs.dropWhile (· != '=') with
  | [] =>
    if name = "--help" then some .help
    else if takesValue g name then some (.waiting s name)
    else (switch? g name s).map .done
  | _ :: value => (assign? g name (String.ofList value) s).map .done

/-- The state after all arguments; `none` inside stands for the wish for
help. -/
def read? (g : Grammar) : List String → ArgumentState → Option (Option ArgumentState)
  | [], s => some (some s)
  | "--" :: rest, s => (operands? g rest s).map some
  | arg :: rest, s =>
    if isOption arg then
      let reading :=
        match arg.toList with
        | '-' :: '-' :: _ => readLong? g arg s
        | _ :: cs => readShort? g cs s
        | [] => none
      match reading, rest with
      | none, _ => none
      | some .help, _ => some none
      | some (.done s), rest => read? g rest s
      | some (.waiting _ _), [] => none
      | some (.waiting s name), value :: rest =>
        if isOption value then none
        else match assign? g name value s with
          | some s => read? g rest s
          | none => none
    else match operand? g arg s with
      | some s => read? g rest s
      | none => none

def options (s : ArgumentState) : CommandOptions :=
  ⟨s.switches.contains "--chain", s.switches.contains "--strict",
    s.switches.contains "--columnar", s.names⟩

end ArgumentState

namespace Command

/-- The command of some arguments once they are read: `none` for the wrong
number of operands, help where it was wished for. -/
def build? (make : ArgumentState → List String → Option Command) :
    Option (Option ArgumentState) → Option Command
  | none => none
  | some none => some help
  | some (some s) => make s s.operands

/-- What an option in front of any command asks for. -/
def ofOption? (arg : String) : Option Command :=
  if arg = "--version" then some version
  else if arg = "--help" then some help
  else match arg.toList with
    | '-' :: 'V' :: _ => some version
    | '-' :: 'h' :: _ => some help
    | _ => none

/-- Whether help is wished for the program or for one of its commands. -/
def isHelpTopic : List String → Bool
  | [] => true
  | [name] => ["filter", "explain", "docs", "doc", "help"].contains name
  | _ => false

/-- The command that some arguments ask for. -/
def ofArguments? : List String → Option Command
  | "filter" :: rest =>
    build? (fun s operands =>
      match operands with
      | [expr] =>
        some (filter expr s.inputs.head? (s.switches.contains "--indices")
          (s.switches.contains "--pretty") s.options)
      | _ => none) (ArgumentState.read? ArgumentState.filterGrammar rest .start)
  | "explain" :: rest =>
    build? (fun s operands =>
      match operands with
      | [expr] => some (explain expr s.options)
      | _ => none) (ArgumentState.read? ArgumentState.explainGrammar rest .start)
  | "docs" :: rest =>
    build? (fun _ _ => some overview) (ArgumentState.read? ArgumentState.overviewGrammar rest .start)
  | "doc" :: rest =>
    build? (fun _ operands =>
      match operands with
      | [topic] => some (page topic)
      | _ => none) (ArgumentState.read? ArgumentState.pageGrammar rest .start)
  | "help" :: rest => if isHelpTopic rest then some help else none
  | arg :: _ => ofOption? arg
  | [] => none

end Command

end RecordFilter
