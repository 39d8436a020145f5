import RecordFilter.Command.Arguments

/-!
# The command line

Reads the arguments, runs the command and prints what it comes to. The exit
code is 1 for an error of the command and 2 where the arguments are not used as
intended.
-/

open RecordFilter

/-- Standard input, read only by a command that needs it. -/
def commandInput : Command → IO String
  | .filter _ none _ _ _ => do (← IO.getStdin).readToEnd
  | _ => return ""

def main (args : List String) : IO UInt32 := do
  match Command.ofArguments? args with
  | none =>
    IO.eprint Command.helpText
    return 2
  | some command =>
    match command.run (← commandInput command) with
    | .ok text =>
      IO.print text
      return 0
    | .error e =>
      IO.eprintln e.message
      return 1
