import RecordFilter.Path.Basic
import RecordFilter.Pattern.Syntax

/-!
# Errors

What keeps an expression from being compiled, and what keeps a predicate from
being evaluated on a record. Each error carries its cause; the wording is in
`message`.
-/

namespace RecordFilter

/-- Why an expression, or one node of it, has no compiled form. -/
inductive CompileError where
  | malformed (token reason : String)
  | unknownOperator (token : String)
  | invalidPath (raw : String)
  | pattern (source : String) (fault : Pattern.Fault)
  | unmappedColumn (path : Path)
  | unsupported (token reason : String)
  deriving DecidableEq

namespace CompileError

/-- The text of an error. That of a pattern stops after the pattern. -/
def message : CompileError → String
  | malformed token reason => "malformed `" ++ token ++ "` node: " ++ reason
  | unknownOperator token => "unknown operator `" ++ token ++ "`"
  | invalidPath raw =>
    "invalid path `" ++ raw ++ "`: paths start with `.` or `[`, or are `$` / `$i`"
  | pattern source _ => "invalid pattern `" ++ source ++ "`"
  | unmappedColumn path => "path `" ++ path.text ++ "` does not address a column"
  | unsupported token reason => "`" ++ token ++ "` is not supported here: " ++ reason

end CompileError

/-- Why a predicate has no answer on a record. -/
inductive EvalError where
  | nullAccess (path : Path) (step : Key) (found : String)
  | type (operation found : String)
  deriving DecidableEq

namespace EvalError

def message : EvalError → String
  | nullAccess path step found =>
    "cannot read `" ++ step.text ++ "` of " ++ found ++ " in `" ++ path.text ++ "`"
  | type operation found => "`" ++ operation ++ "` cannot be applied to " ++ found

end EvalError

end RecordFilter
