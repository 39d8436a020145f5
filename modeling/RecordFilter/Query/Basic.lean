import RecordFilter.CompileOptions
import RecordFilter.Path.Reader
import RecordFilter.Test

/-!
# Queries

An expression is an array whose first item is an operator token and whose other
items are operands. A query is what an expression says once every node has been
looked at on its own: the token is resolved, the path read, the operands have
the shape that the operator asks for. A node that fails any of this is a leaf
`invalid` with the reason, whatever is below it.

Reading a query never fails and takes no regard of strictness.
-/

namespace RecordFilter

inductive Query where
  | invalid (error : CompileError)
  | negated (token : String) (body : Query)
  | combine (c : Combinator) (children : List Query)
  | quantify (path : Path) (q : Quantifier) (body : Query)
  | test (path : Path) (t : Test (List Value) Pattern)
  | custom (name : String) (op : CustomOperator) (config : Value)

/-- The token and the operands of an expression node. -/
structure Expression where
  token : String
  operands : List Value

namespace Expression

/-- What is wrong with a value that is no expression node. -/
def shapeError : Value → CompileError
  | .array [] => .malformed "[]" "empty node"
  | .array (head :: _) =>
    .malformed head.typeName "the first element of a node must be an operator token"
  | v => .malformed v.typeName "a node must be an array"

/-- Takes a node apart, if it is a node at all. -/
def ofValue : Value → Except CompileError Expression
  | .array (.string token :: operands) => .ok ⟨token, operands⟩
  | v => .error (shapeError v)

def left? (e : Expression) : Option Value := e.operands.head?

def right? (e : Expression) : Option Value := e.operands[1]?

end Expression

namespace Query

/-- A literal that a test for a substring accepts. Only an array can contain
anything but a string. -/
def isNeedle (op : TextTest) : Value → Bool
  | .string _ => true
  | v => op = .includes && v.isScalar

/-- The test that an operator makes of its right operand. -/
def testOf (op : Operator) (token : String) (right : Option Value) :
    Except CompileError (Test (List Value) Pattern) :=
  match op, right with
  | .compare c, right =>
    match right.filter Value.isScalar with
    | some literal => .ok (.compare c literal)
    | none => .error (.malformed token "a comparison needs a scalar literal")
  | .truthy, _ => .ok .truthy
  | .falsy, _ => .ok .falsy
  | .member, some (.array items) => .ok (.member items)
  | .member, _ => .error (.malformed token "membership needs a literal list")
  | .range interval, some (.array (min :: max :: _)) => .ok (.range interval min max)
  | .range _, _ => .error (.malformed token "a range needs [min, max]")
  | .text t, right =>
    match right.filter (isNeedle t) with
    | some needle => .ok (.text t needle)
    | none => .error (.malformed token "a substring test needs a string literal")
  | .regexp ignoreCase, some (.string source) =>
    match Pattern.read source ignoreCase with
    | .ok p => .ok (.pattern p)
    | .error fault => .error (.pattern source fault)
  | .regexp _, _ => .error (.malformed token "a pattern test needs a pattern string")
  | .typeTest t, _ => .ok (.type t)
  | .quantify _, _ => .error (.malformed token "a quantifier needs a nested node")
  | .combine _, _ => .error (.malformed token "a combinator needs at least one child")

/-- The path that a left operand spells. -/
def pathOf (chain : Bool) (token : String) : Option Value → Except CompileError Path
  | some (.string raw) =>
    match Path.read? chain raw with
    | some path => .ok path
    | none => .error (.invalidPath raw)
  | _ => .error (.malformed token "the left operand must be a field path")

/-- The query of a built-in operator. `children` are the queries that the
operands would be as nodes. -/
def ofOperator (chain : Bool) (op : Operator) (e : Expression) (children : List Query) :
    Except CompileError Query :=
  match op with
  | .combine c =>
    if children.isEmpty then
      .error (.malformed e.token "a combinator needs at least one child")
    else .ok (combine c children)
  | .quantify q => do
    let path ← pathOf chain e.token e.left?
    match children[1]? with
    | some body => .ok (quantify path q body)
    | none => .error (.malformed e.token "a quantifier needs a nested node")
  | op => do
    let path ← pathOf chain e.token e.left?
    return test path (← testOf op e.token e.right?)

/-- The query of a node without regard to negation. -/
def ofNode (options : CompileOptions) (name : String) (e : Expression) (children : List Query) :
    Except CompileError Query :=
  match options.registry.get? name with
  | some op => .ok (custom name op (e.left?.getD .null))
  | none =>
    match Operator.ofToken? name with
    | some op => ofOperator options.chain op e children
    | none => .error (.unknownOperator e.token)

/-- The query of a node. A node that is not as it should be is invalid as a
whole, negated or not. -/
def ofExpression (options : CompileOptions) (e : Expression) (children : List Query) : Query :=
  let token := Token.resolve e.token
  match ofNode options token.name e children with
  | .error error => invalid error
  | .ok query => if token.negated then negated e.token query else query

mutual

/-- The query that an expression says. -/
def read (options : CompileOptions) : Value → Query
  | .array (.string token :: operands) =>
    ofExpression options ⟨token, operands⟩ (readAll options operands)
  | v => invalid (Expression.shapeError v)

/-- The queries that some expressions say. -/
def readAll (options : CompileOptions) : List Value → List Query
  | [] => []
  | v :: vs => read options v :: readAll options vs

end

end Query

end RecordFilter
