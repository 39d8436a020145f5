/-!
# Syntax of patterns

The tree that a pattern text is read to. It keeps what the text says: options
are still directives in the text, and a class is still an expression over
sets. What the tree means under the options in force is decided later.
-/

namespace RecordFilter.Pattern

/-- Why a text is no pattern. -/
inductive Fault where
  | repetitionMissing
  | repetitionUnclosed
  | repetitionEmpty
  | repetitionTooLarge
  | repetitionReversed
  | groupUnopened
  | groupUnclosed
  | groupNameUnfinished
  | groupNameEmpty
  | groupNameInvalid
  | groupNameRepeated
  | lookAround
  | optionsUnfinished
  | optionUnknown
  | optionRepeated
  | negationRepeated
  | negationDangling
  | escapeUnfinished
  | escapeUnknown
  | backReference
  | hexEmpty
  | hexDigit
  | hexInvalid
  | propertyInvalid
  | propertyUnknown
  | boundaryUnfinished
  | boundaryUnclosed
  | boundaryUnknown
  | classUnclosed
  | classEscape
  | classRangeEnd
  | classRangeReversed
  | nestedTooDeep
  | notText
  | needsUnicode
  | tooLarge
  deriving DecidableEq, Repr

/-- An option that a directive switches on or off. -/
inductive Flag where
  | ignoreCase
  | multiLine
  | dotAll
  | swapGreed
  | unicode
  | carriageReturn
  | verbose
  deriving DecidableEq

/-- The options of a directive in order, each with its new state. -/
abbrev Flags := List (Flag × Bool)

/-- A position that an assertion asks for. -/
inductive Assertion where
  | startLine
  | endLine
  | startText
  | endText
  | boundary
  | notBoundary
  | wordStart
  | wordEnd
  | wordStartHalf
  | wordEndHalf
  deriving DecidableEq

/-- The classes that a letter after a backslash names. -/
inductive Shorthand where
  | digit
  | space
  | word
  deriving DecidableEq

/-- The classes with names between `[:` and `:]`. -/
inductive AsciiClass where
  | alnum
  | alpha
  | ascii
  | blank
  | cntrl
  | digit
  | graph
  | lower
  | print
  | punct
  | space
  | upper
  | word
  | xdigit
  deriving DecidableEq

/-- A property of characters as a pattern names it. -/
inductive PropertyQuery where
  | named (name : String)
  | valued (name value : String)
  deriving DecidableEq

/-- A literal character; `byte` if it was written as two hexadecimal digits,
which stand for a byte when Unicode is switched off. -/
structure Literal where
  char : Char
  byte : Bool
  deriving DecidableEq

inductive SetOperator where
  | intersection
  | difference
  | symmetricDifference
  deriving DecidableEq

/-- What stands between brackets. -/
inductive ClassItem where
  | empty
  | literal (l : Literal)
  | range (low high : Literal)
  | ascii (kind : AsciiClass) (negated : Bool)
  | property (query : PropertyQuery) (negated : Bool)
  | shorthand (kind : Shorthand) (negated : Bool)
  | bracketed (negated : Bool) (item : ClassItem)
  | union (items : List ClassItem)
  | operation (op : SetOperator) (left right : ClassItem)

/-- What an opening parenthesis starts. -/
inductive GroupKind where
  | capture
  | scope (flags : Flags)

inductive Syntax where
  | empty
  | flags (flags : Flags)
  | literal (l : Literal)
  | dot
  | assertion (a : Assertion)
  | property (query : PropertyQuery) (negated : Bool)
  | shorthand (kind : Shorthand) (negated : Bool)
  | bracketed (negated : Bool) (item : ClassItem)
  | repetition (greedy : Bool) (body : Syntax) (min : Nat) (max : Option Nat)
  | group (kind : GroupKind) (body : Syntax)
  | alternation (branches : List Syntax)
  | concatenation (parts : List Syntax)

/-- Several items as one: a single item stands for itself. -/
def ClassItem.ofList : List ClassItem → ClassItem
  | [] => .empty
  | [item] => item
  | items => .union items

/-- Several parts in a row as one: a single part stands for itself. -/
def Syntax.ofParts : List Syntax → Syntax
  | [] => .empty
  | [part] => part
  | parts => .concatenation parts

/-- Several branches as one: a single branch stands for itself. -/
def Syntax.ofBranches : List Syntax → Syntax
  | [] => .empty
  | [branch] => branch
  | branches => .alternation branches

mutual

/-- How deep the brackets and operators of a class are nested. -/
def ClassItem.depth : ClassItem → Nat
  | .bracketed _ item => item.depth + 1
  | .union items => ClassItem.depthAll items + 1
  | .operation _ left right => max left.depth right.depth + 1
  | _ => 0

def ClassItem.depthAll : List ClassItem → Nat
  | [] => 0
  | item :: items => max item.depth (ClassItem.depthAll items)

end

mutual

/-- How deep the operators of a pattern are nested. -/
def Syntax.depth : Syntax → Nat
  | .bracketed _ item => item.depth + 1
  | .repetition _ body _ _ => body.depth + 1
  | .group _ body => body.depth + 1
  | .alternation branches => Syntax.depthAll branches + 1
  | .concatenation parts => Syntax.depthAll parts + 1
  | _ => 0

def Syntax.depthAll : List Syntax → Nat
  | [] => 0
  | s :: rest => max s.depth (Syntax.depthAll rest)

end

/-- The deepest nesting that is accepted. -/
def maxDepth : Nat := 250

end RecordFilter.Pattern
