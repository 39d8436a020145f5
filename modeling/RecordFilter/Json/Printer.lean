import RecordFilter.Binary64.Text
import RecordFilter.Value.Basic

/-!
# Printing JSON

A value is written with the fields of every object in code point order. The
compact layout has no space at all; the indented one puts every item and field
on a line of its own, two spaces deeper than its brackets. A float is written
in positional notation, and as `null` if it has none.

Lists are written as a first item and a tail that brings its own commas and the
closing bracket, so each tail is what a reader sees after an item.
-/

namespace RecordFilter.Json

inductive Layout where
  | compact
  | indented
  deriving DecidableEq

namespace Layout

/-- What separates a bracket or comma from the item after it. -/
def lineBreak : Layout → Nat → List Char
  | compact, _ => []
  | indented, level => '\n' :: List.replicate (2 * level) ' '

/-- What stands between a field name and its value. -/
def colon : Layout → List Char
  | compact => [':']
  | indented => [':', ' ']

end Layout

def hexDigit (n : Nat) : Char := (Nat.digitChar (n % 16))

/-- The control characters: below space, and from delete to the end of the
second control block. -/
def isControl (c : Char) : Bool :=
  c.toNat < 0x20 || (0x7F ≤ c.toNat && c.toNat < 0xA0)

/-- A character inside a string literal. -/
def escapeChar (c : Char) : List Char :=
  if c = '"' then ['\\', '"']
  else if c = '\\' then ['\\', '\\']
  else if c = '\n' then ['\\', 'n']
  else if c = '\r' then ['\\', 'r']
  else if c = '\t' then ['\\', 't']
  else if isControl c then ['\\', 'u', '0', '0', hexDigit (c.toNat / 16), hexDigit c.toNat]
  else [c]

def escape : List Char → List Char
  | [] => []
  | c :: cs => escapeChar c ++ escape cs

def writeString (s : String) : List Char := '"' :: (escape s.toList ++ ['"'])

def writeInt (n : Int) : List Char :=
  if n < 0 then '-' :: Nat.toDigits 10 n.natAbs else Nat.toDigits 10 n.natAbs

def writeFloat (x : Binary64) : List Char :=
  if x.isFinite then x.positional else "null".toList

mutual

/-- A value whose first line starts at indentation `level`, its fields in the
order they have. -/
def write (layout : Layout) (level : Nat) : Value → List Char
  | .null => "null".toList
  | .boolean b => if b then "true".toList else "false".toList
  | .integer n => writeInt n.toInt
  | .float x => writeFloat x
  | .string s => writeString s
  | .array [] => ['[', ']']
  | .array (v :: vs) =>
    '[' :: (layout.lineBreak (level + 1) ++ write layout (level + 1) v ++
      writeItems layout level vs)
  | .object [] => ['\x7b', '\x7d']
  | .object ((name, v) :: rest) =>
    '\x7b' :: (layout.lineBreak (level + 1) ++ writeString name ++ layout.colon ++
      write layout (level + 1) v ++ writeFields layout level rest)

/-- The items after the first one, and the closing bracket. -/
def writeItems (layout : Layout) (level : Nat) : List Value → List Char
  | [] => layout.lineBreak level ++ [']']
  | v :: vs =>
    ',' :: (layout.lineBreak (level + 1) ++ write layout (level + 1) v ++
      writeItems layout level vs)

/-- The fields after the first one, and the closing brace. -/
def writeFields (layout : Layout) (level : Nat) : List (String × Value) → List Char
  | [] => layout.lineBreak level ++ ['\x7d']
  | (name, v) :: rest =>
    ',' :: (layout.lineBreak (level + 1) ++ writeString name ++ layout.colon ++
      write layout (level + 1) v ++ writeFields layout level rest)

end

/-- The JSON text of a value. -/
def render (layout : Layout) (v : Value) : String :=
  String.ofList (write layout 0 v.normalize)

end RecordFilter.Json

namespace RecordFilter.Value

/-- Compact JSON. -/
def toJson (v : Value) : String := Json.render .compact v

/-- JSON with one item a line. -/
def toJsonIndented (v : Value) : String := Json.render .indented v

end RecordFilter.Value
