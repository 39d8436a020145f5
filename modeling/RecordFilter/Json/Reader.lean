import RecordFilter.Binary64.Numeral
import RecordFilter.Json.Numeral

/-!
# Reading JSON

`read? depth cs` reads one value that fills the whole text, blanks aside. The
grammar is the standard one: no leading zeros, no raw control characters in
strings, surrogate escapes only in pairs. Arrays and objects may be nested at
most `depth` deep. Of two fields of one name the later counts.

The functions for values, items and fields recurse on a fuel that every call
lowers; the fuel that `read?` starts with exceeds any number of nested calls on
its text.
-/

namespace RecordFilter.Json

def isBlank (c : Char) : Bool := c == ' ' || c == '\n' || c == '\t' || c == '\r'

def skipBlanks (cs : List Char) : List Char := cs.dropWhile isBlank

/-- What follows a keyword at the front of a text. -/
def keyword? : List Char → List Char → Option (List Char)
  | [], cs => some cs
  | k :: ks, c :: cs => if k = c then keyword? ks cs else none
  | _ :: _, [] => none

def hexValue? (c : Char) : Option Nat :=
  if c.isDigit then some (c.toNat - '0'.toNat)
  else if 'a' ≤ c && c ≤ 'f' then some (c.toNat - 'a'.toNat + 10)
  else if 'A' ≤ c && c ≤ 'F' then some (c.toNat - 'A'.toNat + 10)
  else none

/-- Four hexadecimal digits as a number. -/
def hex4? (a b c d : Char) : Option Nat := do
  return (((← hexValue? a) * 16 + (← hexValue? b)) * 16 + (← hexValue? c)) * 16 + (← hexValue? d)

/-- The character that a pair of surrogates stands for. -/
def pairChar (high low : Nat) : Char :=
  Char.ofNat (0x10000 + (high - 0xD800) * 0x400 + (low - 0xDC00))

/-- The character of a one-letter escape. -/
def shortEscape? : Char → Option Char
  | '"' => some '"'
  | '\\' => some '\\'
  | '/' => some '/'
  | 'b' => some '\x08'
  | 'f' => some '\x0c'
  | 'n' => some '\n'
  | 'r' => some '\r'
  | 't' => some '\t'
  | _ => none

/-- The rest of a string literal after its opening quote: the characters it
stands for, and what follows its closing quote. -/
def stringBody? : List Char → Option (List Char × List Char)
  | [] => none
  | '"' :: cs => some ([], cs)
  | '\\' :: 'u' :: a :: b :: c :: d :: cs => do
    let n ← hex4? a b c d
    if 0xD800 ≤ n && n < 0xDC00 then
      match cs with
      | '\\' :: 'u' :: e :: f :: g :: h :: cs =>
        let low ← hex4? e f g h
        if 0xDC00 ≤ low && low < 0xE000 then
          let (chars, rest) ← stringBody? cs
          return (pairChar n low :: chars, rest)
        else none
      | _ => none
    else if 0xDC00 ≤ n && n < 0xE000 then none
    else
      let (chars, rest) ← stringBody? cs
      return (Char.ofNat n :: chars, rest)
  | '\\' :: c :: cs => do
    let e ← shortEscape? c
    let (chars, rest) ← stringBody? cs
    return (e :: chars, rest)
  | c :: cs =>
    if c.toNat < 0x20 || c == '\\' then none
    else do
      let (chars, rest) ← stringBody? cs
      return (c :: chars, rest)

/-- The digits at the front of a text, and the rest. -/
def splitDigits (cs : List Char) : List Char × List Char :=
  (cs.takeWhile Char.isDigit, cs.dropWhile Char.isDigit)

/-- The fraction of a number, if one is written: at least one digit. -/
def places? : List Char → Option (Option (List Char) × List Char)
  | '.' :: cs =>
    let (ds, rest) := splitDigits cs
    if ds.isEmpty then none else some (some ds, rest)
  | cs => some (none, cs)

/-- The exponent of a number, if one is written: at least one digit. -/
def exponent? : List Char → Option (Option Int × List Char)
  | [] => some (none, [])
  | c :: cs =>
    if c == 'e' || c == 'E' then
      let (negative, cs) := splitSign cs
      let (ds, rest) := splitDigits cs
      if ds.isEmpty then none
      else
        let n : Nat := Nat.ofDigitChars 10 ds 0
        some (some (if negative then -(n : Int) else n), rest)
    else some (none, c :: cs)

/-- A number without its sign. -/
def unsigned? (negative : Bool) (cs : List Char) : Option (Numeral × List Char) := do
  let (whole, rest) := splitDigits cs
  if whole.isEmpty || (whole.head? == some '0' && 1 < whole.length) then none
  let (places, rest) ← places? rest
  let (exponent, rest) ← exponent? rest
  return (⟨negative, whole, places, exponent⟩, rest)

/-- A number at the front of a text. -/
def number? : List Char → Option (Value × List Char)
  | '-' :: cs => do
    let (t, rest) ← unsigned? true cs
    return (← t.value?, rest)
  | cs => do
    let (t, rest) ← unsigned? false cs
    return (← t.value?, rest)

/-- Drops every field that a later one of the same name replaces. -/
def lastFields : List (String × Value) → List (String × Value)
  | [] => []
  | (name, v) :: rest =>
    if rest.any (·.1 == name) then lastFields rest else (name, v) :: lastFields rest

mutual

/-- A value at the front of a text, nested at most `depth` deep. -/
def value? : Nat → Nat → List Char → Option (Value × List Char)
  | 0, _, _ => none
  | fuel + 1, depth, cs =>
    match skipBlanks cs with
    | 'n' :: cs => (keyword? "ull".toList cs).map fun rest => (.null, rest)
    | 't' :: cs => (keyword? "rue".toList cs).map fun rest => (.boolean true, rest)
    | 'f' :: cs => (keyword? "alse".toList cs).map fun rest => (.boolean false, rest)
    | '"' :: cs => (stringBody? cs).map fun (s, rest) => (.string (String.ofList s), rest)
    | '[' :: cs =>
      match depth with
      | 0 => none
      | depth + 1 =>
        match skipBlanks cs with
        | ']' :: rest => some (.array [], rest)
        | cs => (items? fuel depth cs).map fun (vs, rest) => (.array vs, rest)
    | '\x7b' :: cs =>
      match depth with
      | 0 => none
      | depth + 1 =>
        match skipBlanks cs with
        | '\x7d' :: rest => some (.object [], rest)
        | cs => (fields? fuel depth cs).map fun (fs, rest) => (.object (lastFields fs), rest)
    | cs => number? cs

/-- One or more items up to the closing bracket. -/
def items? : Nat → Nat → List Char → Option (List Value × List Char)
  | 0, _, _ => none
  | fuel + 1, depth, cs =>
    match value? fuel depth cs with
    | none => none
    | some (v, rest) =>
      match skipBlanks rest with
      | ']' :: rest => some ([v], rest)
      | ',' :: rest => (items? fuel depth rest).map fun (vs, rest) => (v :: vs, rest)
      | _ => none

/-- One or more fields up to the closing brace. -/
def fields? : Nat → Nat → List Char → Option (List (String × Value) × List Char)
  | 0, _, _ => none
  | fuel + 1, depth, cs =>
    match skipBlanks cs with
    | '"' :: cs =>
      match stringBody? cs with
      | none => none
      | some (name, rest) =>
        match skipBlanks rest with
        | ':' :: rest =>
          match value? fuel depth rest with
          | none => none
          | some (v, rest) =>
            match skipBlanks rest with
            | '\x7d' :: rest => some ([(String.ofList name, v)], rest)
            | ',' :: rest =>
              (fields? fuel depth rest).map fun (fs, rest) => ((String.ofList name, v) :: fs, rest)
            | _ => none
        | _ => none
    | _ => none

end

/-- The value that a text holds, nested at most `depth` deep. -/
def read? (depth : Nat) (text : String) : Option Value :=
  let cs := text.toList
  match value? (2 * cs.length + 2) depth cs with
  | some (v, rest) => if (skipBlanks rest).isEmpty then some v else none
  | none => none

/-- The depth up to which the command line reads documents. -/
def documentDepth : Nat := 127

end RecordFilter.Json
