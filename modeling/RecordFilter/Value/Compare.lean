import RecordFilter.Binary64.Numeral
import RecordFilter.Number.Basic
import RecordFilter.Text.Blank
import RecordFilter.Value.Basic

/-!
# Comparing values

Four comparisons of decreasing tolerance. `looseEq` converts strings and
booleans to numbers, `strictEq` asks for the same kind of scalar, and
`sameValueZero` is `strictEq` with NaN equal to itself. `relate` orders two
strings by code points and everything else as numbers; an unordered pair
satisfies none of `<`, `<=`, `>`, `>=`. Arrays and objects are equal to nothing
and unordered.
-/

namespace RecordFilter.Value

/-- The number that a text denotes, blanks around it ignored; the empty text
denotes zero. -/
def textNumber? (s : String) : Option Number :=
  let cs := Text.trim s.toList
  if cs.isEmpty then some (.integer 0)
  else match (readInt? cs).filter (fun n => Int64.minValue.toInt ≤ n && n ≤ Int64.maxValue.toInt) with
    | some n => some (.integer (Int64.ofInt n))
    | none => ((Binary64.ofNumeral? cs).filter (!·.isNaN)).map .float

/-- The number of a value that is one. -/
def number? : Value → Option Number
  | integer n => some (.integer n)
  | float x => some (.float x)
  | _ => none

/-- `false` and `true` as numbers. -/
def bit (b : Bool) : Int64 := if b then 1 else 0

/-- The number that a value counts as in a coercing comparison; none for NaN
and for what is no number at all. -/
def coerce? : Value → Option Number
  | null => some (.integer 0)
  | boolean b => some (.integer (bit b))
  | integer n => some (.integer n)
  | float x => if x.isNaN then none else some (.float x)
  | string s => textNumber? s
  | array _ => none
  | object _ => none

/-- The order of two values as numbers. -/
def relateNumbers (a b : Value) : Option Ordering := do
  (← a.coerce?).compare? (← b.coerce?)

/-- Equality of two scalars other than null, a boolean counting as a number
unless both are booleans. -/
def looseEq : Value → Value → Bool
  | null, null => true
  | null, _ => false
  | _, null => false
  | array _, _ => false
  | object _, _ => false
  | _, array _ => false
  | _, object _ => false
  | string a, string b => a == b
  | boolean a, boolean b => a == b
  | a, b => relateNumbers a b == some .eq

/-- Equality without conversion; integers and floats are one kind. -/
def strictEq : Value → Value → Bool
  | null, null => true
  | boolean a, boolean b => a == b
  | string a, string b => a == b
  | a, b =>
    match a.number?, b.number? with
    | some m, some n => m.compare? n == some .eq
    | _, _ => false

/-- Strict equality with NaN equal to itself. -/
def sameValueZero : Value → Value → Bool
  | float x, float y => (x.isNaN && y.isNaN) || strictEq (float x) (float y)
  | a, b => strictEq a b

/-- The order that `<`, `<=`, `>` and `>=` go by. -/
def relate : Value → Value → Option Ordering
  | string a, string b => some (compare a b)
  | a, b => relateNumbers a b

end RecordFilter.Value
