import RecordFilter.Binary64.Round

/-!
# Reading numerals

A numeral is an optional sign and then either digits with an optional fraction
and an optional exponent, or one of the words `inf`, `infinity`, `nan` in any
case. At least one digit stands before or after the point, and at least one in
an exponent. The digits are read exactly and rounded once.
-/

namespace RecordFilter

/-- Splits off a leading sign: whether it is a minus, and the rest. -/
def splitSign : List Char → Bool × List Char
  | '-' :: cs => (true, cs)
  | '+' :: cs => (false, cs)
  | cs => (false, cs)

/-- The integer that an optional sign and digits denote. -/
def readInt? (cs : List Char) : Option Int :=
  let (negative, ds) := splitSign cs
  if ds.isEmpty || !ds.all Char.isDigit then none
  else
    let n : Nat := Nat.ofDigitChars 10 ds 0
    some (if negative then -(n : Int) else n)

namespace Binary64

/-- The exponent part of a numeral: nothing, or `e` and an integer. -/
def readExponent? : List Char → Option Int
  | [] => some 0
  | c :: cs => if c == 'e' || c == 'E' then readInt? cs else none

/-- An unsigned numeral of digits: coefficient and power of ten. -/
def readDecimal? (cs : List Char) : Option (Nat × Int) :=
  let whole := cs.takeWhile Char.isDigit
  let rest := cs.dropWhile Char.isDigit
  let (places, rest) := match rest with
    | '.' :: r => (r.takeWhile Char.isDigit, r.dropWhile Char.isDigit)
    | r => ([], r)
  if whole.isEmpty && places.isEmpty then none
  else (readExponent? rest).map fun e =>
    (Nat.ofDigitChars 10 (whole ++ places) 0, e - places.length)

/-- The double nearest to what a numeral denotes. -/
def ofNumeral? (cs : List Char) : Option Binary64 :=
  let (negative, body) := splitSign cs
  let word := body.map Char.toLower
  if word == "inf".toList || word == "infinity".toList then some (infinity negative)
  else if word == "nan".toList then some nan
  else (readDecimal? body).map fun (m, e) => ofDecimal negative m e

end Binary64

end RecordFilter
