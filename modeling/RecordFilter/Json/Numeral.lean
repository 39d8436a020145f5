import RecordFilter.Binary64.Round
import RecordFilter.Value.Basic

/-!
# Numbers in JSON texts

A number without fraction and exponent that fits 64 signed bits is an integer;
every other number, minus zero included, is a float. The float is not the one
nearest to the digits: the leading digits that fit 64 unsigned bits are rounded
to a double, and that is multiplied or divided by a power of ten, in steps of
at most `10 ^ 308`, each step rounded. A result beyond the range of doubles is
no number.
-/

namespace RecordFilter.Json

/-- The parts of a number: sign, digits before the point, digits after it, and
the exponent. A part that is not written is absent. -/
structure Numeral where
  negative : Bool
  whole : List Char
  places : Option (List Char)
  exponent : Option Int

namespace Numeral

/-- Appends digits to a significand as long as it stays below `2 ^ 64`, and
counts those left over. -/
def accumulate : Nat → List Char → Nat × Nat
  | n, [] => (n, 0)
  | n, c :: cs =>
    let next := n * 10 + (c.toNat - '0'.toNat)
    if next < Nat.pow 2 64 then accumulate next cs else (n, cs.length + 1)

/-- The power of ten as a double. -/
def tenTo (k : Nat) : Binary64 := Binary64.ofDecimal false 1 k

/-- Divides by `10 ^ k` in steps; `fuel` bounds their number. -/
def divideByTenTo : Nat → Binary64 → Nat → Binary64
  | 0, x, _ => x
  | fuel + 1, x, k =>
    if k ≤ 308 then x.div (tenTo k)
    else if x.isZero then x
    else divideByTenTo fuel (x.div (tenTo 308)) (k - 308)

/-- `n * 10 ^ e` by rounded steps. -/
def scaled? (n : Nat) (e : Int) : Option Binary64 :=
  let x := Binary64.ofInt n
  if e < 0 then some (divideByTenTo 4 x e.natAbs)
  else if x.isZero then some x
  else if 308 < e then none
  else (some (x.mul (tenTo e.toNat))).filter (·.isFinite)

/-- Whether an exponent is too large for 32 signed bits. -/
def isHuge (e : Int) : Bool := Nat.pow 2 31 ≤ e.natAbs

/-- The float of a number. -/
def float? (t : Numeral) : Option Binary64 :=
  let (n, skipped) := accumulate 0 t.whole
  let places := t.places.getD []
  let (n, unused) := accumulate n places
  let shift : Int := skipped - (places.length - unused : Nat)
  let e := t.exponent.getD 0
  let magnitude :=
    if isHuge e then (if n ≠ 0 && 0 < e then none else some (Binary64.zero false))
    else scaled? n (shift + e)
  magnitude.map fun x => if t.negative then x.neg else x

/-- The integer of a number, if it is written as one, fits 64 signed bits and
is not minus zero. -/
def integer? (t : Numeral) : Option Int64 :=
  if t.places.isSome || t.exponent.isSome then none
  else
    let n : Nat := Nat.ofDigitChars 10 t.whole 0
    if t.negative then (if 0 < n && n ≤ Nat.pow 2 63 then some (Int64.ofInt (-n)) else none)
    else if n < Nat.pow 2 63 then some (Int64.ofInt n) else none

/-- The value of a number. -/
def value? (t : Numeral) : Option Value :=
  match t.integer? with
  | some n => some (.integer n)
  | none => t.float?.map .float

end Numeral

end RecordFilter.Json
