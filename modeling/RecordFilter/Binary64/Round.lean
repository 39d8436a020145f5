import RecordFilter.Binary64.Basic

/-!
# Rounding to double precision

`round negative num den` is the double nearest to `num / den`, a half going to
the even neighbour. The quotient is first brought to a grid `2 ^ e` on which it
has at most 53 binary digits (fewer only on the least grid, where the
subnormal numbers live), and rounded there. A carry out of the 53 digits lands
in the exponent field by plain addition, which is why the rounded significand
is added to the exponent field and not stored beside it.

Integers and decimal numerals are rounded through the same quotient.
-/

namespace RecordFilter

/-- The quotient `n / d` rounded to the nearest natural, a half to the even
one. -/
def roundHalfEven (n d : Nat) : Nat :=
  if d < 2 * (n % d) || (2 * (n % d) == d && n / d % 2 == 1) then n / d + 1 else n / d

namespace Binary64

/-- The power of two that `num / den` is rounded on: the least one, not below
the subnormal grid, on which the quotient is below `2 ^ 53`. -/
def gridExponent (num den : Nat) : Int :=
  let e : Int := max ((num.log2 : Int) - den.log2 - 53) (-1074)
  if num * Nat.pow 2 (-e).toNat < den * Nat.pow 2 (e.toNat + 53) then e else e + 1

/-- The double nearest to `num / den`, overflowing to infinity. -/
def round (negative : Bool) (num den : Nat) : Binary64 :=
  if num = 0 then zero negative
  else
    let e := gridExponent num den
    let q := roundHalfEven (num * Nat.pow 2 (-e).toNat) (den * Nat.pow 2 e.toNat)
    ofMagnitude negative ((e + 1074).toNat * fractionCount + q)

/-- The double nearest to an integer. -/
def ofInt (n : Int) : Binary64 := round (n < 0) n.natAbs 1

/-- The double nearest to `m * 10 ^ e`. Numbers beyond the range on either side
are settled by their count of digits, before any power of ten is formed. -/
def ofDecimal (negative : Bool) (m : Nat) (e : Int) : Binary64 :=
  let top : Int := (Nat.toDigits 10 m).length + e
  if m = 0 then zero negative
  else if 310 < top then infinity negative
  else if top < -330 then zero negative
  else round negative (m * Nat.pow 10 e.toNat) (Nat.pow 10 (-e).toNat)

/-- The product, rounded once; both factors finite. -/
def mul (x y : Binary64) : Binary64 :=
  round (x.negative != y.negative) (x.ratio.1 * y.ratio.1) (x.ratio.2 * y.ratio.2)

/-- The quotient, rounded once; both numbers finite and the divisor not
zero. -/
def div (x y : Binary64) : Binary64 :=
  round (x.negative != y.negative) (x.ratio.1 * y.ratio.2) (x.ratio.2 * y.ratio.1)

end Binary64

end RecordFilter
