import RecordFilter.Binary64.Basic

/-!
# Decimals of 96 bits

A decimal number with a coefficient below `2 ^ 96` and at most 28 decimal
places, and the conversion of a double to one. The conversion trades powers of
two for powers of five: a double `m * 2 ^ e` is `m * 5 ^ (-e)` with `-e`
decimal places, and whenever the coefficient would leave its 96 bits a factor
two or five is dropped, low digits first. At the end the coefficient is cut to
about the precision of a double: while it is at least `2 ^ 52` and has decimal
places, its last digit is rounded away. A double beyond the range has no
decimal.

Every phase moves one counter towards zero and recurses on it.
-/

namespace RecordFilter

/-- The decimal `± coefficient / 10 ^ places`. -/
structure Decimal96 where
  negative : Bool
  coefficient : Nat
  places : Nat
  deriving DecidableEq

namespace Decimal96

/-- Whether a coefficient is within the 96 bits. -/
def fits (m : Nat) : Bool := m < Nat.pow 2 96

/-- Takes `fives` factors `1/2` out of `m * 10 ^ d`, multiplying by five while
that fits and dropping low bits otherwise. -/
def halve : Nat → Nat → Int → Nat × Int
  | 0, m, d => (m, d)
  | fives + 1, m, d =>
    if m % 2 = 0 then halve fives (m / 2) (d + 1)
    else if fits (m * 5) then halve fives (m * 5) d
    else halve fives (m / 2) (d + 1)

/-- Takes `twos` factors two into `m * 10 ^ d`, dividing by five where doubling
does not fit; gives up once the power of ten outweighs the factors left. -/
def double? : Nat → Nat → Int → Option (Nat × Int)
  | 0, m, d => some (m, d)
  | twos + 1, m, d =>
    if m < Nat.pow 2 95 then double? twos (m * 2) (d - 1)
    else if 2 * d > (twos + 1 : Nat) then none
    else double? twos (m / 5) d

/-- Multiplies by ten `n` times, as long as that fits. -/
def widen? : Nat → Nat → Option Nat
  | 0, m => some m
  | n + 1, m => if fits (m * 10) then widen? n (m * 10) else none

/-- The last digit rounded away, a half upwards. -/
def dropDigit (m : Nat) : Nat := if 5 ≤ m % 10 then m / 10 + 1 else m / 10

/-- Rounds digits away until at most 28 places are left. -/
def limitPlaces : Nat → Nat → Nat × Nat
  | 0, m => (m, 0)
  | places + 1, m =>
    if places < 28 then (m, places + 1)
    else if m / 10 = 0 then (0, 0)
    else limitPlaces places (dropDigit m)

/-- Rounds digits away while the coefficient is finer than a double. -/
def limitPrecision : Nat → Nat → Nat × Nat
  | 0, m => (m, 0)
  | places + 1, m => if m < Nat.pow 2 52 then (m, places + 1) else limitPrecision places (dropDigit m)

/-- The decimal that stands for a finite double, if it is within the range. -/
def ofBinary64? (x : Binary64) : Option Decimal96 := do
  if !x.isFinite then none
  let e := x.scale
  let (m, d) ←
    if e ≤ 0 then pure (halve e.natAbs x.significand e) else double? e.natAbs x.significand e
  let m ← widen? d.toNat m
  let (m, places) := limitPlaces (-d).toNat m
  let (m, places) := limitPrecision places m
  return ⟨x.negative, m, places⟩

/-- The numeric order of an integer and a decimal. -/
def compareInt (d : Decimal96) (n : Int) : Ordering :=
  compare (n * (Nat.pow 10 d.places : Nat)) (if d.negative then -(d.coefficient : Int) else d.coefficient)

end Decimal96

end RecordFilter
