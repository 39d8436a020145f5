import RecordFilter.Binary64.Basic

/-!
# Shortest decimal digits

The reals that round to a positive double `m * 2 ^ q` form an interval around
it; its ends belong to it exactly when `m` is even. `shortest` takes the
coarsest decimal grid that has a point in this interval, among the grids on
which the double has `1`, `2`, ... `17` digits, and on it the point nearest to
the double, the upper one of two that are equally near. Only the two grid
points next to the double have to be tried: if any grid point lies in the
interval, one of these does.
-/

namespace RecordFilter

/-- The decimal number `coefficient * 10 ^ exponent`. -/
structure Scientific where
  coefficient : Nat
  exponent : Int
  deriving DecidableEq

namespace Scientific

/-- The decimal digits of the coefficient, most significant first. -/
def digits (d : Scientific) : List Char := Nat.toDigits 10 d.coefficient

/-- The same number with no zero at the end of its coefficient; at most `fuel`
zeros are taken off. -/
def trimZeros : Nat → Scientific → Scientific
  | 0, d => d
  | fuel + 1, d =>
    if d.coefficient % 10 = 0 then trimZeros fuel ⟨d.coefficient / 10, d.exponent + 1⟩ else d

end Scientific

namespace Binary64

/-- Four times the double and the two ends of its rounding interval, counted in
the same unit `2 ^ (scale - 2)`: lower end, double, upper end. Below a power of
two the grid of doubles is twice as fine, so the lower end is nearer there. -/
def roundingInterval (x : Binary64) : Nat × Nat × Nat :=
  let m := x.significand
  (if x.fraction.val = 0 && 1 < x.exponent.val then 4 * m - 1 else 4 * m - 2, 4 * m, 4 * m + 2)

/-- The number of digits before the decimal point, not positive below `0.1`. -/
def integerDigits (x : Binary64) : Int :=
  (Nat.toDigits 10 (x.ratio.1 * Nat.pow 10 400 / x.ratio.2)).length - 400

/-- The multiple of `10 ^ k` that lies in the rounding interval and is nearest
to the double, if there is one. -/
def onGrid? (x : Binary64) (k : Int) : Option Scientific :=
  let (low, mid, high) := x.roundingInterval
  let up := Nat.pow 2 (x.scale - 2).toNat * Nat.pow 10 (-k).toNat
  let unit := Nat.pow 2 (2 - x.scale).toNat * Nat.pow 10 k.toNat
  let inside (n : Nat) : Bool :=
    if x.significand % 2 = 0 then low * up ≤ n * unit && n * unit ≤ high * up
    else low * up < n * unit && n * unit < high * up
  let below := mid * up / unit
  let rest := mid * up % unit
  if rest = 0 then some ⟨below, k⟩
  else if inside below && !(inside (below + 1) && unit ≤ 2 * rest) then some ⟨below, k⟩
  else if inside (below + 1) then some ⟨below + 1, k⟩
  else none

/-- The shortest decimal number that rounds to the double, nearest to it among
those; for a finite double other than zero, its sign left out. -/
def shortest (x : Binary64) : Scientific :=
  let top := x.integerDigits
  let found := (List.range 17).findSome? fun n => x.onGrid? (top - (n + 1 : Nat))
  (found.getD ⟨x.ratio.1 / x.ratio.2, 0⟩).trimZeros 400

end Binary64

end RecordFilter
