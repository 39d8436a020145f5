/-!
# Double-precision numbers

A double-precision number is carried by its three interchange fields, so every
question about it is a question about naturals and integers. The number with
exponent field `0` and fraction `f` is `f * 2 ^ (-1074)`; with exponent field
`e` between `1` and `2046` it is `(2 ^ 52 + f) * 2 ^ (e - 1075)`; the exponent
field `2047` holds the infinities (`f = 0`) and the NaNs.

Read as one natural, exponent field before fraction, the magnitudes are in
numeric order: this is `magnitude`, and the order of two numbers is the order
of their signed magnitudes (`key`).
-/

namespace RecordFilter

/-- A double-precision number by its sign, exponent and fraction fields. -/
structure Binary64 where
  negative : Bool
  exponent : Fin 2048
  fraction : Fin 4503599627370496
  deriving DecidableEq, Inhabited

namespace Binary64

/-- The number of fractions, `2 ^ 52`. -/
def fractionCount : Nat := 4503599627370496

/-- The exponent and fraction fields read as one natural. -/
def magnitude (x : Binary64) : Nat :=
  x.exponent.val * fractionCount + x.fraction.val

/-- The magnitude of the infinities, which every finite magnitude is below. -/
def infiniteMagnitude : Nat := 2047 * fractionCount

def infinity (negative : Bool) : Binary64 := ⟨negative, 2047, 0⟩

def nan : Binary64 := ⟨false, 2047, 2251799813685248⟩

/-- The number with a given magnitude; magnitudes from the infinite one on
saturate at infinity. -/
def ofMagnitude (negative : Bool) (n : Nat) : Binary64 :=
  if h : n < infiniteMagnitude then
    ⟨negative, ⟨n / fractionCount, by simp only [infiniteMagnitude, fractionCount] at h ⊢; omega⟩,
      ⟨n % fractionCount, Nat.mod_lt n (by decide)⟩⟩
  else infinity negative

theorem magnitude_ofMagnitude {n : Nat} (negative : Bool) (h : n < infiniteMagnitude) :
    (ofMagnitude negative n).magnitude = n := by
  simp only [ofMagnitude, h, dif_pos, magnitude]
  exact Nat.div_add_mod' n fractionCount

def zero (negative : Bool) : Binary64 := ofMagnitude negative 0

/-- The 64 interchange bits. -/
def toBits (x : Binary64) : Nat :=
  (if x.negative then Nat.pow 2 63 else 0) + x.magnitude

def isFinite (x : Binary64) : Bool := x.exponent.val < 2047

def isInfinite (x : Binary64) : Bool := x.exponent.val == 2047 && x.fraction.val == 0

def isNaN (x : Binary64) : Bool := x.exponent.val == 2047 && x.fraction.val != 0

def isZero (x : Binary64) : Bool := x.magnitude == 0

/-- The integer significand of a finite number. -/
def significand (x : Binary64) : Nat :=
  if x.exponent.val = 0 then x.fraction.val else fractionCount + x.fraction.val

/-- The power of two that the significand counts. -/
def scale (x : Binary64) : Int := (max x.exponent.val 1 : Nat) - 1075

/-- The magnitude of a finite number as a quotient of naturals. -/
def ratio (x : Binary64) : Nat × Nat :=
  (x.significand * Nat.pow 2 x.scale.toNat, Nat.pow 2 (-x.scale).toNat)

/-- The signed magnitude: both zeros have key `0`, and keys are in numeric
order. -/
def key (x : Binary64) : Int :=
  if x.negative then -(x.magnitude : Int) else x.magnitude

/-- The numeric order; a NaN is unordered against everything. -/
def compare? (x y : Binary64) : Option Ordering :=
  if x.isNaN || y.isNaN then none else some (compare x.key y.key)

/-- The integer that a number denotes, if it denotes one. -/
def toInt? (x : Binary64) : Option Int :=
  if x.isFinite && x.ratio.1 % x.ratio.2 == 0 then
    some (if x.negative then -((x.ratio.1 / x.ratio.2 : Nat) : Int) else (x.ratio.1 / x.ratio.2 : Nat))
  else none

/-- Finite and without a fractional part. -/
def isIntegral (x : Binary64) : Bool := x.toInt?.isSome

def neg (x : Binary64) : Binary64 := { x with negative := !x.negative }

end Binary64

end RecordFilter
