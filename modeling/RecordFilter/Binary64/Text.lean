import RecordFilter.Binary64.Round
import RecordFilter.Binary64.Shortest

/-!
# Written forms of a double

Three layouts share the shortest digits: `positional` never uses an exponent,
`exponential` always does, and `display` chooses between them by size. An
integral double below `10 ^ 21` is displayed by its exact integer, which may
have more digits than the shortest form.
-/

namespace RecordFilter

namespace Scientific

/-- The digits with a decimal point where it belongs, zeros filled in. -/
def positional (d : Scientific) : List Char :=
  let ds := d.digits
  let point : Int := ds.length + d.exponent
  if 0 ≤ d.exponent then ds ++ List.replicate d.exponent.toNat '0'
  else if 0 < point then ds.take point.toNat ++ '.' :: ds.drop point.toNat
  else '0' :: '.' :: (List.replicate (-point).toNat '0' ++ ds)

/-- One digit before the point, the others after it, and the exponent, which
carries a sign only if it is negative or `plus` asks for one. -/
def exponential (plus : Bool) (d : Scientific) : List Char :=
  let ds := d.digits
  let e : Int := ds.length + d.exponent - 1
  let mantissa := if ds.length ≤ 1 then ds else ds.take 1 ++ '.' :: ds.drop 1
  mantissa ++ 'e' :: ((if e < 0 then ['-'] else if plus then ['+'] else []) ++
    Nat.toDigits 10 e.natAbs)

end Scientific

namespace Binary64

/-- The sign in front of a written magnitude. -/
def signed (x : Binary64) (cs : List Char) : List Char :=
  if x.negative then '-' :: cs else cs

/-- The shortest digits that read back, never with an exponent; `-0` keeps its
sign. For finite numbers. -/
def positional (x : Binary64) : List Char :=
  x.signed (if x.isZero then ['0'] else x.shortest.positional)

/-- The doubles from which on the display form has an exponent: those nearest
to `10 ^ 21` and above, and below the one nearest to `10 ^ (-6)`. -/
def needsExponent (x : Binary64) : Bool :=
  (ofDecimal false 1 21).magnitude ≤ x.magnitude || x.magnitude < (ofDecimal false 1 (-6)).magnitude

/-- The display form: an exponent only outside the range of `needsExponent`, no
sign on zero, and the exact integer where there is no fractional part. -/
def display (x : Binary64) : String :=
  String.ofList <|
    if x.isNaN then "NaN".toList
    else if x.isInfinite then x.signed "Infinity".toList
    else if x.isZero then ['0']
    else if x.needsExponent then x.signed (x.shortest.exponential true)
    else match x.toInt? with
      | some n => x.signed (Nat.toDigits 10 n.natAbs)
      | none => x.signed x.shortest.positional

end Binary64

end RecordFilter
