import RecordFilter.Binary64.Round
import RecordFilter.Number.Decimal96

/-!
# Numbers

Integers of 64 bits and doubles are one kind of number for comparison. Two of
a kind compare exactly. A mixed pair is compared through the decimal that
stands for the double, so an integer is never rounded as long as the double has
such a decimal; beyond the range of decimals the integer is rounded to a double
instead.
-/

namespace RecordFilter

inductive Number where
  | integer (n : Int64)
  | float (x : Binary64)

namespace Number

/-- The order of an integer and a double; none against NaN. -/
def compareMixed? (n : Int64) (x : Binary64) : Option Ordering :=
  if x.isNaN then none
  else match Decimal96.ofBinary64? x with
    | some d => some (d.compareInt n.toInt)
    | none => (Binary64.ofInt n.toInt).compare? x

/-- The order of two numbers; none if one of them is NaN. -/
def compare? : Number → Number → Option Ordering
  | integer a, integer b => some (compare a.toInt b.toInt)
  | float x, float y => x.compare? y
  | integer a, float y => compareMixed? a y
  | float x, integer b => (compareMixed? b x).map Ordering.swap

end Number

end RecordFilter
