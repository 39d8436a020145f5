import RecordFilter.Unicode.CharSet

/-!
# Ranges of bytes

The UTF-8 codings of the characters in a range, as sequences of byte ranges: a
text is coded by a sequence if each of its bytes lies in the range at its
place.
-/

namespace RecordFilter.Pattern

/-- A range of bytes, ends included. -/
abbrev ByteRange := Nat × Nat

namespace ByteRange

/-- The bytes of a code point in UTF-8. -/
def encode (n : Nat) : List Nat :=
  if n < 0x80 then [n]
  else if n < 0x800 then [0xC0 + n / 64, 0x80 + n % 64]
  else if n < 0x10000 then [0xE0 + n / 4096, 0x80 + n / 64 % 64, 0x80 + n % 64]
  else [0xF0 + n / 262144, 0x80 + n / 4096 % 64, 0x80 + n / 64 % 64, 0x80 + n % 64]

/-- Splits a range of code points until its codings are all the sequences of
bytes within the codings of its two ends. `k` counts the continuation bytes
that are already free to take every value. -/
def split : Nat → Nat → Nat → Nat → List (Nat × Nat)
  | 0, _, low, high => [(low, high)]
  | fuel + 1, k, low, high =>
    let block := Nat.pow 64 (k + 1)
    if 3 ≤ k || low / block = high / block then [(low, high)]
    else if low % block ≠ 0 then
      split fuel (k + 1) low ((low / block + 1) * block - 1) ++
        split fuel k ((low / block + 1) * block) high
    else if high % block ≠ block - 1 then
      split fuel (k + 1) low (high / block * block - 1) ++
        split fuel k (high / block * block) high
    else split fuel (k + 1) low high

/-- The part of a range between two bounds. -/
def clip (low high : Nat) (r : Nat × Nat) : List (Nat × Nat) :=
  if r.2 < low || high < r.1 then [] else [(max low r.1, min high r.2)]

/-- The sequences of byte ranges that together code a range of code points, in
order; surrogates have no coding. -/
def sequences (r : Nat × Nat) : List (List ByteRange) :=
  let rs := clip 0x80 0x7FF r ++ clip 0x800 0xD7FF r ++ clip 0xE000 0xFFFF r ++
    clip 0x10000 CharSet.maxCode r
  (clip 0 0x7F r ++ rs.flatMap fun (low, high) => split 16 0 low high).map fun (low, high) =>
    (encode low).zip (encode high)

/-- Splits sequences in order into the runs that begin with the same range, and
takes that range off. -/
def byFirst : List (List ByteRange) → List (ByteRange × List (List ByteRange))
  | [] => []
  | [] :: rest => byFirst rest
  | (r :: tail) :: rest =>
    match byFirst rest with
    | (q, tails) :: runs =>
      if r = q then (r, tail :: tails) :: runs else (r, [tail]) :: (q, tails) :: runs
    | [] => [(r, [tail])]

end ByteRange

end RecordFilter.Pattern
