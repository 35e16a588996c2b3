import RecordFilter.Number.Numeral

/-!
# The shortest digits of a double

Many decimals are nearest to one double. The text of a double uses one with as few digits as
possible, and of those the one closest to the exact value. The search tries one digit, two
digits, and so on: on the grid of decimals with that many digits it looks at the two neighbours
of the exact value and takes those that read back as the same double. Seventeen digits always
suffice. The exact value is a decimal too, with many digits, and stands behind the search as its
last resort, so that whatever is returned reads back.
-/

namespace RecordFilter.Binary64

/-- A whole number times a power of ten. -/
structure Decimal where
  digits : Nat
  exponent : Int
deriving DecidableEq, Repr

namespace Decimal

/-- Whether the double nearest to a decimal has the given magnitude. -/
def readsAs (d : Decimal) (magnitude : Nat) : Bool :=
  (Numeral.toBinary64 ⟨false, d.digits, d.exponent⟩).magnitude == magnitude

/-- The same decimal with `count` fewer digits, as long as the last digit is zero. -/
def dropZeros : Nat → Decimal → Decimal
  | 0, d => d
  | count + 1, d =>
    if d.digits ≠ 0 ∧ d.digits % 10 = 0 then dropZeros count ⟨d.digits / 10, d.exponent + 1⟩ else d

end Decimal

/-- The exact value of a magnitude as a decimal: halving `1074` times is multiplying by five as
often and moving the point. -/
def exactDecimal (magnitude : Nat) : Decimal :=
  ⟨units magnitude * Nat.pow 5 1074, -1074⟩

/-- The exponent `p` with `10 ^ (p - 1) ≤ value < 10 ^ p`, for a magnitude other than zero. The
value is scaled up far enough to be at least one before its digits are counted. -/
def pointPosition (magnitude : Nat) : Int :=
  (Numeral.digitCount (units magnitude * tenTo 324 / unitsPerOne) : Int) - 324

/-- The value of a magnitude over `10 ^ exponent`, as numerator and denominator. -/
def scaledBy (magnitude : Nat) (exponent : Int) : Nat × Nat :=
  if 0 ≤ exponent then (units magnitude, unitsPerOne * tenTo exponent.toNat)
  else (units magnitude * tenTo (-exponent).toNat, unitsPerOne)

/-- The first of two decimals that reads back as the magnitude, if there is one. -/
def firstReading (magnitude : Nat) (first second : Decimal) : Option Decimal :=
  if first.readsAs magnitude then some first
  else if second.readsAs magnitude then some second
  else none

/-- The whole multiple of `10 ^ exponent` that is closest to a quotient among those that read back
as the magnitude, if there is one. Of two that are equally close it is the even one. -/
def closestMultiple (magnitude : Nat) (exponent : Int) (numerator denominator : Nat) :
    Option Decimal :=
  let lower := numerator / denominator
  let beyond := 2 * (numerator % denominator)
  let below : Decimal := ⟨lower, exponent⟩
  let above : Decimal := ⟨lower + 1, exponent⟩
  if beyond < denominator ∨ (beyond = denominator ∧ lower % 2 = 0) then
    firstReading magnitude below above
  else firstReading magnitude above below

/-- The decimal with `count` digits that is closest to the exact value among those that read back
as the magnitude, if there is one. -/
def decimalWith (magnitude count : Nat) : Option Decimal :=
  let exponent := pointPosition magnitude - count
  let scaled := scaledBy magnitude exponent
  closestMultiple magnitude exponent scaled.1 scaled.2

/-- The decimal with as few of up to 17 digits as possible that reads back as the magnitude. -/
def search (magnitude : Nat) : Option Decimal :=
  (List.range 17).findSome? fun count => decimalWith magnitude (count + 1)

/-- A decimal without the zeros at its end, if it still reads back as the magnitude then. -/
def trim (magnitude : Nat) (d : Decimal) : Decimal :=
  let trimmed := d.dropZeros (Numeral.digitCount d.digits)
  if trimmed.readsAs magnitude then trimmed else d

/-- A decimal that reads back as the magnitude, with as few digits as possible. -/
def shortest (magnitude : Nat) : Decimal :=
  ((search magnitude).map (trim magnitude)).getD (exactDecimal magnitude)

end RecordFilter.Binary64
