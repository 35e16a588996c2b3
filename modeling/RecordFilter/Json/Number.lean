import RecordFilter.Number.Shortest

/-!
# Numbers of JSON

A number without point and exponent that fits 64 bits, with or without a sign, is an integer and
stays exact. Every other number is a double, and is written so that it stays one: with a point or
an exponent. Texts are read as the nearest double, of any length, and doubles are written with the
fewest digits that lead back to them.
-/

namespace RecordFilter

/-- Whether an integer fits 64 bits, with or without a sign. -/
def Json.fitsWord (n : Int) : Bool :=
  decide (-(twoTo 63 : Int) ≤ n) && decide (n < twoTo 64)

/-- A number of JSON. -/
inductive JsonNumber where
  | integer (value : Int) (fits : Json.fitsWord value = true)
  | real (value : Binary64) (finite : value.isFinite = true)
deriving DecidableEq, Repr

namespace JsonNumber

/-- A number as a double, integers rounded to the nearest one. -/
def toBinary64 : JsonNumber → Binary64
  | integer value _ => .ofInt value
  | real value _ => value

/-! ## Text -/

/-- How doubles are laid out: which places of the point are written out, and as what. A number
`0.d₁d₂… * 10 ^ place` is written with its digits around the point for places above `lowest` and
up to `highest`, and with an exponent otherwise. -/
structure Layout where
  lowest : Int
  highest : Int

/-- Doubles are written out from `0.00001` to `9999999999999998.0`. -/
def Layout.standard : Layout := ⟨-5, 16⟩

/-- A row of zeros. -/
def zeros (count : Nat) : List Char := List.replicate count '0'

/-- The digits of an exponent with its sign, which is never left out. -/
def exponentText (exponent : Int) : List Char :=
  (if exponent < 0 then '-' else '+') :: Nat.toDigits 10 exponent.natAbs

/-- A decimal as text that shows a point or an exponent. -/
def decimalText (layout : Layout) (d : Binary64.Decimal) : List Char :=
  let row := Nat.toDigits 10 d.digits
  let place : Int := row.length + d.exponent
  if 0 ≤ d.exponent ∧ place ≤ layout.highest then
    row ++ zeros d.exponent.toNat ++ ['.', '0']
  else if 0 < place ∧ place ≤ layout.highest then
    row.take place.toNat ++ '.' :: row.drop place.toNat
  else if layout.lowest < place ∧ place ≤ 0 then
    '0' :: '.' :: (zeros (-place).toNat ++ row)
  else
    match row with
    | [] => []
    | [digit] => digit :: 'e' :: exponentText (place - 1)
    | digit :: more => digit :: '.' :: (more ++ 'e' :: exponentText (place - 1))

/-- A finite double as text. -/
def realText (x : Binary64) : List Char :=
  let unsigned :=
    if x.magnitude = 0 then ['0', '.', '0']
    else decimalText .standard (Binary64.shortest x.magnitude)
  if x.negative then '-' :: unsigned else unsigned

/-- An integer as text. -/
def integerText (n : Int) : List Char :=
  if n < 0 then '-' :: Nat.toDigits 10 n.natAbs else Nat.toDigits 10 n.natAbs

/-- A number as text. -/
def text : JsonNumber → List Char
  | integer value _ => integerText value
  | real value _ => realText value

end JsonNumber

end RecordFilter
