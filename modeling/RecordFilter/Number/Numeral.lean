import RecordFilter.Number.Binary64

/-!
# Decimal numerals

A numeral is a whole number times a power of ten, with a sign. This module reads one from text
and finds the double that is nearest to it.
-/

namespace RecordFilter

/-- The number `digits * 10 ^ exponent`, with a sign that also zero keeps. -/
structure Numeral where
  negative : Bool
  digits : Nat
  exponent : Int
deriving DecidableEq, Repr

namespace Numeral

/-! ## Digits -/

/-- The value of a decimal digit. -/
def digitValue (c : Char) : Nat := c.toNat - '0'.toNat

/-- The number that a row of decimal digits spells. -/
def ofDigits (row : List Char) : Nat :=
  row.foldl (fun n c => 10 * n + digitValue c) 0

/-- How many decimal digits a number has; zero has one. -/
def digitCount (n : Nat) : Nat := (Nat.toDigits 10 n).length

/-! ## Reading -/

/-- A sign in front of a text, and what follows it. -/
def readSign : List Char → Bool × List Char
  | '-' :: rest => (true, rest)
  | '+' :: rest => (false, rest)
  | text => (false, text)

/-- An exponent that is the whole text: nothing, or `e`, an optional sign and digits. -/
def readExponent? : List Char → Option Int
  | [] => some 0
  | c :: rest =>
    if c = 'e' ∨ c = 'E' then
      let (negative, row) := readSign rest
      if row.isEmpty || !row.all Char.isDigit then none
      else some (if negative then -(ofDigits row : Int) else ofDigits row)
    else none

/-- Digits with at most one point among, before or after them, and what follows: the digits
before the point, those after it, and the rest. -/
def readMantissa (text : List Char) : List Char × List Char × List Char :=
  let whole := text.takeWhile Char.isDigit
  match text.dropWhile Char.isDigit with
  | '.' :: more => (whole, more.takeWhile Char.isDigit, more.dropWhile Char.isDigit)
  | rest => (whole, [], rest)

/-- A text as a numeral: an optional sign, digits with at most one point, at least one digit, and
an optional exponent. -/
def ofText? (text : List Char) : Option Numeral :=
  let (negative, unsigned) := readSign text
  let (whole, fraction, rest) := readMantissa unsigned
  if whole.isEmpty && fraction.isEmpty then none
  else (readExponent? rest).map fun exponent =>
    ⟨negative, ofDigits (whole ++ fraction), exponent - fraction.length⟩

/-! ## The nearest double -/

/-- Decimal exponents from which on any whole number but zero is out of reach. -/
def hugeExponent : Int := 310

/-- A power of ten below which every number rounds to zero. -/
def tinyExponent : Int := -330

/-- The double nearest to a numeral, infinity if it is out of reach. Exponents that decide the
matter by their size alone are not turned into powers. -/
def toBinary64 (n : Numeral) : Binary64 :=
  if n.digits = 0 then ⟨n.negative, 0, by decide⟩
  else if hugeExponent ≤ n.exponent then ⟨n.negative, Binary64.infinity, Binary64.infinity_lt⟩
  else if n.exponent + digitCount n.digits ≤ tinyExponent then ⟨n.negative, 0, by decide⟩
  else if 0 ≤ n.exponent then
    .ofRatio n.negative (n.digits * tenTo n.exponent.toNat) 1
  else
    .ofRatio n.negative n.digits (tenTo (-n.exponent).toNat)

end Numeral

/-- A text as a finite double: nothing if it is no numeral, or one that is out of reach. -/
def Binary64.ofText? (text : List Char) : Option Binary64 :=
  match Numeral.ofText? text with
  | some n => if n.toBinary64.isFinite then some n.toBinary64 else none
  | none => none

end RecordFilter
