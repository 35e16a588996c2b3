import RecordFilter.Text.Hex

/-!
# Ranges of characters

Tables of character properties are rows of ranges of code points. A row is kept as text, which is
short and can be compared with the published tables at sight: hexadecimal numbers separated by
blanks, with a dash between the first and the last of a range.
-/

namespace RecordFilter.Text

/-- The code points from one to another, both included. -/
structure CodeRange where
  first : Nat
  last : Nat
deriving DecidableEq, Repr

namespace CodeRange

/-- Whether a character lies in a range. -/
def holds (r : CodeRange) (c : Char) : Bool := r.first ≤ c.toNat && c.toNat ≤ r.last

/-- Whether a character lies in one of several ranges. -/
def anyHolds (ranges : List CodeRange) (c : Char) : Bool := ranges.any fun r => r.holds c

/-- The range of a single character. -/
def single (c : Char) : CodeRange := ⟨c.toNat, c.toNat⟩

/-! ## Tables -/

/-- Reads a row, having read the first number of a range, if any, and a part of a number. -/
def readRow : List Char → Option Nat → Nat → List CodeRange
  | [], first, n => [⟨first.getD n, n⟩]
  | c :: rest, first, n =>
    if c = ' ' then ⟨first.getD n, n⟩ :: readRow rest none 0
    else if c = '-' then readRow rest (some n) 0
    else readRow rest first (16 * n + (hexValue? c).getD 0)

/-- The ranges of a row; an empty row has none. -/
def ofRow (row : String) : List CodeRange :=
  if row.isEmpty then [] else readRow row.toList none 0

/-- The ranges of several rows. -/
def ofRows (rows : List String) : List CodeRange := rows.flatMap ofRow

example : ofRow "41-5a 5f 61-7a" = [⟨0x41, 0x5A⟩, ⟨0x5F, 0x5F⟩, ⟨0x61, 0x7A⟩] := by cbv

end CodeRange

/-- A set of characters with its names, as a row of a table gives it. -/
structure NamedRanges where
  names : List String
  rows : List String

end RecordFilter.Text
