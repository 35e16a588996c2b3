/-!
# The distance between two texts

How many characters have to be inserted, deleted or replaced to turn one text into another. The
distances of one text to all ends of the other are computed together, as a row, and the row for a
longer text comes from that for the text without its first character.
-/

namespace RecordFilter.Text

/-- The distances of the empty text to all ends of a text, the longest end first. -/
def emptyRow : List Char → List Nat
  | [] => [0]
  | _ :: t => (t.length + 1) :: emptyRow t

/-- From the distances of a text to all ends of another, those of the text with one more character
in front. -/
def nextRow (c : Char) : List Char → List Nat → List Nat
  | [], row => [row.headD 0 + 1]
  | x :: t, row =>
    let below := row.tail
    let rest := nextRow c t below
    let kept := below.headD 0 + (if c = x then 0 else 1)
    min kept (min (row.headD 0) (rest.headD 0) + 1) :: rest

/-- The distances of a text to all ends of another, the longest end first. -/
def distanceRow (s t : List Char) : List Nat := s.foldr (fun c row => nextRow c t row) (emptyRow t)

/-- The least number of insertions, deletions and replacements of single characters that turn one
text into the other. -/
def distance (s t : List Char) : Nat := (distanceRow s t).headD 0

example : distance ['k', 'i', 't', 't', 'e', 'n'] ['s', 'i', 't', 't', 'i', 'n', 'g'] = 3 := by
  decide

end RecordFilter.Text
