import RecordFilter.Text.Property

/-!
# Texts in lower case

Each letter is replaced by its small form. Two letters need more than the table: the capital I
with a dot becomes an i with a dot above it, and the small form of a capital sigma depends on
whether a word ends there.
-/

namespace RecordFilter.Text

/-- Whether a letter is next, the characters that do not separate letters passed over. -/
def meetsLetter (neighbours : List Char) : Bool :=
  match neighbours.dropWhile fun c => caseIgnorable.mem c with
  | [] => false
  | c :: _ => cased.mem c

/-- The small form of a capital sigma, given what stands before it, nearest first, and after it:
the final one if it ends a word. -/
def smallSigma (before after : List Char) : Char :=
  if meetsLetter before && !meetsLetter after then '\u03c2' else '\u03c3'

/-- The small form of a character between others, those before it nearest first. -/
def lowerAt (before : List Char) (c : Char) (after : List Char) : List Char :=
  if c = '\u03a3' then [smallSigma before after]
  else if c = '\u0130' then ['i', '\u0307']
  else [smallForm c]

/-- A text in lower case, given what stands before it, nearest first. -/
def lowerFrom (before : List Char) : List Char → List Char
  | [] => []
  | c :: rest => lowerAt before c rest ++ lowerFrom (c :: before) rest

/-- A text in lower case. -/
def lowercase (text : String) : List Char := lowerFrom [] text.toList

end RecordFilter.Text
