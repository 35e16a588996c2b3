/-!
# Lines

A line ends at a line feed, which a carriage return may precede. Behind the last line feed there
is a line only if there is text.
-/

namespace RecordFilter.Text

/-- A line without the carriage return at its end. -/
def withoutReturn (line : List Char) : List Char :=
  if line.getLast? = some '\r' then line.dropLast else line

/-- The lines of a text, given what has been read of the present one, latest first. -/
def linesFrom (present : List Char) : List Char → List (List Char)
  | [] => if present.isEmpty then [] else [present.reverse]
  | c :: rest =>
    if c = '\n' then withoutReturn present.reverse :: linesFrom [] rest
    else linesFrom (c :: present) rest

/-- The lines of a text. -/
def lines (text : List Char) : List (List Char) := linesFrom [] text

end RecordFilter.Text
