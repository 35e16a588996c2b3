/-!
# The order of texts

Texts stand in lexicographic order of their code points, which is also the order of their UTF-8
bytes. Field names are kept in it, and it is the order in which a string field stands to a string
literal.
-/

namespace RecordFilter.Text

/-- The order of two rows of characters. -/
def compareChars : List Char → List Char → Ordering
  | [], [] => .eq
  | [], _ :: _ => .lt
  | _ :: _, [] => .gt
  | a :: s, b :: t =>
    match compare a.toNat b.toNat with
    | .eq => compareChars s t
    | o => o

/-- The order of two texts. -/
def compareText (a b : String) : Ordering := compareChars a.toList b.toList

end RecordFilter.Text
