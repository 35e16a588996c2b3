/-!
# The two kinds of literal

A condition compares a field with a string or with a number. Literals have such a kind, and
declared fields demand one.
-/

namespace RecordFilter

/-- What a literal is: a string or a number. -/
inductive ValueKind where
  | string
  | number
deriving DecidableEq, Repr

/-- The name of a kind of literal in messages and declarations. -/
def ValueKind.name : ValueKind → String
  | .string => "string"
  | .number => "number"

end RecordFilter
