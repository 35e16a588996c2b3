import RecordFilter.Expr.ValueKind
import RecordFilter.Text.Lowercase

/-!
# The types of declared fields
-/

namespace RecordFilter

/-- What a declared field holds. -/
inductive FieldType where
  | string
  | number
deriving DecidableEq, Repr

namespace FieldType

/-- The kind of literal that a condition on such a field has to have. -/
def valueKind : FieldType → ValueKind
  | string => .string
  | number => .number

/-- The name of a type. -/
def name (t : FieldType) : String := t.valueKind.name

/-- The type that a text names in any casing, in full or abbreviated. -/
def ofText? (text : String) : Option FieldType :=
  match String.ofList (Text.lowercase text) with
  | "string" | "str" => some string
  | "number" | "num" => some number
  | _ => none

/-- What is said of a text that names no type. -/
def refusal (text : String) : String :=
  "invalid field type '" ++ text ++ "'. Valid types: string, number"

end FieldType

end RecordFilter
