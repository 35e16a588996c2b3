import RecordFilter.Record.FieldType
import RecordFilter.Text.EditDistance
import RecordFilter.Text.Keyed

/-!
# Declared fields

A schema declares fields with their types. Once it declares any, no others may be used. A name
that is not declared may be a misspelling of one that is: the nearest declared name is suggested,
if it is near enough.
-/

namespace RecordFilter

/-- Declared fields with their types, in the order of their names. -/
structure Schema where
  fields : List (String × FieldType)
deriving DecidableEq, Repr

namespace Schema

/-- The schema that declares nothing. -/
def empty : Schema := ⟨[]⟩

/-- A schema with further declarations. A later declaration of a field replaces an earlier one. -/
def declare (declarations : List (String × FieldType)) (schema : Schema) : Schema :=
  ⟨Keyed.insertAll declarations schema.fields⟩

/-- Whether only declared fields may be used. -/
def isClosed (schema : Schema) : Bool := !schema.fields.isEmpty

/-- The type of a declared field. -/
def typeOf? (schema : Schema) (name : String) : Option FieldType := Keyed.find? name schema.fields

/-! ## Suggestions -/

/-- The greatest distance at which a declared name is suggested for another. -/
def maxSuggestionDistance : Nat := 3

/-- The first of several names whose distance is least. -/
def nearest (distance : String → Nat) : List String → Option String
  | [] => none
  | name :: names =>
    match nearest distance names with
    | some best => if distance best < distance name then some best else some name
    | none => some name

/-- How far apart two names are, casing not counted. -/
def nameDistance (a b : String) : Nat := Text.distance (Text.lowercase a) (Text.lowercase b)

/-- The declared name that an undeclared one is most likely a misspelling of. -/
def suggestion? (schema : Schema) (name : String) : Option String :=
  let names := (schema.fields.map Prod.fst).filter fun declared => declared ≠ ""
  match nearest (nameDistance name) names with
  | some best =>
    if best ≠ name ∧ nameDistance name best ≤ maxSuggestionDistance then some best else none
  | none => none

end Schema

end RecordFilter
