import RecordFilter.Expr.Compiled
import RecordFilter.Json.Value
import RecordFilter.Pattern.Compile
import RecordFilter.Record.Schema
import RecordFilter.Text.Order

/-!
# Conditions on records

A record is a JSON value, and the name of a condition is a key of its top level. A condition asks
for a value of the kind of its literal: a record that is no object, lacks the key or holds another
kind of value there satisfies neither a condition nor its opposite.
-/

namespace RecordFilter

/-- How the conditions of an expression are understood: which fields are declared, and whether
patterns regard case. -/
structure Rules where
  schema : Schema
  ignoreCase : Bool
deriving DecidableEq, Repr

/-! ## Objections -/

/-- Why a condition has no meaning on records. -/
inductive Objection where
  /-- The field is not declared; a declared one may have been meant. -/
  | unknownField (suggestion : Option String)
  /-- The literal is not of the kind that the field's type demands. -/
  | wrongKind (declared : FieldType) (literal : ValueKind)
  /-- A number cannot be a pattern. -/
  | patternNotString (comparison : Comparison)
  /-- The string is no pattern. -/
  | invalidPattern (cause : PatternError)
deriving DecidableEq, Repr

/-- The message of an objection. -/
def Objection.message : Objection → String
  | unknownField none => "unknown field"
  | unknownField (some name) => "unknown field, did you mean '" ++ name ++ "'?"
  | wrongKind declared literal =>
    "field is a " ++ declared.name ++ " but the literal is a " ++ literal.name
  | patternNotString comparison =>
    "operator " ++ comparison.symbol ++ " needs a string literal"
  | invalidPattern cause => "invalid regular expression: " ++ cause.message

namespace Rules

/-- What the schema has against a condition on a field, with a literal of a kind. -/
def check (rules : Rules) (name : String) (kind : ValueKind) : Except Objection Unit :=
  if rules.schema.isClosed then
    match rules.schema.typeOf? name with
    | none => .error (.unknownField (rules.schema.suggestion? name))
    | some declared =>
      if declared.valueKind = kind then .ok () else .error (.wrongKind declared kind)
  else .ok ()

/-! ## Tests -/

/-- The number that a record holds under a name. -/
def numberField? (record : Json) (name : String) : Option Binary64 :=
  (record.get? name).bind Json.asBinary64?

/-- The text that a record holds under a name. -/
def stringField? (record : Json) (name : String) : Option String :=
  (record.get? name).bind Json.asString?

/-- Whether a number compares with another as asked. -/
def comparesNumber (comparison : Comparison) (bound value : Binary64) : Bool :=
  (value.compare? bound).any comparison.holds

/-- The test of a number. -/
def numberTest (comparison : Comparison) (bound : Binary64) :
    Except Objection (Binary64 → Bool) :=
  match comparison with
  | .matching | .notMatching => .error (.patternNotString comparison)
  | _ => .ok (comparesNumber comparison bound)

/-- The text of a pattern, set to disregard case if the rules say so. -/
def patternText (rules : Rules) (text : String) : String :=
  if rules.ignoreCase then "(?i)" ++ text else text

/-- The test of a text. -/
def stringTest (rules : Rules) (comparison : Comparison) (text : String) :
    Except Objection (String → Bool) :=
  match comparison with
  | .matching | .notMatching =>
    match Pattern.ofText (rules.patternText text) with
    | .ok pattern => .ok fun value => pattern.matchesIn value != (comparison == .notMatching)
    | .error cause => .error (.invalidPattern cause)
  | _ => .ok fun value => comparison.holds (Text.compareText value text)

/-- The test of a field against a literal. -/
def literalTest (rules : Rules) (name : String) (comparison : Comparison) (value : Value) :
    Except Objection (Json → Bool) :=
  match value with
  | .number bound => do
    let test ← numberTest comparison bound
    return fun record => (numberField? record name).any test
  | .string raw => do
    let text := String.ofList (Text.Quoted.decode raw.toList)
    let test ← rules.stringTest comparison text
    return fun record => (stringField? record name).any test

/-- The test of a record that a condition stands for. -/
def test (rules : Rules) (c : Condition) : Except Objection (Json → Bool) := do
  rules.check c.name c.value.kind
  rules.literalTest c.name c.operator c.value

/-- The test of a record that a condition stands for, objections as complaints about its field. -/
def bind (rules : Rules) (c : Condition) : Except ExprError (Json → Bool) :=
  match rules.test c with
  | .ok test => .ok test
  | .error objection => .error (.condition objection.message c.identifier)

end Rules

/-- An expression as a test of records. -/
def Expr.compileFor (rules : Rules) (e : Expr) : Except ExprError (Compiled Json) :=
  e.compile rules.bind

end RecordFilter
