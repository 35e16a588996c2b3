import RecordFilter.Expr.Condition
import RecordFilter.Json.Writer
import RecordFilter.Report.Style

/-!
# Reports on expressions

An expression is shown in its canonical spelling with its conditions below. As a value it also
shows its tree: a chain is the list of its operands and the list of the connectives between them,
each of which joins an operand to all that follow.
-/

namespace RecordFilter.Report

/-! ## Text -/

/-- A place in a text, short. -/
def placeText (p : Position) : String := toString p.line ++ ":" ++ toString p.column

/-- A text filled up with blanks to a width. -/
def pad (width : Nat) (text : String) : String :=
  text ++ String.ofList (List.replicate (width - text.length) ' ')

/-- A condition on a line of its own. -/
def conditionLine (colors : Bool) (c : Condition) : String :=
  "  " ++ pad 7 (placeText c.identifier.position)
    ++ " " ++ paintToken colors c.identifier.kind c.name
    ++ " " ++ paintToken colors c.comparison.token.kind c.operator.symbol
    ++ " " ++ paintToken colors c.literal.token.kind c.literal.token.literal ++ "\n"

/-- An expression with its conditions. -/
def expressionTable (colors : Bool) (e : Expr) : String :=
  heading colors "Expression" ++ "\n  " ++ e.describe ++ "\n\n"
    ++ heading colors "Conditions" ++ " (" ++ toString e.conditions.length ++ ")\n"
    ++ String.join (e.conditions.map (conditionLine colors))

/-! ## Values -/

/-- A literal: a number, or the text that a string stands for. -/
def literalJson (value : Value) : Json :=
  match value with
  | .number x =>
    if finite : x.isFinite = true then .number (.real x finite) else .null
  | .string raw => .string (String.ofList (Text.Quoted.decode raw.toList))

/-- A condition as a value. -/
def conditionJson (c : Condition) : Json :=
  .object [("field", .string c.name), ("op", .string c.operator.symbol),
    ("value", literalJson c.value), ("line", .ofNat c.identifier.position.line),
    ("column", .ofNat c.identifier.position.column)]

/-- A chain with the operands and connectives given. -/
def chainJson (operands connectives : List Json) : Json :=
  .object [("operands", .array operands), ("ops", .array connectives)]

/-- The operands and the connectives of a tree. An operand by itself is a chain of one. -/
def chainParts : {l : Level} → Tree (Sourced Connective) Condition l → List Json × List Json
  | _, .leaf c => ([.object [("condition", conditionJson c)]], [])
  | _, .group inner =>
    let (operands, connectives) := chainParts inner
    ([.object [("group", chainJson operands connectives)]], [])
  | _, .single operand => chainParts operand
  | _, .join operand c rest =>
    let (first, _) := chainParts operand
    let (operands, connectives) := chainParts rest
    (first ++ operands, .string c.item.keyword :: connectives)

/-- The tree of an expression as a value. -/
def treeJson (e : Expr) : Json :=
  let (operands, connectives) := chainParts e
  chainJson operands connectives

/-- An expression as a value. -/
def expressionJson (e : Expr) : Json :=
  .object [("expression", .string e.describe), ("tree", treeJson e),
    ("conditions", .array (e.conditions.map conditionJson))]

end RecordFilter.Report
