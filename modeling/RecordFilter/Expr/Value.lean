import RecordFilter.Number.Numeral
import RecordFilter.Text.Quoted
import RecordFilter.Expr.Error

/-!
# Literal values

What the right-hand side of a condition stands for: a string, kept with its quotes and escapes,
or a number.
-/

namespace RecordFilter

/-- The value of a literal. -/
inductive Value where
  /-- A string as it was written, quotes and escapes included. -/
  | string (raw : String)
  /-- A number. -/
  | number (value : Binary64)
deriving DecidableEq, Repr

namespace Value

/-- Which kind of value this is. -/
def kind : Value → ValueKind
  | string _ => .string
  | number _ => .number

/-- A string as it was written. -/
def asString : Value → Except ExprError String
  | string raw => .ok raw
  | number _ => .error (.wrongValueKind .string .number)

/-- A number. -/
def asNumber : Value → Except ExprError Binary64
  | number value => .ok value
  | string _ => .error (.wrongValueKind .number .string)

/-- The text that a string stands for: without its quotes and with its escapes resolved. -/
def unquoted : Value → Except ExprError String
  | string raw => .ok (String.ofList (Text.Quoted.decode raw.toList))
  | number _ => .error (.wrongValueKind .string .number)

/-- Equality of values, numbers compared as numbers. -/
def eqv : Value → Value → Bool
  | string a, string b => a == b
  | number a, number b => a.eqv b
  | _, _ => false

end Value

end RecordFilter
