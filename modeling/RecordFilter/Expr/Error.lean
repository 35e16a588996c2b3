import RecordFilter.Token
import RecordFilter.Expr.ValueKind

/-!
# What can be wrong with an expression

Every cause with which reading or compiling an expression can end, the message each is reported
with, and the place it points at.
-/

namespace RecordFilter

/-- Why a text is no expression, or why an expression has no meaning. -/
inductive ExprError where
  /-- The text ends inside the string that opens here. -/
  | unterminatedString (opening : Position)
  /-- A token that cannot stand where it stands, with the one kind that could, if only one could. -/
  | unexpectedToken (token : Token) (expected : Option TokenKind)
  /-- The text ends here, where a condition, an operator or a literal is due. -/
  | unexpectedEndOfInput (position : Position)
  /-- The parenthesis that opens here is never closed. -/
  | unclosedParenthesis (opening : Position)
  /-- The parenthesis that opens here is one too many inside the others. -/
  | nestingTooDeep (limit : Nat) (opening : Position)
  /-- A number that no finite double comes near. -/
  | invalidNumber (literal : String) (position : Position)
  /-- A condition that the compiling side refuses, with its reason. -/
  | condition (reason : String) (identifier : Token)
  /-- A literal asked for as the kind that it is not. -/
  | wrongValueKind (expected found : ValueKind)
deriving DecidableEq, Repr

namespace ExprError

/-- A token that cannot stand where it stands. At the end of the input the complaint is about
the end, not about the empty token there. -/
def unexpected (token : Token) : ExprError :=
  if token.kind = .endOfInput then .unexpectedEndOfInput token.position
  else .unexpectedToken token none

/-- The message an error is reported with. -/
def message : ExprError → String
  | unterminatedString opening =>
    "unexpected end of input while reading a string started at " ++ opening.describe
  | unexpectedToken token expected =>
    "unexpected token " ++ token.literal ++ " (" ++ token.kind.name ++ ") at "
      ++ token.position.describe
      ++ (match expected with
        | some kind => ", expected " ++ kind.name
        | none => "")
  | unexpectedEndOfInput position => "unexpected end of input at " ++ position.describe
  | unclosedParenthesis opening => "unclosed parenthesis opened at " ++ opening.describe
  | nestingTooDeep limit opening =>
    "parentheses nested deeper than " ++ toString limit ++ " levels at " ++ opening.describe
  | invalidNumber literal position =>
    "invalid number " ++ literal ++ " at " ++ position.describe
  | condition reason identifier =>
    reason ++ ": " ++ identifier.literal ++ " (" ++ identifier.kind.name ++ ") at "
      ++ identifier.position.describe
  | wrongValueKind expected found =>
    "value is a " ++ found.name ++ ", not a " ++ expected.name

/-- The place an error points at, if it has one. -/
def position? : ExprError → Option Position
  | unterminatedString opening => some opening
  | unexpectedToken token _ => some token.position
  | unexpectedEndOfInput position => some position
  | unclosedParenthesis opening => some opening
  | nestingTooDeep _ opening => some opening
  | invalidNumber _ position => some position
  | condition _ identifier => some identifier.position
  | wrongValueKind _ _ => none

end ExprError

end RecordFilter
