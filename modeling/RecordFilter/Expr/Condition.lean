import RecordFilter.Expr.Operator
import RecordFilter.Expr.Tree
import RecordFilter.Expr.Value

/-!
# Expressions

A condition compares a field with a literal. An expression joins conditions. Both keep the tokens
they were read from, so that a complaint about their meaning can point at their place.
-/

namespace RecordFilter

/-- Something that was read from one token. -/
structure Sourced (α : Type) where
  item : α
  token : Token
deriving DecidableEq, Repr

/-- A comparison of a field with a literal. The name of the field is kept beside the token that it
was read from, as operators and literals are kept beside theirs. -/
structure Condition where
  name : String
  identifier : Token
  comparison : Sourced Comparison
  literal : Sourced Value
deriving DecidableEq, Repr

namespace Condition

/-- How the field is compared. -/
def operator (c : Condition) : Comparison := c.comparison.item

/-- What the field is compared with. -/
def value (c : Condition) : Value := c.literal.item

/-- A condition in its canonical spelling: the literal as it was written, one blank around the
operator. -/
def describe (c : Condition) : String :=
  c.name ++ " " ++ c.operator.symbol ++ " " ++ c.literal.token.literal

/-- Equality of conditions: the same tokens at the same places, with equal values. -/
def eqv (a b : Condition) : Bool :=
  a.name == b.name && a.identifier == b.identifier && a.comparison == b.comparison
    && a.literal.token == b.literal.token && a.value.eqv b.value

end Condition

/-- A condition, or an expression in parentheses. -/
abbrev Operand : Type := Tree (Sourced Connective) Condition .operand

/-- Conditions and parenthesised expressions, joined by connectives. -/
abbrev Expr : Type := Tree (Sourced Connective) Condition .chain

namespace Expr

/-- The conditions from left to right. -/
def conditions (e : Expr) : List Condition := e.leaves

/-- An expression in its canonical spelling. -/
def describe (e : Expr) : String :=
  e.render (fun connective => connective.item.keyword) Condition.describe

/-- Equality of expressions: the same tree over equal conditions and connectives, all at the same
places. The places of parentheses do not count. -/
def eqv (a b : Expr) : Bool :=
  Tree.eqv (fun x y => x == y) Condition.eqv a b

end Expr

end RecordFilter
