import RecordFilter.Token

/-!
# Operators

Comparisons join a field with a literal, connectives join conditions. Each is spelt by one kind
of token.
-/

namespace RecordFilter

/-- How a condition compares a field with a literal. -/
inductive Comparison where
  /-- `=` -/
  | equals
  /-- `!=` -/
  | notEquals
  /-- `=~` -/
  | matching
  /-- `!~` -/
  | notMatching
  /-- `<` -/
  | less
  /-- `<=` -/
  | lessOrEqual
  /-- `>` -/
  | greater
  /-- `>=` -/
  | greaterOrEqual
deriving DecidableEq, Repr

namespace Comparison

/-- The comparison that a kind of token spells, if it spells one. -/
def ofKind? : TokenKind → Option Comparison
  | .equals => some equals
  | .notEquals => some notEquals
  | .matching => some matching
  | .notMatching => some notMatching
  | .less => some less
  | .lessOrEqual => some lessOrEqual
  | .greater => some greater
  | .greaterOrEqual => some greaterOrEqual
  | _ => none

/-- The spelling of a comparison. -/
def symbol : Comparison → String
  | equals => "="
  | notEquals => "!="
  | matching => "=~"
  | notMatching => "!~"
  | less => "<"
  | lessOrEqual => "<="
  | greater => ">"
  | greaterOrEqual => ">="

/-- Whether a comparison asks for an order rather than for equality or a match. -/
def isOrdering : Comparison → Bool
  | less | lessOrEqual | greater | greaterOrEqual => true
  | _ => false

/-- Whether a comparison holds, given how the field stands to the literal. Matching is no
question of order and never holds by it. -/
def holds : Comparison → Ordering → Bool
  | equals, o => o == .eq
  | notEquals, o => o != .eq
  | less, o => o == .lt
  | lessOrEqual, o => o != .gt
  | greater, o => o == .gt
  | greaterOrEqual, o => o != .lt
  | matching, _ => false
  | notMatching, _ => false

end Comparison

/-- How two parts of an expression are joined. -/
inductive Connective where
  | and
  | or
deriving DecidableEq, Repr

namespace Connective

/-- The connective that a kind of token spells, if it spells one. -/
def ofKind? : TokenKind → Option Connective
  | .and => some and
  | .or => some or
  | _ => none

/-- The canonical spelling of a connective. -/
def keyword : Connective → String
  | and => "and"
  | or => "or"

/-- The value of two joined parts. -/
def combine : Connective → Bool → Bool → Bool
  | and, l, r => l && r
  | or, l, r => l || r

/-- Whether the left part alone decides the value. -/
def decides : Connective → Bool → Bool
  | and, l => !l
  | or, l => l

/-- A left part that decides is the value, whatever the right part is. -/
theorem combine_of_decides {c : Connective} {l : Bool} (h : c.decides l = true) (r : Bool) :
    c.combine l r = l := by
  cases c <;> cases l <;> simp_all [decides, combine]

/-- A left part that does not decide leaves the value to the right part. -/
theorem combine_of_not_decides {c : Connective} {l : Bool} (h : c.decides l = false) (r : Bool) :
    c.combine l r = r := by
  cases c <;> cases l <;> simp_all [decides, combine]

end Connective

end RecordFilter
