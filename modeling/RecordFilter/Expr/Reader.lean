import RecordFilter.Expr.Condition
import RecordFilter.Token.Cursor

/-!
# Tokens as an expression

    chain     = operand { connective operand }
    operand   = condition | "(" chain ")"
    condition = identifier comparison ( string | number )

The reader is a machine that looks at one token at a time and never goes back. Its state is what
has been read of the open chains, innermost first, and what is due next; a token either takes it
to the next state, completes the expression, or cannot stand where it stands. So the reader stops
at the first token that no expression could go on with, and one pass over the tokens is enough.
-/

namespace RecordFilter

/-- How deep parentheses may be nested. -/
def maxNesting : Nat := 128

namespace Reader

/-! ## States -/

/-- An operand with the connective behind it. -/
abbrev Joined : Type := Operand × Sourced Connective

/-- What the next token has to be. -/
inductive Due where
  /-- A condition or a parenthesis. -/
  | operand
  /-- The comparison of a condition that has begun with this identifier. -/
  | comparison (identifier : Token)
  /-- The literal of a condition that has come so far. -/
  | literal (identifier : Token) (comparison : Sourced Comparison)
  /-- A connective, or the end of the chain that this operand is the last of. -/
  | connective (operand : Operand)

/-- A chain that waits for a parenthesis to close: the opening token, and what stands before it
in the chain, the latest first. -/
structure Enclosure where
  opening : Token
  before : List Joined

/-- A state of the reader: the chains that wait, innermost first, what stands before in the
current chain, the latest first, and what is due. -/
structure State where
  enclosing : List Enclosure
  before : List Joined
  due : Due

/-- Nothing has been read. -/
def State.initial : State := ⟨[], [], .operand⟩

/-- The chain that ends with an operand. -/
def close (before : List Joined) (last : Operand) : Expr :=
  before.foldl (fun rest joined => .join joined.1 joined.2 rest) (.single last)

/-! ## Steps -/

/-- What a token leads to. -/
inductive Step where
  | next (state : State)
  | finished (expression : Expr)

/-- The value of a literal token. -/
def literalValue (token : Token) : Except ExprError Value :=
  match token.kind with
  | .string => .ok (.string token.literal)
  | .number =>
    match Binary64.ofText? token.literal.toList with
    | some value => .ok (.number value)
    | none => .error (.invalidNumber token.literal token.position)
  | _ => .error (.unexpected token)

/-- A token where an operand is due. -/
def stepOperand (state : State) (token : Token) : Except ExprError Step :=
  match token.kind with
  | .leftParen =>
    if state.enclosing.length < maxNesting then
      .ok (.next ⟨⟨token, state.before⟩ :: state.enclosing, [], .operand⟩)
    else .error (.nestingTooDeep maxNesting token.position)
  | .identifier => .ok (.next { state with due := .comparison token })
  | _ => .error (.unexpected token)

/-- A token where a comparison is due. -/
def stepComparison (state : State) (identifier token : Token) : Except ExprError Step :=
  match Comparison.ofKind? token.kind with
  | some comparison => .ok (.next { state with due := .literal identifier ⟨comparison, token⟩ })
  | none => .error (.unexpected token)

/-- A token where a literal is due. -/
def stepLiteral (state : State) (identifier : Token) (comparison : Sourced Comparison)
    (token : Token) : Except ExprError Step :=
  match literalValue token with
  | .ok value =>
    let condition : Condition := ⟨identifier.literal, identifier, comparison, ⟨value, token⟩⟩
    .ok (.next { state with due := .connective (.leaf condition) })
  | .error e => .error e

/-- A token behind an operand. -/
def stepConnective (state : State) (operand : Operand) (token : Token) : Except ExprError Step :=
  match Connective.ofKind? token.kind with
  | some connective =>
    .ok (.next ⟨state.enclosing, (operand, ⟨connective, token⟩) :: state.before, .operand⟩)
  | none =>
    match state.enclosing, token.kind with
    | [], .endOfInput => .ok (.finished (close state.before operand))
    | enclosure :: outer, .rightParen =>
      .ok (.next ⟨outer, enclosure.before, .connective (.group (close state.before operand))⟩)
    | enclosure :: _, .endOfInput => .error (.unclosedParenthesis enclosure.opening.position)
    | _, _ => .error (.unexpected token)

/-- What a token leads to. -/
def step (state : State) (token : Token) : Except ExprError Step :=
  match state.due with
  | .operand => stepOperand state token
  | .comparison identifier => stepComparison state identifier token
  | .literal identifier comparison => stepLiteral state identifier comparison token
  | .connective operand => stepConnective state operand token

/-! ## Runs -/

/-- Where a run ends: with an expression or an error, in front of the tokens that are left. -/
structure Stop where
  result : Except ExprError Expr
  rest : List Token

/-- The run from a state over tokens; a complaint about missing tokens points at `atEnd`. -/
def run (atEnd : Position) (state : State) : List Token → Stop
  | [] => ⟨.error (.unexpectedEndOfInput atEnd), []⟩
  | token :: rest =>
    match step state token with
    | .ok (.next state) => run atEnd state rest
    | .ok (.finished expression) => ⟨.ok expression, token :: rest⟩
    | .error e => ⟨.error e, token :: rest⟩

end Reader

/-- Reads an expression from where a cursor stands. It has to be followed by the end of the
input. The cursor is left on the token where reading stopped. -/
def Cursor.read (cursor : Cursor) : Except ExprError Expr × Cursor :=
  let stop := Reader.run cursor.endPosition .initial cursor.remaining
  (stop.result, cursor.moveTo (cursor.index + (cursor.remaining.length - stop.rest.length)))

/-- Reads a whole text as an expression. -/
def Expr.ofText (text : String) : Except ExprError Expr :=
  match Cursor.ofText text true with
  | .ok cursor => cursor.read.1
  | .error e => .error e

end RecordFilter
