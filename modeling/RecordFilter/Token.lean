/-!
# Tokens

A filter expression is read as a sequence of tokens. A token keeps the exact text it was made
from and the place where that text starts, so that every later complaint can point at it.
-/

namespace RecordFilter

/-! ## Positions -/

/-- A place in a text: lines and columns count from one, columns in characters. -/
structure Position where
  line : Nat
  column : Nat
deriving DecidableEq, Repr

namespace Position

/-- The place of the first character of a text. -/
def start : Position := ⟨1, 1⟩

/-- The place after a character at this place: a line feed begins the next line. -/
def next (p : Position) (c : Char) : Position :=
  if c = '\n' then ⟨p.line + 1, 1⟩ else ⟨p.line, p.column + 1⟩

/-- The place after a piece of text that starts at this place. -/
def after (p : Position) (text : List Char) : Position :=
  text.foldl next p

@[simp] theorem after_nil (p : Position) : p.after [] = p := rfl

@[simp] theorem after_cons (p : Position) (c : Char) (text : List Char) :
    p.after (c :: text) = (p.next c).after text := rfl

@[simp] theorem after_append (p : Position) (a b : List Char) :
    p.after (a ++ b) = (p.after a).after b := by
  simp [after, List.foldl_append]

/-- How a place is named in messages. -/
def describe (p : Position) : String :=
  "line " ++ toString p.line ++ " pos " ++ toString p.column

end Position

/-! ## Kinds -/

/-- What a token is, as far as its text alone decides. -/
inductive TokenKind where
  /-- A character, or half of an operator, that the language has no use for. -/
  | illegal
  /-- The end of the text, as a token of its own with an empty literal. -/
  | endOfInput
  /-- A run of blank characters. -/
  | whitespace
  /-- A field name: an ASCII letter or `_`, then letters, digits or `_`. -/
  | identifier
  /-- Digits with at most one point, the first character a digit. -/
  | number
  /-- A text in single or double quotes, quotes included. -/
  | string
  /-- `!=` -/
  | notEquals
  /-- `=` -/
  | equals
  /-- `=~` -/
  | matching
  /-- `!~` -/
  | notMatching
  /-- `<` -/
  | less
  /-- `>` -/
  | greater
  /-- `<=` -/
  | lessOrEqual
  /-- `>=` -/
  | greaterOrEqual
  /-- `(` -/
  | leftParen
  /-- `)` -/
  | rightParen
  /-- `or`, in any casing, or `||` -/
  | or
  /-- `and`, in any casing, or `&&` -/
  | and
deriving DecidableEq, Repr

namespace TokenKind

/-- The name of a kind in token dumps and messages. -/
def name : TokenKind → String
  | illegal => "Illegal"
  | endOfInput => "EOF"
  | whitespace => "WhiteSpace"
  | identifier => "Identifier"
  | number => "Number"
  | string => "String"
  | notEquals => "NotEquals"
  | equals => "Equals"
  | matching => "Matches"
  | notMatching => "NotMatches"
  | less => "Less"
  | greater => "Greater"
  | lessOrEqual => "LessOrEqual"
  | greaterOrEqual => "GreaterOrEqual"
  | leftParen => "LBrace"
  | rightParen => "RBrace"
  | or => "Or"
  | and => "And"

/-- Every kind, in the order of the declaration. -/
def all : List TokenKind :=
  [illegal, endOfInput, whitespace, identifier, number, string, notEquals, equals, matching,
    notMatching, less, greater, lessOrEqual, greaterOrEqual, leftParen, rightParen, or, and]

/-- The kind of a name. -/
def ofName? (text : String) : Option TokenKind :=
  all.find? fun kind => kind.name == text

end TokenKind

/-! ## Tokens -/

/-- A token: its kind, the text it was made from, casing and escapes kept, and the place of the
text's first character. -/
structure Token where
  kind : TokenKind
  literal : String
  position : Position
deriving DecidableEq, Repr

namespace Token

/-- Line feeds spelt as `\n`, so that a dump keeps one token per line. -/
def spellLineFeeds : List Char → List Char
  | [] => []
  | c :: rest => if c = '\n' then '\\' :: 'n' :: spellLineFeeds rest else c :: spellLineFeeds rest

/-- A token as dumps show it. -/
def describe (token : Token) : String :=
  "<Token type=" ++ token.kind.name
    ++ " literal=\"" ++ String.ofList (spellLineFeeds token.literal.toList)
    ++ "\" at=" ++ toString token.position.line ++ ":" ++ toString token.position.column ++ ">"

end Token

end RecordFilter
