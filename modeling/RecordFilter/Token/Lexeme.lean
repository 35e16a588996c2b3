import RecordFilter.Text.Blank
import RecordFilter.Token

/-!
# Lexemes

Which token a text begins with. The first character decides the family: a digit begins a
number, a blank a run of blanks, a letter or `_` a word, a quote a string, and everything else
an operator, a parenthesis or a character of no use. Within its family a lexeme takes as many
characters as it can, and `lexeme` says how many characters it takes beyond the first. Counting
the characters *beyond* the first makes it plain that a lexeme is never empty.
-/

namespace RecordFilter.Lexeme

/-! ## Character classes -/

/-- A decimal digit of ASCII. -/
def isDigit (c : Char) : Bool := c.isDigit

/-- A character that a word can begin with. -/
def isWordStart (c : Char) : Bool := c.isAlpha || c == '_'

/-- A character that a word can go on with. -/
def isWordChar (c : Char) : Bool := c.isAlphanum || c == '_'

/-- A character that opens and closes a string. -/
def isQuote (c : Char) : Bool := c == '"' || c == '\''

/-! ## How far a lexeme reaches -/

/-- How many of the characters after a first digit belong to the number: digits, and one point
among or after them. -/
def numberTail (rest : List Char) : Nat :=
  let whole := rest.takeWhile isDigit
  match rest.drop whole.length with
  | '.' :: more => whole.length + 1 + (more.takeWhile isDigit).length
  | _ => whole.length

/-- How many of the characters after the first belong to a run of a class. -/
def runTail (inClass : Char → Bool) (rest : List Char) : Nat :=
  (rest.takeWhile inClass).length

/-- How many of the characters after an opening quote belong to the string, the closing quote
included. A backslash takes the character after it along, whatever it is. There is no answer if
the text ends before the string does. -/
def stringTail (quote : Char) : List Char → Option Nat
  | [] => none
  | '\\' :: _ :: rest => (stringTail quote rest).map (· + 2)
  | c :: rest => if c = quote then some 1 else (stringTail quote rest).map (· + 1)

/-- The kind of a word: the two keywords are known in any casing. -/
def wordKind (word : List Char) : TokenKind :=
  if word.map Char.toLower = ['a', 'n', 'd'] then .and
  else if word.map Char.toLower = ['o', 'r'] then .or
  else .identifier

/-- Operators, parentheses and characters of no use: the kind, and how many characters beyond
the first belong to it. -/
def symbol : Char → List Char → TokenKind × Nat
  | '=', '~' :: _ => (.matching, 1)
  | '=', _ => (.equals, 0)
  | '!', '=' :: _ => (.notEquals, 1)
  | '!', '~' :: _ => (.notMatching, 1)
  | '<', '=' :: _ => (.lessOrEqual, 1)
  | '<', _ => (.less, 0)
  | '>', '=' :: _ => (.greaterOrEqual, 1)
  | '>', _ => (.greater, 0)
  | '&', '&' :: _ => (.and, 1)
  | '|', '|' :: _ => (.or, 1)
  | '(', _ => (.leftParen, 0)
  | ')', _ => (.rightParen, 0)
  | _, _ => (.illegal, 0)

end RecordFilter.Lexeme

namespace RecordFilter

/-- The lexeme a text begins with, the text being given as its first character and the rest: the
kind, and how many characters beyond the first belong to it. There is no answer if the text
begins with a string that never ends. -/
def lexeme (c : Char) (rest : List Char) : Option (TokenKind × Nat) :=
  if Lexeme.isDigit c then some (.number, Lexeme.numberTail rest)
  else if Text.isBlank c then some (.whitespace, Lexeme.runTail Text.isBlank rest)
  else if Lexeme.isWordStart c then
    let tail := Lexeme.runTail Lexeme.isWordChar rest
    some (Lexeme.wordKind (c :: rest.take tail), tail)
  else if Lexeme.isQuote c then (Lexeme.stringTail c rest).map fun tail => (.string, tail)
  else some (Lexeme.symbol c rest)

end RecordFilter
