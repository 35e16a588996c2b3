import RecordFilter.Number.Binary64
import RecordFilter.Text.Keyed

/-!
# TOML values

A TOML document is a table. Where a table was written decides what may still be added to it, so
tables remember how they came about.
-/

namespace RecordFilter

/-- How a table came about. -/
inductive TableOrigin where
  /-- It has a header of its own. -/
  | header
  /-- It is named on the way to another table, in that one's header. -/
  | implied
  /-- It is named on the way to a key with dots. -/
  | dotted
  /-- It is written in braces. -/
  | inline
deriving DecidableEq, Repr

/-- A TOML value. -/
inductive Toml where
  | string (value : String)
  | integer (value : Int)
  | real (value : Binary64)
  | boolean (value : Bool)
  /-- A date, a time, or both. -/
  | moment
  | array (items : List Toml)
  /-- A table, its entries in the order of their keys. -/
  | table (origin : TableOrigin) (entries : List (String × Toml))
  /-- Tables under headers in double brackets, the latest first. -/
  | tables (items : List (List (String × Toml)))
deriving Repr

/-- Why a text is no TOML document. -/
inductive TomlError where
  /-- The text ends where it cannot end. -/
  | unexpectedEnd
  /-- A character that cannot stand where it stands. -/
  | unexpectedCharacter (c : Char)
  /-- A backslash with something behind it that means nothing. -/
  | badEscape
  /-- A word that is no value. -/
  | badValue (word : String)
  /-- A key that is defined already, or that what is there already has no room for. -/
  | duplicateKey (key : String)
  /-- Arrays and tables nested too deep. -/
  | nestingTooDeep
deriving DecidableEq, Repr

/-- The message of an error. -/
def TomlError.message : TomlError → String
  | unexpectedEnd => "unexpected end of document"
  | unexpectedCharacter c => "unexpected character " ++ String.singleton c
  | badEscape => "invalid escape sequence"
  | badValue word => "invalid value " ++ word
  | duplicateKey key => "duplicate key " ++ key
  | nestingTooDeep => "recursion limit exceeded"

namespace Toml

/-- How deep arrays and tables in braces may be nested, and one less than how many parts a key may
have. -/
def maxDepth : Nat := 79

end Toml

end RecordFilter
