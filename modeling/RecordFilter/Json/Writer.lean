import RecordFilter.Json.Value
import RecordFilter.Text.Hex

/-!
# Writing JSON

Values are written on one line without any blanks, or over several lines with two blanks per
level.
-/

namespace RecordFilter.Json

/-! ## Strings -/

/-- A character inside a string: quotes, backslashes and control characters are escaped, the rest
is written as it is. -/
def escapeChar (c : Char) : List Char :=
  if c = '"' then ['\\', '"']
  else if c = '\\' then ['\\', '\\']
  else if c = '\n' then ['\\', 'n']
  else if c = '\r' then ['\\', 'r']
  else if c = '\t' then ['\\', 't']
  else if c = '\x08' then ['\\', 'b']
  else if c = '\x0c' then ['\\', 'f']
  else if c.toNat < 0x20 then
    ['\\', 'u', '0', '0', Text.hexDigit (c.toNat / 16), Text.hexDigit (c.toNat % 16)]
  else [c]

/-- A text as a string of JSON. -/
def quote (text : String) : String :=
  String.ofList ('"' :: (text.toList.flatMap escapeChar ++ ['"']))

/-! ## One line -/

mutual

/-- A value on one line. -/
def write : Json → String
  | null => "null"
  | bool true => "true"
  | bool false => "false"
  | number value => String.ofList value.text
  | string value => quote value
  | array items => "[" ++ ",".intercalate (writeItems items) ++ "]"
  | object members => "\x7b" ++ ",".intercalate (writeMembers members) ++ "\x7d"

/-- The items of an array, each on one line. -/
def writeItems : List Json → List String
  | [] => []
  | item :: items => write item :: writeItems items

/-- The members of an object, each on one line. -/
def writeMembers : List (String × Json) → List String
  | [] => []
  | (key, value) :: members => (quote key ++ ":" ++ write value) :: writeMembers members

end

/-! ## Several lines -/

/-- The blanks in front of a line at a level. -/
def indent (level : Nat) : String := String.ofList (List.replicate (2 * level) ' ')

/-- The parts of an array or object between brackets, one per line at the level inside. -/
def bracket (level : Nat) (opening closing : String) (parts : List String) : String :=
  if parts.isEmpty then opening ++ closing
  else
    opening ++ "\n" ++ indent (level + 1) ++ (",\n" ++ indent (level + 1)).intercalate parts
      ++ "\n" ++ indent level ++ closing

mutual

/-- A value over several lines, its first line standing at a level. -/
def prettyAt (level : Nat) : Json → String
  | array items => bracket level "[" "]" (prettyItems (level + 1) items)
  | object members => bracket level "\x7b" "\x7d" (prettyMembers (level + 1) members)
  | null => "null"
  | bool true => "true"
  | bool false => "false"
  | number value => String.ofList value.text
  | string value => quote value

/-- The items of an array at a level. -/
def prettyItems (level : Nat) : List Json → List String
  | [] => []
  | item :: items => prettyAt level item :: prettyItems level items

/-- The members of an object at a level. -/
def prettyMembers (level : Nat) : List (String × Json) → List String
  | [] => []
  | (key, value) :: members =>
    (quote key ++ ": " ++ prettyAt level value) :: prettyMembers level members

end

/-- A value over several lines. -/
def pretty (value : Json) : String := value.prettyAt 0

end RecordFilter.Json
