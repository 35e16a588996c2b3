import RecordFilter.Toml.Reader

/-!
# Writing keys of TOML

A key is written without quotes if it can be. Otherwise the quotes are chosen so that escapes are
avoided: single ones for keys with double quotes or backslashes in them, if nothing else in the
key speaks against it.
-/

namespace RecordFilter.Toml

/-- Whether a character cannot stand in a text without being escaped. The tab can. -/
def isControl (c : Char) : Bool := c != '\t' && (c.toNat < 0x20 || c.toNat == 0x7F)

/-- A hexadecimal digit in upper case. -/
def upperHexDigit (n : Nat) : Char := (Text.hexDigit n).toUpper

/-- A character inside double quotes. -/
def escapeChar (c : Char) : List Char :=
  if c = '"' then ['\\', '"']
  else if c = '\\' then ['\\', '\\']
  else if c = '\x08' then ['\\', 'b']
  else if c = '\t' then ['\\', 't']
  else if c = '\n' then ['\\', 'n']
  else if c = '\x0c' then ['\\', 'f']
  else if c = '\r' then ['\\', 'r']
  else if isControl c then
    ['\\', 'u', '0', '0', upperHexDigit (c.toNat / 16), upperHexDigit (c.toNat % 16)]
  else [c]

/-- Whether single quotes suit a text better than double ones. -/
def prefersSingle (text : List Char) : Bool :=
  (text.contains '"' || text.contains '\\') && !text.contains '\'' && !text.any isControl

/-- A text in quotes. -/
def quoted (text : List Char) : List Char :=
  if prefersSingle text then '\'' :: (text ++ ['\''])
  else '"' :: (text.flatMap escapeChar ++ ['"'])

/-- A key as it is written. -/
def keyText (key : String) : List Char :=
  let chars := key.toList
  if !chars.isEmpty && chars.all isBare then chars else quoted chars

end RecordFilter.Toml
