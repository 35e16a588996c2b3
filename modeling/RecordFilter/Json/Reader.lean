import RecordFilter.Json.Value
import RecordFilter.Text.Hex

/-!
# Reading JSON

A reader takes a value from the front of a text and gives what follows it. Arrays and objects may
be nested so deep and no deeper; this bound is also what the recursion runs on, and inside one
array or object the recursion runs on the length of the text.
-/

namespace RecordFilter

/-- Why a text is no JSON value. -/
inductive JsonError where
  /-- The text ends inside a value, or in front of it. -/
  | unexpectedEnd
  /-- A character that cannot stand where it stands. -/
  | unexpectedCharacter (c : Char)
  /-- A control character inside a string. -/
  | controlCharacter
  /-- A backslash with something behind it that means nothing. -/
  | badEscape
  /-- One half of a surrogate pair without the other. -/
  | loneSurrogate
  /-- Digits that are no number. -/
  | badNumber
  /-- A number that no finite double comes near. -/
  | numberOutOfRange
  /-- Arrays and objects nested too deep. -/
  | nestingTooDeep
  /-- Something behind the value. -/
  | trailingCharacters
deriving DecidableEq, Repr

/-- The message of an error. -/
def JsonError.message : JsonError → String
  | unexpectedEnd => "unexpected end of input"
  | unexpectedCharacter c => "unexpected character " ++ String.singleton c
  | controlCharacter => "control character in a string"
  | badEscape => "invalid escape"
  | loneSurrogate => "lone surrogate in an escape"
  | badNumber => "invalid number"
  | numberOutOfRange => "number out of range"
  | nestingTooDeep => "recursion limit exceeded"
  | trailingCharacters => "trailing characters"

namespace Json

/-- The reading of something from the front of a text: what it is, and the text behind it. -/
abbrev Reading (α : Type) := List Char → Except JsonError (α × List Char)

/-- How deep arrays and objects may be nested. -/
def maxDepth : Nat := 127

/-- The blanks of JSON. -/
def isSpace (c : Char) : Bool := c == ' ' || c == '\n' || c == '\t' || c == '\r'

/-- The text without its leading blanks. -/
def skipSpace (text : List Char) : List Char := text.dropWhile isSpace

/-! ## Strings -/

/-- The number that four hexadecimal digits at the front of a text spell. -/
def hexUnit? : List Char → Option Nat
  | a :: b :: c :: d :: _ => do
    let a ← Text.hexValue? a
    let b ← Text.hexValue? b
    let c ← Text.hexValue? c
    let d ← Text.hexValue? d
    return ((a * 16 + b) * 16 + c) * 16 + d
  | _ => none

/-- The character of an escape by number, the text standing behind `\u`, and how many characters
of it belong to the escape. A character beyond 16 bits is spelt as two halves. -/
def unicodeEscape (text : List Char) : Except JsonError (Char × Nat) :=
  match hexUnit? text with
  | none => .error .badEscape
  | some high =>
    if 0xDC00 ≤ high ∧ high ≤ 0xDFFF then .error .loneSurrogate
    else if 0xD800 ≤ high ∧ high ≤ 0xDBFF then
      match text.drop 4 with
      | '\\' :: 'u' :: more =>
        match hexUnit? more with
        | none => .error .badEscape
        | some low =>
          if 0xDC00 ≤ low ∧ low ≤ 0xDFFF then
            .ok (Char.ofNat (0x10000 + (high - 0xD800) * 0x400 + (low - 0xDC00)), 10)
          else .error .loneSurrogate
      | _ => .error .loneSurrogate
    else .ok (Char.ofNat high, 4)

/-- The character of an escape, given the character behind the backslash and the text behind that,
and how many characters of this text belong to the escape. -/
def escape (c : Char) (rest : List Char) : Except JsonError (Char × Nat) :=
  if c = 'u' then unicodeEscape rest
  else if c = '"' ∨ c = '\\' ∨ c = '/' then .ok (c, 0)
  else if c = 'n' then .ok ('\n', 0)
  else if c = 'r' then .ok ('\r', 0)
  else if c = 't' then .ok ('\t', 0)
  else if c = 'b' then .ok ('\x08', 0)
  else if c = 'f' then .ok ('\x0c', 0)
  else .error .badEscape

/-- The characters of a string, the text standing behind its opening quote. -/
def readString : Reading (List Char)
  | [] => .error .unexpectedEnd
  | c :: rest =>
    if c = '"' then .ok ([], rest)
    else if c = '\\' then
      match rest with
      | [] => .error .unexpectedEnd
      | e :: more =>
        match escape e more with
        | .error err => .error err
        | .ok (decoded, width) =>
          match readString (more.drop width) with
          | .error err => .error err
          | .ok (chars, rest) => .ok (decoded :: chars, rest)
    else if c.toNat < 0x20 then .error .controlCharacter
    else
      match readString rest with
      | .error err => .error err
      | .ok (chars, rest) => .ok (c :: chars, rest)
termination_by text => text.length
decreasing_by all_goals simp_all only [List.length_drop, List.length_cons]; omega

/-! ## Numbers -/

/-- The digits at the front of a text, which have to be there. -/
def readDigits : Reading (List Char) := fun text =>
  let row := text.takeWhile Char.isDigit
  if row.isEmpty then .error .badNumber else .ok (row, text.dropWhile Char.isDigit)

/-- The digits behind a point, if there is one. -/
def readFraction : Reading (Option (List Char))
  | '.' :: rest => do
    let (row, rest) ← readDigits rest
    return (some row, rest)
  | rest => .ok (none, rest)

/-- The exponent, if there is one. -/
def readExponent : Reading (Option Int) := fun text =>
  match text with
  | [] => .ok (none, [])
  | c :: rest =>
    if c = 'e' ∨ c = 'E' then do
      let (negative, rest) := Numeral.readSign rest
      let (row, rest) ← readDigits rest
      let size : Int := Numeral.ofDigits row
      return (some (if negative then -size else size), rest)
    else .ok (none, text)

/-- A double as a number, if it is finite. -/
def real (x : Binary64) : Except JsonError JsonNumber :=
  if finite : x.isFinite = true then .ok (.real x finite) else .error .numberOutOfRange

/-- The number with the given sign, digits before and after the point, and exponent. Without
point and exponent it is an integer if it fits; the negative zero does not. -/
def numberOf (negative : Bool) (whole : List Char) (fraction : Option (List Char))
    (exponent : Option Int) : Except JsonError JsonNumber :=
  match fraction, exponent with
  | none, none =>
    let size := Numeral.ofDigits whole
    let value : Int := if negative then -(size : Int) else size
    if fits : fitsWord value = true ∧ ¬(negative = true ∧ size = 0) then
      .ok (.integer value fits.1)
    else real (Numeral.toBinary64 ⟨negative, size, 0⟩)
  | _, _ =>
    let behind := fraction.getD []
    real (Numeral.toBinary64
      ⟨negative, Numeral.ofDigits (whole ++ behind), exponent.getD 0 - behind.length⟩)

/-- A number behind its sign: digits without a needless zero in front, and an optional fraction
and exponent. -/
def readUnsigned (negative : Bool) : Reading JsonNumber := fun text => do
  let (whole, rest) ← readDigits text
  if whole.head? = some '0' ∧ whole.length ≠ 1 then .error .badNumber
  else
    let (fraction, rest) ← readFraction rest
    let (exponent, rest) ← readExponent rest
    let value ← numberOf negative whole fraction exponent
    return (value, rest)

/-- A number, a minus sign in front of it or not. -/
def readNumber : Reading JsonNumber
  | '-' :: rest => readUnsigned true rest
  | text => readUnsigned false text

/-! ## Values -/

/-- The rest of a word that stands for a value. -/
def readWord (word : List Char) (value : Json) : Reading Json := fun text =>
  if text.take word.length = word then .ok (value, text.drop word.length)
  else .error (if text.length < word.length then .unexpectedEnd
    else .unexpectedCharacter (text.headD ' '))

/-- The items of an array, the text standing where an item has to. Each step uses up a part of
the text, so a number of steps equal to its length is enough. -/
def readItems (readValue : Reading Json) : Nat → Reading (List Json)
  | 0, _ => .error .unexpectedEnd
  | steps + 1, text => do
    let (item, rest) ← readValue text
    match skipSpace rest with
    | [] => .error .unexpectedEnd
    | c :: rest =>
      if c = ',' then do
        let (items, rest) ← readItems readValue steps rest
        return (item :: items, rest)
      else if c = ']' then .ok ([item], rest)
      else .error (.unexpectedCharacter c)

/-- An array, the text standing behind its bracket. -/
def readArray (readValue : Reading Json) : Reading Json := fun text =>
  match skipSpace text with
  | ']' :: rest => .ok (.array [], rest)
  | text => do
    let (items, rest) ← readItems readValue text.length text
    return (.array items, rest)

/-- The key of a member with the colon behind it. -/
def readKey : Reading String := fun text =>
  match skipSpace text with
  | [] => .error .unexpectedEnd
  | c :: rest =>
    if c = '"' then do
      let (key, rest) ← readString rest
      match skipSpace rest with
      | [] => .error .unexpectedEnd
      | c :: rest =>
        if c = ':' then .ok (String.ofList key, rest) else .error (.unexpectedCharacter c)
    else .error (.unexpectedCharacter c)

/-- The members of an object, the text standing where a member has to. -/
def readMembers (readValue : Reading Json) : Nat → Reading (List (String × Json))
  | 0, _ => .error .unexpectedEnd
  | steps + 1, text => do
    let (key, rest) ← readKey text
    let (value, rest) ← readValue rest
    match skipSpace rest with
    | [] => .error .unexpectedEnd
    | c :: rest =>
      if c = ',' then do
        let (members, rest) ← readMembers readValue steps rest
        return ((key, value) :: members, rest)
      else if c = '\x7d' then .ok ([(key, value)], rest)
      else .error (.unexpectedCharacter c)

/-- An object, the text standing behind its brace. -/
def readObject (readValue : Reading Json) : Reading Json := fun text =>
  match skipSpace text with
  | '\x7d' :: rest => .ok (.object [], rest)
  | text => do
    let (members, rest) ← readMembers readValue text.length text
    return (.sorted members, rest)

/-- A value, given how the values inside arrays and objects are read, if they still may be
nested. -/
def readValueWith (inner : Option (Reading Json)) : Reading Json := fun text =>
  match skipSpace text with
  | [] => .error .unexpectedEnd
  | c :: rest =>
    if c = 'n' then readWord ['u', 'l', 'l'] .null rest
    else if c = 't' then readWord ['r', 'u', 'e'] (.bool true) rest
    else if c = 'f' then readWord ['a', 'l', 's', 'e'] (.bool false) rest
    else if c = '"' then do
      let (chars, rest) ← readString rest
      return (.string (String.ofList chars), rest)
    else if c = '-' || c.isDigit then do
      let (value, rest) ← readNumber (c :: rest)
      return (.number value, rest)
    else if c = '[' then
      match inner with
      | some readValue => readArray readValue rest
      | none => .error .nestingTooDeep
    else if c = '\x7b' then
      match inner with
      | some readValue => readObject readValue rest
      | none => .error .nestingTooDeep
    else .error (.unexpectedCharacter c)

/-- A value with arrays and objects nested at most so many levels deep. -/
def readValue : Nat → Reading Json
  | 0 => readValueWith none
  | levels + 1 => readValueWith (some (readValue levels))

/-- A whole text as a value: blanks may stand around it, and nothing else. -/
def ofText (text : List Char) : Except JsonError Json := do
  let (value, rest) ← readValue maxDepth text
  if (skipSpace rest).isEmpty then return value else .error .trailingCharacters

end Json

end RecordFilter
