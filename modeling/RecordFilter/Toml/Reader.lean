import RecordFilter.Toml.Scalar

/-!
# Reading TOML

A document is a list of statements, each on lines of its own: a header opens a table, and an
assignment gives a key of the open table its value. What the statements add up to is the subject
of `RecordFilter.Toml.Document`.

A reader takes something from the front of a text and gives what follows it. Arrays and tables in
braces may be nested so deep and no deeper, and this bound is also what the recursion runs on.
-/

namespace RecordFilter.Toml

/-! ## Blanks and ends of lines -/

/-- A character of comments and strings: no control character except the tab. -/
def isPlain (c : Char) : Bool := c == '\t' || (0x20 ≤ c.toNat && c.toNat != 0x7F)

/-- The text without the blanks in front. -/
def skipBlanks (text : List Char) : List Char :=
  text.dropWhile fun c => c == ' ' || c == '\t'

/-- The text behind the end of a line. -/
def newline? : List Char → Option (List Char)
  | '\n' :: rest => some rest
  | '\r' :: '\n' :: rest => some rest
  | _ => none

/-- The complaint about whatever stands at the front of a text. -/
def unexpected (text : List Char) : TomlError :=
  match text with
  | [] => .unexpectedEnd
  | c :: _ => .unexpectedCharacter c

/-- The text without a comment in front. -/
def skipComment : List Char → List Char
  | '#' :: rest => rest.dropWhile isPlain
  | text => text

/-- Reads the rest of a line, which may hold blanks and a comment. -/
def readLineEnd (text : List Char) : Except TomlError (List Char) :=
  let text := skipComment (skipBlanks text)
  match text with
  | [] => .ok []
  | _ =>
    match newline? text with
    | some rest => .ok rest
    | none => .error (unexpected text)

/-- The text without blanks, comments and ends of lines in front, at most so many of them. -/
def skipLines : Nat → List Char → List Char
  | 0, text => text
  | steps + 1, text =>
    let text := skipComment (skipBlanks text)
    match newline? text with
    | some rest => skipLines steps rest
    | none => text

/-! ## Strings -/

/-- The character with the number that so many hexadecimal digits spell. -/
def numbered (count : Nat) (text : List Char) : Except TomlError (Char × Nat) :=
  let digits := text.take count
  let value? := digits.foldlM (fun n c => (Text.hexValue? c).map (16 * n + ·)) 0
  match value? with
  | some n =>
    if digits.length = count ∧ n.isValidChar then .ok (Char.ofNat n, count) else .error .badEscape
  | none => .error .badEscape

/-- The character of an escape, given the character behind the backslash and the text behind
that, and how many characters of this text belong to the escape. -/
def escape (c : Char) (rest : List Char) : Except TomlError (Char × Nat) :=
  if c = 'u' then numbered 4 rest
  else if c = 'U' then numbered 8 rest
  else if c = '"' ∨ c = '\\' then .ok (c, 0)
  else if c = 'b' then .ok ('\x08', 0)
  else if c = 't' then .ok ('\t', 0)
  else if c = 'n' then .ok ('\n', 0)
  else if c = 'f' then .ok ('\x0c', 0)
  else if c = 'r' then .ok ('\r', 0)
  else .error .badEscape

/-- The characters of a string in double quotes, the text standing behind the opening one. -/
def readBasic : List Char → Except TomlError (List Char × List Char)
  | [] => .error .unexpectedEnd
  | c :: rest =>
    if c = '"' then .ok ([], rest)
    else if c = '\\' then
      match rest with
      | [] => .error .unexpectedEnd
      | e :: more =>
        match escape e more with
        | .error err => .error err
        | .ok (decoded, width) =>
          match readBasic (more.drop width) with
          | .error err => .error err
          | .ok (chars, rest) => .ok (decoded :: chars, rest)
    else if isPlain c then
      match readBasic rest with
      | .error err => .error err
      | .ok (chars, rest) => .ok (c :: chars, rest)
    else .error (.unexpectedCharacter c)
termination_by text => text.length
decreasing_by all_goals simp_all only [List.length_drop, List.length_cons]; omega

/-- The characters of a string in single quotes, the text standing behind the opening one. -/
def readLiteral : List Char → Except TomlError (List Char × List Char)
  | [] => .error .unexpectedEnd
  | c :: rest =>
    if c = '\'' then .ok ([], rest)
    else if isPlain c then
      match readLiteral rest with
      | .error err => .error err
      | .ok (chars, rest) => .ok (c :: chars, rest)
    else .error (.unexpectedCharacter c)

/-- The characters of a string over several lines, which three quotes of a form end; up to two
more may stand in front of these and belong to the string. Without escapes a backslash stands for
itself; with them one at the end of a line joins it to the next text. -/
def readLong (quote : Char) (escapes : Bool) :
    Nat → List Char → Except TomlError (List Char × List Char)
  | 0, _ => .error .unexpectedEnd
  | steps + 1, text =>
    let quotes := text.takeWhile (· == quote)
    if 3 ≤ quotes.length then
      .ok ((quotes.drop 3).take 2, text.drop (min quotes.length 5))
    else
      match newline? text with
      | some rest => do
        let (chars, rest) ← readLong quote escapes steps rest
        return ('\n' :: chars, rest)
      | none =>
        match text with
        | [] => .error .unexpectedEnd
        | c :: rest =>
          if c = '\\' ∧ escapes then
            match newline? (skipBlanks rest) with
            | some more =>
              readLong quote escapes steps
                (more.dropWhile fun c => c == ' ' || c == '\t' || c == '\n' || c == '\r')
            | none =>
              match rest with
              | [] => .error .unexpectedEnd
              | e :: more => do
                let (decoded, width) ← escape e more
                let (chars, rest) ← readLong quote escapes steps (more.drop width)
                return (decoded :: chars, rest)
          else if isPlain c then do
            let (chars, rest) ← readLong quote escapes steps rest
            return (c :: chars, rest)
          else .error (.unexpectedCharacter c)

/-- A string over several lines, the text standing behind its three quotes. An end of line right
behind these does not belong to it. -/
def readLongString (quote : Char) (escapes : Bool) (text : List Char) :
    Except TomlError (List Char × List Char) :=
  let text := (newline? text).getD text
  readLong quote escapes (text.length + 1) text

/-! ## Keys -/

/-- A character of keys without quotes. -/
def isBare (c : Char) : Bool := c.isAlphanum || c == '_' || c == '-'

/-- One part of a key, with or without quotes. -/
def readKeyPart (text : List Char) : Except TomlError (String × List Char) :=
  match text with
  | '"' :: rest => do
    let (chars, rest) ← readBasic rest
    return (String.ofList chars, rest)
  | '\'' :: rest => do
    let (chars, rest) ← readLiteral rest
    return (String.ofList chars, rest)
  | _ =>
    let chars := text.takeWhile isBare
    if chars.isEmpty then .error (unexpected text)
    else .ok (String.ofList chars, text.dropWhile isBare)

/-- A key: its last part and the parts before it. -/
structure Key where
  path : List String
  last : String
deriving DecidableEq, Repr

/-- A key, with the blanks around it. Its parts have dots between them, and may not be too
many. -/
def readKey : Nat → List Char → Except TomlError (Key × List Char)
  | 0, _ => .error .nestingTooDeep
  | parts + 1, text => do
    let (part, rest) ← readKeyPart (skipBlanks text)
    match skipBlanks rest with
    | '.' :: rest =>
      let (key, rest) ← readKey parts rest
      return (⟨part :: key.path, key.last⟩, rest)
    | rest => return (⟨[], part⟩, rest)

/-! ## Tables in braces -/

/-- Adds a key to a table. The tables on the way to it are created, or were created so. -/
def addKey (key : String) (value : Toml) :
    List String → List (String × Toml) → Except TomlError (List (String × Toml))
  | [], entries =>
    match Keyed.find? key entries with
    | none => .ok (Keyed.insert key value entries)
    | some _ => .error (.duplicateKey key)
  | part :: path, entries =>
    match Keyed.find? part entries with
    | none => do
      let inner ← addKey key value path []
      return Keyed.insert part (.table .dotted inner) entries
    | some (.table .dotted inner) => do
      let inner ← addKey key value path inner
      return Keyed.insert part (.table .dotted inner) entries
    | some (.table .implied inner) =>
      if path.isEmpty then .error (.duplicateKey part)
      else do
        let inner ← addKey key value path inner
        return Keyed.insert part (.table .implied inner) entries
    | some (.tables (latest :: items)) =>
      if path.isEmpty then .error (.duplicateKey part)
      else do
        let latest ← addKey key value path latest
        return Keyed.insert part (.tables (latest :: items)) entries
    | some _ => .error (.duplicateKey part)

/-- A key with its value. -/
structure Assignment where
  key : Key
  value : Toml
deriving Repr

/-- Adds assignments to a table, one after the other. -/
def addAssignments (assignments : List Assignment) (entries : List (String × Toml)) :
    Except TomlError (List (String × Toml)) :=
  assignments.foldlM (fun entries a => addKey a.key.last a.value a.key.path entries) entries

/-! ## Values -/

/-- An assignment, given how its value is read. -/
def readAssignment (readValue : List Char → Except TomlError (Toml × List Char))
    (text : List Char) : Except TomlError (Assignment × List Char) := do
  let (key, rest) ← readKey maxDepth text
  match rest with
  | '=' :: rest =>
    let (value, rest) ← readValue (skipBlanks rest)
    return (⟨key, value⟩, rest)
  | _ => .error (unexpected rest)

/-- The items of an array, the text standing behind its bracket or behind a comma. -/
def readItems (readValue : List Char → Except TomlError (Toml × List Char)) :
    Nat → List Char → Except TomlError (List Toml × List Char)
  | 0, _ => .error .unexpectedEnd
  | steps + 1, text => do
    match skipLines text.length text with
    | ']' :: rest => return ([], rest)
    | text =>
      let (item, rest) ← readValue text
      match skipLines rest.length rest with
      | ',' :: rest =>
        let (items, rest) ← readItems readValue steps rest
        return (item :: items, rest)
      | ']' :: rest => return ([item], rest)
      | rest => .error (unexpected rest)

/-- The assignments of a table in braces, the text standing where one has to. -/
def readAssignments (readValue : List Char → Except TomlError (Toml × List Char)) :
    Nat → List Char → Except TomlError (List Assignment × List Char)
  | 0, _ => .error .unexpectedEnd
  | steps + 1, text => do
    let (assignment, rest) ← readAssignment readValue text
    match skipBlanks rest with
    | ',' :: rest =>
      let (assignments, rest) ← readAssignments readValue steps rest
      return (assignment :: assignments, rest)
    | '\x7d' :: rest => return ([assignment], rest)
    | rest => .error (unexpected rest)

/-- A table in braces, the text standing behind the opening one. -/
def readInline (readValue : List Char → Except TomlError (Toml × List Char))
    (text : List Char) : Except TomlError (Toml × List Char) := do
  match skipBlanks text with
  | '\x7d' :: rest => return (.table .inline [], rest)
  | text =>
    let (assignments, rest) ← readAssignments readValue text.length text
    let entries ← addAssignments assignments []
    return (.table .inline entries, rest)

/-- A value, given how the values inside arrays and tables are read, if they still may be
nested. -/
def readValueWith (inner : Option (List Char → Except TomlError (Toml × List Char)))
    (text : List Char) : Except TomlError (Toml × List Char) :=
  match text with
  | '"' :: '"' :: '"' :: rest => do
    let (chars, rest) ← readLongString '"' true rest
    return (.string (String.ofList chars), rest)
  | '\'' :: '\'' :: '\'' :: rest => do
    let (chars, rest) ← readLongString '\'' false rest
    return (.string (String.ofList chars), rest)
  | '"' :: rest => do
    let (chars, rest) ← readBasic rest
    return (.string (String.ofList chars), rest)
  | '\'' :: rest => do
    let (chars, rest) ← readLiteral rest
    return (.string (String.ofList chars), rest)
  | '[' :: rest =>
    match inner with
    | some readValue => do
      let (items, rest) ← readItems readValue (rest.length + 1) rest
      return (.array items, rest)
    | none => .error .nestingTooDeep
  | '\x7b' :: rest =>
    match inner with
    | some readValue => readInline readValue rest
    | none => .error .nestingTooDeep
  | _ =>
    let (word, rest) := splitWord text
    if word.isEmpty then .error (unexpected text)
    else
      match word? word with
      | some value => .ok (value, rest)
      | none => .error (.badValue (String.ofList word))

/-- A value with arrays and tables nested at most so many levels deep. -/
def readValue : Nat → List Char → Except TomlError (Toml × List Char)
  | 0 => readValueWith none
  | levels + 1 => readValueWith (some (readValue levels))

/-! ## Statements -/

/-- A statement of a document. -/
inductive Statement where
  /-- A header of a table, or one of several tables under the same key. -/
  | header (key : Key) (several : Bool)
  /-- A key with its value. -/
  | assignment (a : Assignment)
deriving Repr

/-- A header with one bracket or two on each side, the text standing behind the opening ones. -/
def readHeader (several : Bool) (text : List Char) : Except TomlError (Statement × List Char) := do
  let (key, rest) ← readKey maxDepth text
  match several, rest with
  | false, ']' :: rest => return (.header key false, rest)
  | true, ']' :: ']' :: rest => return (.header key true, rest)
  | _, _ => .error (unexpected rest)

/-- A statement, the text standing at its first character. -/
def readStatement (text : List Char) : Except TomlError (Statement × List Char) :=
  match text with
  | '[' :: '[' :: rest => readHeader true rest
  | '[' :: rest => readHeader false rest
  | _ => do
    let (a, rest) ← readAssignment (readValue maxDepth) text
    return (.assignment a, rest)

/-- The statements of a text. -/
def readStatements : Nat → List Char → Except TomlError (List Statement)
  | 0, text => if text.isEmpty then .ok [] else .error (unexpected text)
  | steps + 1, text => do
    match skipComment (skipBlanks text) with
    | [] => return []
    | c :: rest =>
      if c = '\n' ∨ c = '\r' then
        match newline? (c :: rest) with
        | some rest => readStatements steps rest
        | none => .error (.unexpectedCharacter c)
      else
        let (statement, rest) ← readStatement (c :: rest)
        let rest ← readLineEnd rest
        let statements ← readStatements steps rest
        return statement :: statements

end RecordFilter.Toml
