import RecordFilter.Number.Numeral
import RecordFilter.Pattern.Error
import RecordFilter.Pattern.Term
import RecordFilter.Text.Blank

/-!
# Reading patterns

A pattern is read from left to right. Groups may stand inside each other to any depth, so the
groups that are open are kept on a stack, each with what was read of it before the next one
opened; the brackets of a class are read the same way. Every step uses up a part of the text, so
as many steps as the text has characters are enough.
-/

namespace RecordFilter.Pattern.Reader

/-! ## Steps -/

/-- A step takes characters from the front of the text that is left, or fails. -/
abbrev Read : Type → Type := StateT (List Char) (Except PatternError)

/-- The text without the blanks and comments in front, given whether a comment has begun. -/
def skipComments : Bool → List Char → List Char
  | _, [] => []
  | true, c :: rest => skipComments (c != '\n') rest
  | false, c :: rest =>
    if Text.isBlank c then skipComments false rest
    else if c = '#' then skipComments true rest
    else c :: rest

/-- The text without the blanks and comments in front, where these do not count. -/
def skip (spaced : Bool) (text : List Char) : List Char :=
  if spaced then skipComments false text else text

/-- The next character, which stays. -/
def next? : Read (Option Char) := return (← get).head?

/-- Takes the next character. -/
def take : Read Unit := modify fun text => text.drop 1

/-- Takes the next character, and passes over what does not count behind it. -/
def advance (spaced : Bool) : Read Unit := modify fun text => skip spaced (text.drop 1)

/-- Takes the characters of a kind, at most so many. -/
def takeAll (spaced : Bool) (kind : Char → Bool) : Nat → Read (List Char)
  | 0 => return []
  | steps + 1 => do
    match ← next? with
    | some c =>
      if kind c then
        advance spaced
        return c :: (← takeAll spaced kind steps)
      else return []
    | none => return []

/-- Takes what stands between braces, the text standing at the opening one, and the closing one
with it. -/
def takeBraced (spaced : Bool) : Nat → Read (List Char)
  | 0 => throw .escapeUnfinished
  | steps + 1 => do
    advance spaced
    match ← next? with
    | none => throw .escapeUnfinished
    | some c =>
      if c = '\x7d' then
        take
        return []
      else return c :: (← takeBraced spaced steps)

/-- How many characters are left. -/
def left : Read Nat := return (← get).length

/-! ## Escapes -/

/-- What a backslash with what follows it stands for. -/
inductive Escape where
  | literal (l : Literal)
  | anchor (a : Anchor)
  | charClass (c : ClassTerm)

/-- The number that hexadecimal digits spell. -/
def hexNumber? (digits : List Char) : Option Nat :=
  digits.foldlM (fun n c => (Text.hexValue? c).map (16 * n + ·)) 0

/-- The character with a number, which is no surrogate and not too great. -/
def character? (n : Nat) : Option Char :=
  if n.isValidChar then some (Char.ofNat n) else none

/-- Takes digits until there are enough of them. -/
def takeDigits (spaced : Bool) : Nat → Read (List Char)
  | 0 => return []
  | count + 1 => do
    match ← next? with
    | none => throw .escapeUnfinished
    | some c =>
      advance spaced
      return c :: (← takeDigits spaced count)

/-- A character by its number, the text standing behind the letter that says how many digits
follow: two, four or eight of them, or any number in braces. -/
def readNumbered (spaced : Bool) (letter : Char) : Read Literal := do
  modify (skip spaced)
  let count := if letter = 'x' then 2 else if letter = 'u' then 4 else 8
  let braced := (← next?) == some '\x7b'
  let digits ← if braced then takeBraced spaced (← left) else takeDigits spaced count
  if digits.isEmpty then throw .characterNumber
  match (hexNumber? digits).bind character? with
  | some c => return ⟨c, letter == 'x' && !braced⟩
  | none => throw .characterNumber

/-- The parts of a property's description around the first place where a sign stands. -/
def splitAt? (sign : List Char) : List Char → Option (List Char × List Char)
  | [] => none
  | c :: rest =>
    if sign.isPrefixOf (c :: rest) then some ([], (c :: rest).drop sign.length)
    else (splitAt? sign rest).map fun parts => (c :: parts.1, parts.2)

/-- The characters with a property, given by its name alone. -/
def setNamed? (name : List Char) : Option Text.CharSet :=
  let plain := Text.plainName name
  (Text.property? plain <|> Text.category? plain) <|> Text.script? plain

/-- The characters with a given value of a property. -/
def setValued? (property value : List Char) : Option Text.CharSet :=
  let plain := Text.plainName property
  if Text.isNamed plain ["gc", "General_Category"] then Text.category? (Text.plainName value)
  else if Text.isNamed plain ["sc", "Script"] then Text.script? (Text.plainName value)
  else none

/-- The characters that a description of a property stands for, and whether it is negated: a
name, or a property and its value with `:`, `=` or `!=` between them. -/
def described? (text : List Char) : Option (Text.CharSet × Bool) :=
  match splitAt? ['!', '='] text with
  | some (property, value) => (setValued? property value).map (·, true)
  | none =>
    match splitAt? [':'] text <|> splitAt? ['='] text with
    | some (property, value) => (setValued? property value).map (·, false)
    | none => (setNamed? text).map (·, false)

/-- A property, the text standing behind the letter that asks for one. -/
def readProperty (spaced negated : Bool) : Read ClassTerm := do
  modify (skip spaced)
  let description ←
    match ← next? with
    | none => throw .escapeUnfinished
    | some c =>
      if c = '\x7b' then takeBraced spaced (← left)
      else
        take
        pure [c]
  match described? description with
  | some (set, not) => return .property set (negated != not)
  | none => throw .property

/-- The boundary that a name between braces stands for. -/
def edgeNamed? (name : List Char) : Option Anchor :=
  match String.ofList name with
  | "start" => some .wordStart
  | "end" => some .wordEnd
  | "start-half" => some .noWordBefore
  | "end-half" => some .noWordAfter
  | _ => none

/-- The kind of a word boundary, the text standing behind its letter. Braces with a name belong
to it; other braces are a repetition. -/
def readEdge (spaced : Bool) : Read Anchor := do
  match ← get with
  | '\x7b' :: rest =>
    let isLetter (c : Char) : Bool := c.isAlpha || c == '-'
    match skip spaced rest with
    | [] => throw .wordBoundary
    | c :: more =>
      if isLetter c then
        set (c :: more)
        let name ← takeAll spaced isLetter (← left)
        match ← next?, edgeNamed? name with
        | some '\x7d', some edge =>
          take
          return edge
        | _, _ => throw .wordBoundary
      else return .wordEdge
  | _ => return .wordEdge

/-- The characters that mean something in a pattern, and themselves behind a backslash. -/
def metaCharacters : List Char := "\\.+*?()|[]\x7b\x7d^$#&-~".toList

/-- Whether a character may stand for itself behind a backslash. -/
def isEscapable (c : Char) : Bool :=
  metaCharacters.contains c || (c.toNat < 0x80 && !c.isAlphanum && c != '<' && c != '>')

/-- What a letter behind a backslash stands for, if it is a single character. -/
def controlCharacter? : Char → Option Char
  | 'a' => some '\x07'
  | 'f' => some '\x0c'
  | 't' => some '\t'
  | 'n' => some '\n'
  | 'r' => some '\r'
  | 'v' => some '\x0b'
  | _ => none

/-- What a letter behind a backslash stands for, if it is a class. -/
def shorthand? : Char → Option ClassTerm
  | 'd' => some (.shorthand .digit false)
  | 's' => some (.shorthand .blank false)
  | 'w' => some (.shorthand .word false)
  | 'D' => some (.shorthand .digit true)
  | 'S' => some (.shorthand .blank true)
  | 'W' => some (.shorthand .word true)
  | _ => none

/-- What a character behind a backslash stands for, if it is a condition of its own. -/
def anchor? : Char → Option Anchor
  | 'A' => some .textStart
  | 'z' => some .textEnd
  | 'B' => some .noWordEdge
  | '<' => some .wordStart
  | '>' => some .wordEnd
  | _ => none

/-- An escape, the text standing behind the backslash. -/
def readEscape (spaced : Bool) : Read Escape := do
  match ← next? with
  | none => throw .escapeUnfinished
  | some c =>
    take
    if c.isDigit then throw .backReference
    else if c = 'x' ∨ c = 'u' ∨ c = 'U' then return .literal (← readNumbered spaced c)
    else if c = 'p' ∨ c = 'P' then return .charClass (← readProperty spaced (c == 'P'))
    else if c = 'b' then return .anchor (← readEdge spaced)
    else if isEscapable c then return .literal ⟨c, false⟩
    else
      match controlCharacter? c, shorthand? c, anchor? c with
      | some control, _, _ => return .literal ⟨control, false⟩
      | none, some letterClass, _ => return .charClass letterClass
      | none, none, some a => return .anchor a
      | none, none, none => throw .escapeUnknown

/-! ## Classes -/

/-- The classes of ASCII characters with a name. -/
def asciiClasses : List (String × String) := [
  ("alnum", "30-39 41-5a 61-7a"), ("alpha", "41-5a 61-7a"), ("ascii", "0-7f"),
  ("blank", "9 20"), ("cntrl", "0-1f 7f"), ("digit", "30-39"), ("graph", "21-7e"),
  ("lower", "61-7a"), ("print", "20-7e"), ("punct", "21-2f 3a-40 5b-60 7b-7e"),
  ("space", "9-d 20"), ("upper", "41-5a"), ("word", "30-39 41-5a 5f 61-7a"),
  ("xdigit", "30-39 41-46 61-66")]

/-- A class by name, the text standing behind its bracket; it may be that none stands there. -/
def asciiClass? (text : List Char) : Option (ClassTerm × List Char) :=
  match text with
  | ':' :: rest =>
    let (negated, rest) :=
      match rest with
      | '^' :: more => (true, more)
      | _ => (false, rest)
    let name := rest.takeWhile (· != ':')
    match rest.dropWhile (· != ':') with
    | ':' :: ']' :: rest =>
      (asciiClasses.lookup (String.ofList name)).map fun row =>
        (.ascii (Text.CodeRange.ofRow row) negated, rest)
    | _ => none
  | _ => none

/-- What has been read of a class whose bracket is open. -/
structure OpenClass where
  /-- Whether it stands for the characters outside. -/
  negated : Bool
  /-- The class to the left of an operation, and the operation. -/
  pending : Option (ClassTerm × ClassOperation)
  /-- The parts read since, the latest first. -/
  parts : List ClassTerm

namespace OpenClass

/-- Adds a part. -/
def add (c : OpenClass) (part : ClassTerm) : OpenClass := { c with parts := part :: c.parts }

/-- Several parts as one class, the latest given first. -/
def joined (parts : List ClassTerm) : ClassTerm :=
  match parts with
  | [] => .nothing
  | [part] => part
  | _ => .union parts.reverse

/-- All that has been read. Operations are done from left to right. -/
def value (c : OpenClass) : ClassTerm :=
  match c.pending with
  | none => joined c.parts
  | some (left, kind) => .operation kind left (joined c.parts)

/-- All that has been read as the left side of an operation. -/
def operate (c : OpenClass) (kind : ClassOperation) : OpenClass :=
  { c with pending := some (c.value, kind), parts := [] }

end OpenClass

/-- Takes the dashes at the beginning of a class, which stand for themselves. -/
def readDashes (spaced : Bool) : Nat → OpenClass → Read OpenClass
  | 0, c => return c
  | steps + 1, c => do
    if (← next?) == some '-' then
      advance spaced
      readDashes spaced steps (c.add (.literal ⟨'-', false⟩))
    else return c

/-- Opens a class, the text standing at its bracket. A bracket that comes first in it stands for
itself. -/
def openClass (spaced : Bool) : Read OpenClass := do
  advance spaced
  let negated := (← next?) == some '^'
  if negated then advance spaced
  let c ← readDashes spaced (← left) ⟨negated, none, []⟩
  if c.parts.isEmpty ∧ (← next?) = some ']' then
    advance spaced
    return c.add (.literal ⟨']', false⟩)
  else return c

/-- A character or an escape inside a class. -/
def readClassEscape (spaced : Bool) : Read Escape := do
  match ← next? with
  | none => throw .classUnclosed
  | some c =>
    take
    if c = '\\' then readEscape spaced else return .literal ⟨c, false⟩

/-- What follows a dash, as far as it decides whether the dash makes a range. Behind blanks that
do not count, the mark of a comment is passed over, but the comment is not. -/
def behindDash (spaced : Bool) (rest : List Char) : Option Char :=
  if spaced then
    match rest.dropWhile Text.isBlank with
    | '#' :: comment => (comment.dropWhile Text.isBlank).head?
    | text => text.head?
  else rest.head?

/-- An escape as a part of a class. -/
def Escape.toClass : Escape → Except PatternError ClassTerm
  | literal l => .ok (.literal l)
  | charClass c => .ok c
  | anchor _ => .error .classMember

/-- A character, a range or a class without brackets, inside a class. -/
def readClassPart (spaced : Bool) : Read ClassTerm := do
  let first ← readClassEscape spaced
  modify (skip spaced)
  match ← get with
  | [] => throw .classUnclosed
  | c :: rest =>
    let behind := behindDash spaced rest
    if c ≠ '-' ∨ behind = some ']' ∨ behind = some '-' then first.toClass
    else
      advance spaced
      match first, ← readClassEscape spaced with
      | .literal first, .literal last =>
        if first.char ≤ last.char then return .range first last else throw .classRange
      | _, _ => throw .classRange

/-- The rest of a class in brackets, given the ones around it, the innermost first. -/
def readClassRest (spaced : Bool) : Nat → OpenClass → List OpenClass → Read ClassTerm
  | 0, _, _ => throw .classUnclosed
  | steps + 1, c, outer => do
    modify (skip spaced)
    match ← get with
    | [] => throw .classUnclosed
    | '[' :: rest =>
      match asciiClass? rest with
      | some (part, rest) =>
        set rest
        readClassRest spaced steps (c.add part) outer
      | none => readClassRest spaced steps (← openClass spaced) (c :: outer)
    | ']' :: rest =>
      set rest
      let whole := ClassTerm.bracket c.value c.negated
      match outer with
      | [] => return whole
      | parent :: outer => readClassRest spaced steps (parent.add whole) outer
    | '&' :: '&' :: rest =>
      set rest
      readClassRest spaced steps (c.operate .inter) outer
    | '-' :: '-' :: rest =>
      set rest
      readClassRest spaced steps (c.operate .diff) outer
    | '~' :: '~' :: rest =>
      set rest
      readClassRest spaced steps (c.operate .symmDiff) outer
    | _ => readClassRest spaced steps (c.add (← readClassPart spaced)) outer

/-- A class in brackets, the text standing at its bracket. -/
def readClass (spaced : Bool) : Read ClassTerm := do
  let c ← openClass spaced
  readClassRest spaced ((← left) + 1) c []

/-! ## Repetitions -/

/-- A number in a repetition, blanks around it passed over. -/
def readCount (spaced : Bool) : Read Nat := do
  modify (List.dropWhile Text.isBlank)
  let digits ← takeAll spaced Char.isDigit (← left)
  modify (List.dropWhile Text.isBlank)
  let n := Numeral.ofDigits digits
  if digits.isEmpty ∨ twoTo 32 ≤ n then throw .repetitionCount
  return n

/-- Takes a question mark, which makes a repetition lazy. Whether a text is matched at all does
not depend on it. -/
def takeLazy : Read Unit := do
  if (← next?) = some '?' then take

/-- The counts of a repetition in braces, the text standing at the opening one. -/
def readCounts (spaced : Bool) : Read (Nat × Option Nat) := do
  advance spaced
  let least ← readCount spaced
  let most ←
    if (← next?) = some ',' then
      advance spaced
      if (← next?) = some '\x7d' then pure none else some <$> readCount spaced
    else pure (some least)
  if (← next?) ≠ some '\x7d' then throw .repetitionCount
  advance spaced
  takeLazy
  match most with
  | some most => if most < least then throw .repetitionCount else return (least, some most)
  | none => return (least, none)

/-! ## Groups -/

/-- The modes in front of a group or in place of one, the text standing behind the question mark,
and the character that ends them. A minus sign switches the modes behind it off. -/
def readModes (change : ModeChange) (minus dangling : Bool) :
    List Char → Except PatternError (ModeChange × Char × List Char)
  | [] => .error .groupUnclosed
  | c :: rest =>
    if c = ':' ∨ c = ')' then
      if dangling then .error .modes else .ok (change, c, rest)
    else if c = '-' then
      if minus then .error .modes else readModes change true true rest
    else
      match Mode.ofChar? c with
      | none => .error .modes
      | some mode =>
        if change.on.contains mode ∨ change.off.contains mode then .error .modes
        else if minus then readModes { change with off := mode :: change.off } true false rest
        else readModes { change with on := mode :: change.on } false false rest

/-- Whether a text can be the name of a group. -/
def isGroupName : List Char → Bool
  | [] => false
  | c :: rest =>
    (c == '_' || Text.alphabetic.mem c) && rest.all fun c =>
      ['_', '.', '[', ']'].contains c || Text.alphabetic.mem c || Text.numeric.mem c

/-- What stands behind the parenthesis that opens a group. -/
inductive Opening where
  /-- A group, with the modes it changes. -/
  | group (change : ModeChange)
  /-- A group with a name. -/
  | named (name : List Char)
  /-- Modes for the rest of the group around. -/
  | modes (change : ModeChange)

/-- The name of a group, the text standing behind the angle bracket that opens it. -/
def readGroupName : Read Opening := do
  let text ← get
  let name := text.takeWhile (· != '>')
  match text.dropWhile (· != '>') with
  | [] => throw .groupName
  | _ :: rest =>
    if isGroupName name then
      set rest
      return .named name
    else throw .groupName

/-- What stands behind a parenthesis, the text standing there. -/
def readOpening (spaced : Bool) : Read Opening := do
  modify (skip spaced)
  match ← get with
  | '?' :: '=' :: _ | '?' :: '!' :: _ | '?' :: '<' :: '=' :: _ | '?' :: '<' :: '!' :: _ =>
    throw .lookAround
  | '?' :: 'P' :: '<' :: rest =>
    set rest
    readGroupName
  | '?' :: '<' :: rest =>
    set rest
    readGroupName
  | '?' :: rest =>
    let (change, ending, rest) ← readModes .none false false rest
    set rest
    if ending = ':' then return .group change
    else if change = .none then throw .repetitionMissing
    else return .modes change
  | _ => return .group .none

/-! ## Patterns -/

/-- Terms in a row as one term, the latest given first. -/
def sequenceOf (terms : List Term) : Term :=
  match terms with
  | [] => .empty
  | [term] => term
  | _ => .sequence terms.reverse

/-- Alternatives as one term, the latest given first. -/
def alternativesOf (terms : List Term) : Term :=
  match terms with
  | [term] => term
  | _ => .alternatives terms.reverse

/-- What has been read of a group that is open, or of the whole pattern. -/
structure OpenGroup where
  /-- The modes that the group changes. -/
  change : ModeChange
  /-- Whether blanks and comments do not count at this place. -/
  spaced : Bool
  /-- The alternatives in front of the present one, the latest first. -/
  alternatives : List Term
  /-- The terms of the present alternative, the latest first. -/
  terms : List Term

namespace OpenGroup

/-- A group that has just been opened. -/
def start (change : ModeChange) (spaced : Bool) : OpenGroup :=
  ⟨change, change.apply .spaced spaced, [], []⟩

/-- Adds a term to the present alternative. -/
def add (g : OpenGroup) (term : Term) : OpenGroup := { g with terms := term :: g.terms }

/-- Begins the next alternative. -/
def bar (g : OpenGroup) : OpenGroup :=
  { g with alternatives := sequenceOf g.terms :: g.alternatives, terms := [] }

/-- All that has been read. -/
def value (g : OpenGroup) : Term := alternativesOf (sequenceOf g.terms :: g.alternatives)

/-- Changes modes for the rest of the group. -/
def addModes (g : OpenGroup) (change : ModeChange) : OpenGroup :=
  { g.add (.modes change) with spaced := change.apply .spaced g.spaced }

/-- Repeats the latest term, if there is one and it is a term that can be repeated. -/
def repeatLast (g : OpenGroup) (least : Nat) (most : Option Nat) :
    Except PatternError OpenGroup :=
  match g.terms with
  | [] | .modes _ :: _ => .error .repetitionMissing
  | term :: terms => .ok { g with terms := .repetition term least most :: terms }

end OpenGroup

/-- What has been read of a pattern: the innermost open group, those around it, and the names of
groups so far. -/
structure Progress where
  here : OpenGroup
  outer : List OpenGroup
  names : List (List Char)

namespace Progress

/-- Adds a term. -/
def add (p : Progress) (term : Term) : Progress := { p with here := p.here.add term }

/-- Opens a group. -/
def descend (p : Progress) (change : ModeChange) : Progress :=
  { p with here := .start change p.here.spaced, outer := p.here :: p.outer }

/-- Opens a group or changes modes. -/
def enter (p : Progress) : Opening → Except PatternError Progress
  | .modes change => .ok { p with here := p.here.addModes change }
  | .group change => .ok (p.descend change)
  | .named name =>
    if p.names.contains name then .error .groupName
    else .ok { p.descend .none with names := name :: p.names }

/-- Closes the innermost group. -/
def close (p : Progress) : Except PatternError Progress :=
  match p.outer with
  | [] => .error .groupUnopened
  | parent :: outer =>
    .ok { p with here := parent.add (.group p.here.change p.here.value), outer := outer }

/-- Repeats the latest term. -/
def repeatLast (p : Progress) (least : Nat) (most : Option Nat) : Except PatternError Progress :=
  (p.here.repeatLast least most).map fun here => { p with here := here }

end Progress

/-- An escape as a term. -/
def Escape.toTerm : Escape → Term
  | literal l => .literal l
  | anchor a => .anchor a
  | charClass c => .charClass c

/-- Reads on by one construct, which begins with the given character. -/
def readConstruct (p : Progress) (c : Char) : Read Progress := do
  let spaced := p.here.spaced
  if c = '[' then return p.add (.charClass (← readClass spaced))
  else if c = '\x7b' then
    let (least, most) ← readCounts spaced
    p.repeatLast least most
  else
    take
    if c = '(' then p.enter (← readOpening spaced)
    else if c = ')' then p.close
    else if c = '|' then return { p with here := p.here.bar }
    else if c = '?' ∨ c = '*' ∨ c = '+' then
      takeLazy
      p.repeatLast (if c = '+' then 1 else 0) (if c = '?' then some 1 else none)
    else if c = '\\' then return p.add (← readEscape spaced).toTerm
    else if c = '.' then return p.add .dot
    else if c = '^' then return p.add (.anchor .lineStart)
    else if c = '$' then return p.add (.anchor .lineEnd)
    else return p.add (.literal ⟨c, false⟩)

/-- Reads on to the end of the text. -/
def readAll : Nat → Progress → Read Progress
  | 0, p => return p
  | steps + 1, p => do
    modify (skip p.here.spaced)
    match ← next? with
    | none => return p
    | some c => readAll steps (← readConstruct p c)

end Reader

/-- Reads a text as a term. -/
def Term.ofText (text : List Char) : Except PatternError Term := do
  let (p, _) ← (Reader.readAll text.length ⟨.start .none false, [], []⟩).run text
  if p.outer.isEmpty then
    let term := p.here.value
    if maxDepth < term.depth then .error .nestingTooDeep else .ok term
  else .error .groupUnclosed

end RecordFilter.Pattern
