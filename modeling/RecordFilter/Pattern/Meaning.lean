import RecordFilter.Pattern
import RecordFilter.Pattern.Error
import RecordFilter.Pattern.Term

/-!
# What patterns mean

A term means a pattern under the modes at its place. Modes that a term changes hold from there to
the end of the group around it, in the alternatives that follow as well. Under the mode `u`, which
is on at the beginning, a pattern speaks of characters. Without it, classes speak of bytes, and
whatever could stand for a part of a character is refused, since texts consist of whole ones.
-/

namespace RecordFilter.Pattern

open Text (CharSet CodeRange)

/-- The modes at a place, as far as the meaning depends on them. -/
structure Modes where
  ignoreCase : Bool
  multiLine : Bool
  dotAll : Bool
  carriageReturn : Bool
  unicode : Bool
deriving DecidableEq, Repr

namespace Modes

/-- The modes at the beginning. -/
def start : Modes := ⟨false, false, false, false, true⟩

/-- The modes after a change. -/
def change (modes : Modes) (c : ModeChange) : Modes where
  ignoreCase := c.apply .ignoreCase modes.ignoreCase
  multiLine := c.apply .multiLine modes.multiLine
  dotAll := c.apply .dotAll modes.dotAll
  carriageReturn := c.apply .carriageReturn modes.carriageReturn
  unicode := c.apply .unicode modes.unicode

/-- Which letters count as differing in case only. -/
def casing (modes : Modes) : Text.Casing := if modes.unicode then .full else .ascii

/-- A set with the characters that differ in case only, if case does not count. -/
def fold (modes : Modes) (set : CharSet) : CharSet :=
  if modes.ignoreCase then .folded modes.casing set else set

end Modes

/-! ## Classes -/

/-- The bytes that are no characters of ASCII. -/
def upperBytes : List Char := (List.range 128).map fun n => Char.ofNat (128 + n)

/-- A set of bytes, unless one of them is only a part of a character. -/
def wholeCharacters (modes : Modes) (set : CharSet) : Except PatternError CharSet :=
  if !modes.unicode && upperBytes.any fun c => set.mem c then .error .partOfCharacter
  else .ok set

/-- A set or the characters outside it. -/
def signed (negated : Bool) (set : CharSet) : CharSet := if negated then .compl set else set

/-- The characters of a class written with one letter. -/
def shorthandSet (unicode : Bool) : Shorthand → CharSet
  | .digit => if unicode then Text.decimalDigit else .ranges (CodeRange.ofRow "30-39")
  | .blank => if unicode then Text.propertySet "White_Space" else .ranges (CodeRange.ofRow "9-d 20")
  | .word => if unicode then Text.wordChar else .ranges (CodeRange.ofRow "30-39 41-5a 5f 61-7a")

/-- A character that stands for itself in a class. -/
def classLiteral (modes : Modes) (l : Literal) : Except PatternError Char :=
  if modes.unicode || l.char.toNat < 0x80 then .ok l.char
  else .error (if l.byte then .partOfCharacter else .notUnicode)

/-- An operation on two sets. -/
def ClassOperation.apply : ClassOperation → CharSet → CharSet → CharSet
  | inter, a, b => .inter a b
  | diff, a, b => .diff a b
  | symmDiff, a, b => .symmDiff a b

mutual

/-- The characters that a class stands for. Where case does not count, the characters that differ
in case only are added before a class is negated and before an operation is done. -/
def ClassTerm.meaning (modes : Modes) : ClassTerm → Except PatternError CharSet
  | .nothing => .ok .none
  | .literal l => return .single (← classLiteral modes l)
  | .range first last => do
    let first ← classLiteral modes first
    let last ← classLiteral modes last
    return .ranges [⟨first.toNat, last.toNat⟩]
  | .ascii set negated => wholeCharacters modes (signed negated (modes.fold (.ranges set)))
  | .shorthand kind negated =>
    wholeCharacters modes (signed negated (shorthandSet modes.unicode kind))
  | .property set negated =>
    if modes.unicode then .ok (signed negated (modes.fold set)) else .error .notUnicode
  | .bracket inner negated => do
    let set ← inner.meaning modes
    wholeCharacters modes (signed negated (modes.fold set))
  | .union parts => ClassTerm.meanings modes parts
  | .operation kind left right => do
    let left ← left.meaning modes
    let right ← right.meaning modes
    return kind.apply (modes.fold left) (modes.fold right)

/-- The characters that one of several classes stands for. -/
def ClassTerm.meanings (modes : Modes) : List ClassTerm → Except PatternError CharSet
  | [] => .ok .none
  | part :: parts => do
    let set ← part.meaning modes
    let sets ← ClassTerm.meanings modes parts
    return .union set sets

end

/-! ## Terms -/

/-- A character that stands for itself. -/
def literalMeaning (modes : Modes) (l : Literal) : Except PatternError Pattern :=
  if modes.unicode || l.char.toNat < 0x80 then .ok (.one (modes.fold (.single l.char)))
  else if l.byte then .error .partOfCharacter
  else if modes.ignoreCase then .error .notUnicode
  else .ok (.one (.single l.char))

/-- The characters that a dot stands for. -/
def dotMeaning (modes : Modes) : Except PatternError Pattern :=
  if !modes.unicode then .error .partOfCharacter
  else
    .ok <| .one <|
      if modes.dotAll then .all
      else if modes.carriageReturn then .compl (.ranges [.single '\n', .single '\r'])
      else .compl (.single '\n')

/-- A condition on a place. -/
def anchorTest (modes : Modes) : Anchor → PlaceTest
  | .lineStart => if modes.multiLine then .lineStart modes.carriageReturn else .textStart
  | .lineEnd => if modes.multiLine then .lineEnd modes.carriageReturn else .textEnd
  | .textStart => .textStart
  | .textEnd => .textEnd
  | .wordEdge => .words word fun before after => before != after
  | .noWordEdge => .words word fun before after => before == after
  | .wordStart => .words word fun before after => !before && after
  | .wordEnd => .words word fun before after => before && !after
  | .noWordBefore => .words word fun before _ => !before
  | .noWordAfter => .words word fun _ after => !after
where
  /-- The characters that words consist of. -/
  word : CharSet := shorthandSet modes.unicode .word

/-- Whether a pattern matches nothing but the empty text. -/
def isEmptyOnly : Pattern → Bool
  | .empty => true
  | .place _ => true
  | .one _ => false
  | .seq first second => isEmptyOnly first && isEmptyOnly second
  | .alt left right => isEmptyOnly left && isEmptyOnly right
  | .loop inner least more => isEmptyOnly inner || (least == 0 && more == some 0)

/-- A repetition. One of the empty text alone is the same as a single one. -/
def repetitionMeaning (inner : Pattern) (least : Nat) (most : Option Nat) : Pattern :=
  if isEmptyOnly inner then
    .loop inner (min least 1) (some (min (most.getD 1) 1 - min least 1))
  else .loop inner least (most.map (· - least))

mutual

/-- The pattern that a term means, and the modes behind it. -/
def Term.meaning (modes : Modes) : Term → Except PatternError (Pattern × Modes)
  | .empty => .ok (.empty, modes)
  | .modes c => .ok (.empty, modes.change c)
  | .literal l => return (← literalMeaning modes l, modes)
  | .dot => return (← dotMeaning modes, modes)
  | .anchor a => .ok (.place (anchorTest modes a), modes)
  | .charClass c => return (.one (← c.meaning modes), modes)
  | .repetition inner least most => do
    let (inner, modes) ← inner.meaning modes
    return (repetitionMeaning inner least most, modes)
  | .group c inner => do
    let (inner, _) ← inner.meaning (modes.change c)
    return (inner, modes)
  | .alternatives terms => Term.alternativesMeaning modes terms
  | .sequence terms => Term.sequenceMeaning modes terms

/-- The pattern that several terms in a row mean, and the modes behind them. -/
def Term.sequenceMeaning (modes : Modes) : List Term → Except PatternError (Pattern × Modes)
  | [] => .ok (.empty, modes)
  | term :: terms => do
    let (first, modes) ← term.meaning modes
    let (second, modes) ← Term.sequenceMeaning modes terms
    return (.seq first second, modes)

/-- The pattern that several alternatives mean, and the modes behind them. -/
def Term.alternativesMeaning (modes : Modes) : List Term → Except PatternError (Pattern × Modes)
  | [] => .ok (.one .none, modes)
  | term :: terms => do
    let (left, modes) ← term.meaning modes
    let (right, modes) ← Term.alternativesMeaning modes terms
    return (.alt left right, modes)

end

end RecordFilter.Pattern
