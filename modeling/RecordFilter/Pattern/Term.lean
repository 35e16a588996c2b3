import RecordFilter.Text.Property

/-!
# Patterns as they are written

A pattern is read into a *term*, which keeps every construct that the text spells. Nothing in a
term depends on the modes it stands under; what a term means under them is the subject of
`RecordFilter.Pattern.Meaning`.
-/

namespace RecordFilter.Pattern

/-! ## Modes -/

/-- A mode that a pattern switches on and off for a part of itself. -/
inductive Mode where
  /-- `i`: letters stand for all letters that differ from them in case only. -/
  | ignoreCase
  /-- `m`: `^` and `$` also hold at the ends of lines. -/
  | multiLine
  /-- `s`: a dot also stands for a line feed. -/
  | dotAll
  /-- `U`: greedy and lazy repetitions trade places. -/
  | swapGreed
  /-- `u`: classes and boundaries know all characters, not just those of ASCII. -/
  | unicode
  /-- `R`: a carriage return ends a line, too. -/
  | carriageReturn
  /-- `x`: blanks and comments between the parts of a pattern are passed over. -/
  | spaced
deriving DecidableEq, Repr

/-- The mode of a letter. -/
def Mode.ofChar? : Char → Option Mode
  | 'i' => some ignoreCase
  | 'm' => some multiLine
  | 's' => some dotAll
  | 'U' => some swapGreed
  | 'u' => some unicode
  | 'R' => some carriageReturn
  | 'x' => some spaced
  | _ => none

/-- A change of modes: some are switched on, some off. -/
structure ModeChange where
  on : List Mode
  off : List Mode
deriving DecidableEq, Repr

/-- The state of a mode after a change. -/
def ModeChange.apply (change : ModeChange) (mode : Mode) (state : Bool) : Bool :=
  if change.on.contains mode then true else if change.off.contains mode then false else state

/-- The change that changes nothing. -/
def ModeChange.none : ModeChange := ⟨[], []⟩

/-! ## Places in a text -/

/-- A condition on the place between two characters. -/
inductive Anchor where
  /-- `^` -/
  | lineStart
  /-- `$` -/
  | lineEnd
  /-- `\A` -/
  | textStart
  /-- `\z` -/
  | textEnd
  /-- `\b`: a word starts or ends. -/
  | wordEdge
  /-- `\B`: no word starts or ends. -/
  | noWordEdge
  /-- `\<`, `\b{start}`: a word starts. -/
  | wordStart
  /-- `\>`, `\b{end}`: a word ends. -/
  | wordEnd
  /-- `\b{start-half}`: no character of a word stands in front. -/
  | noWordBefore
  /-- `\b{end-half}`: no character of a word stands behind. -/
  | noWordAfter
deriving DecidableEq, Repr

/-! ## Classes -/

/-- A character that stands for itself, and whether it was written as a byte, `\x` with two
digits. -/
structure Literal where
  char : Char
  byte : Bool
deriving DecidableEq, Repr

/-- The classes that are written with one letter. -/
inductive Shorthand where
  /-- `\d` -/
  | digit
  /-- `\s` -/
  | blank
  /-- `\w` -/
  | word
deriving DecidableEq, Repr

/-- Operations on classes. -/
inductive ClassOperation where
  /-- `&&` -/
  | inter
  /-- `--` -/
  | diff
  /-- `~~` -/
  | symmDiff
deriving DecidableEq, Repr

/-- What stands between brackets, and inside other brackets. -/
inductive ClassTerm where
  /-- No character. -/
  | nothing
  /-- A single character. -/
  | literal (l : Literal)
  /-- The characters from one to another. -/
  | range (first last : Literal)
  /-- A class of ASCII characters by name, as in `[:alpha:]`. -/
  | ascii (set : List Text.CodeRange) (negated : Bool)
  /-- A class written with one letter. -/
  | shorthand (kind : Shorthand) (negated : Bool)
  /-- The characters with a property. -/
  | property (set : Text.CharSet) (negated : Bool)
  /-- A class in brackets. -/
  | bracket (inner : ClassTerm) (negated : Bool)
  /-- All characters that one of two or more parts stands for. -/
  | union (parts : List ClassTerm)
  /-- An operation on two classes. -/
  | operation (kind : ClassOperation) (left right : ClassTerm)
deriving Repr

/-! ## Terms -/

/-- A pattern as it is written. -/
inductive Term where
  /-- Nothing, as between two bars. -/
  | empty
  /-- Modes for the rest of the group, as in `(?i)`. -/
  | modes (change : ModeChange)
  /-- A character. -/
  | literal (l : Literal)
  /-- A dot. -/
  | dot
  /-- A condition on the place. -/
  | anchor (a : Anchor)
  /-- A class; one without brackets stands for itself as well. -/
  | charClass (c : ClassTerm)
  /-- A repetition, so many times at least and, unless there is no bound, so many times at most. -/
  | repetition (inner : Term) (least : Nat) (most : Option Nat)
  /-- A group, which may change modes inside. -/
  | group (change : ModeChange) (inner : Term)
  /-- Two or more terms of which one stands. -/
  | alternatives (terms : List Term)
  /-- Two or more terms in a row. -/
  | sequence (terms : List Term)
deriving Repr

/-! ## Nesting -/

mutual

/-- How deep the brackets, unions and operations of a class are nested. -/
def ClassTerm.depth : ClassTerm → Nat
  | .bracket inner _ => inner.depth + 1
  | .union parts => ClassTerm.depths parts + 1
  | .operation _ left right => max left.depth right.depth + 1
  | .nothing | .literal _ | .range _ _ | .ascii _ _ | .shorthand _ _ | .property _ _ => 0

/-- The greatest depth of several classes. -/
def ClassTerm.depths : List ClassTerm → Nat
  | [] => 0
  | part :: parts => max part.depth (ClassTerm.depths parts)

end

mutual

/-- How deep a term is nested; each construct that holds others counts. -/
def Term.depth : Term → Nat
  | .charClass c => c.depth
  | .repetition inner _ _ => inner.depth + 1
  | .group _ inner => inner.depth + 1
  | .alternatives terms => Term.depths terms + 1
  | .sequence terms => Term.depths terms + 1
  | .empty | .modes _ | .literal _ | .dot | .anchor _ => 0

/-- The greatest depth of several terms. -/
def Term.depths : List Term → Nat
  | [] => 0
  | term :: terms => max term.depth (Term.depths terms)

end

/-- How deep a pattern may be nested. -/
def maxDepth : Nat := 250

end RecordFilter.Pattern
