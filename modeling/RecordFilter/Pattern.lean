import RecordFilter.Text.Property

/-!
# Patterns

A pattern is a regular expression, used to test whether a text holds a match anywhere. Its
language is small: single characters out of a set, conditions on the place between two
characters, sequences, alternatives and repetitions. Since only the existence of a match is asked
for, there is no preference among matches and no capture.

A pattern is run on all starting places at once: `ends` gives the places where a match can end
from the places where it can begin. Places are counted in characters and kept in increasing order.
-/

namespace RecordFilter

/-! ## Conditions -/

/-- A condition on a place between two characters of a text. -/
inductive PlaceTest where
  /-- Nothing stands in front. -/
  | textStart
  /-- Nothing stands behind. -/
  | textEnd
  /-- A line starts; a carriage return, or one with a line feed, may end lines, too. -/
  | lineStart (carriageReturn : Bool)
  /-- A line ends. -/
  | lineEnd (carriageReturn : Bool)
  /-- What is demanded of the characters on both sides, given which characters form words: the
  test is told whether the one in front does, and the one behind. -/
  | words (word : Text.CharSet) (test : Bool → Bool → Bool)

namespace PlaceTest

/-- Whether a condition holds between two characters; at the ends of the text one is missing. -/
def holds (before after : Option Char) : PlaceTest → Bool
  | textStart => before.isNone
  | textEnd => after.isNone
  | lineStart false => before.isNone || before == some '\n'
  | lineStart true =>
    before.isNone || before == some '\n' || (before == some '\r' && after != some '\n')
  | lineEnd false => after.isNone || after == some '\n'
  | lineEnd true =>
    after.isNone || after == some '\r' || (after == some '\n' && before != some '\r')
  | words word test => test (before.any fun c => word.mem c) (after.any fun c => word.mem c)

end PlaceTest

/-! ## Patterns -/

/-- A regular expression. -/
inductive Pattern where
  /-- The empty text. -/
  | empty
  /-- One character out of a set. -/
  | one (set : Text.CharSet)
  /-- The empty text, at a place where a condition holds. -/
  | place (test : PlaceTest)
  /-- One match behind another. -/
  | seq (first second : Pattern)
  /-- A match of one or the other. -/
  | alt (left right : Pattern)
  /-- So many matches behind each other at least and, unless there is no bound, so many more at
  most. -/
  | loop (inner : Pattern) (least : Nat) (more : Option Nat)

namespace Pattern

/-- Two increasing lists of places as one. -/
def merge : List Nat → List Nat → List Nat
  | [], bs => bs
  | as, [] => as
  | a :: as, b :: bs =>
    if a < b then a :: merge as (b :: bs)
    else if b < a then b :: merge (a :: as) bs
    else a :: merge as bs
termination_by as bs => as.length + bs.length

/-- Makes so many steps. Once a step changes nothing, no later one does. -/
def advance (step : List Nat → List Nat) : Nat → List Nat → List Nat
  | 0, places => places
  | count + 1, places =>
    let next := step places
    if next = places then places else advance step count next

/-- The places reached by so many steps or fewer, given those reached by the last one and those
reached so far. Only places that are new are gone on from. -/
def spread (step : List Nat → List Nat) : Nat → List Nat → List Nat → List Nat
  | 0, _, seen => seen
  | count + 1, latest, seen =>
    let fresh := (step latest).filter fun i => !seen.contains i
    if fresh.isEmpty then seen else spread step count fresh (merge fresh seen)

/-- The places where a match can end, given those where it can begin. A repetition without bound
reaches all it can in as many rounds as the text has places. -/
def ends (text : Array Char) : Pattern → List Nat → List Nat
  | empty, places => places
  | one set, places =>
    (places.filter fun i => text[i]?.any fun c => set.mem c).map (· + 1)
  | place test, places =>
    places.filter fun i => test.holds (if i = 0 then none else text[i - 1]?) text[i]?
  | seq first second, places => second.ends text (first.ends text places)
  | alt left right, places => merge (left.ends text places) (right.ends text places)
  | loop inner least more, places =>
    let reached := advance (inner.ends text) least places
    spread (inner.ends text) (more.getD (text.size + 1)) reached reached

/-- Whether a text holds a match, beginning and ending anywhere. -/
def matchesIn (pattern : Pattern) (text : String) : Bool :=
  let chars := text.toList.toArray
  !(pattern.ends chars (List.range (chars.size + 1))).isEmpty

end Pattern

end RecordFilter
