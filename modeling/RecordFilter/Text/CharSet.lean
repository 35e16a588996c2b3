import RecordFilter.Text.CaseFold
import RecordFilter.Text.CodeRange

/-!
# Sets of characters

Sets are built from ranges by the operations of sets, and by adding the characters that differ in
case only. A set is kept as the expression it was built by; whether a character is in it is read
off that expression.
-/

namespace RecordFilter.Text

/-- Which characters count as differing in case only. -/
inductive Casing where
  /-- All letters. -/
  | full
  /-- The letters of ASCII. -/
  | ascii
deriving DecidableEq, Repr

/-- The characters that differ from a character in case only, itself included. -/
def Casing.variants : Casing → Char → List Char
  | full => caseVariants
  | ascii => asciiCaseVariants

/-- A set of characters. -/
inductive CharSet where
  /-- The characters in one of several ranges. -/
  | ranges (rs : List CodeRange)
  /-- The characters in one of two sets. -/
  | union (a b : CharSet)
  /-- The characters in both of two sets. -/
  | inter (a b : CharSet)
  /-- The characters in the first set only. -/
  | diff (a b : CharSet)
  /-- The characters in exactly one of two sets. -/
  | symmDiff (a b : CharSet)
  /-- The characters outside a set. -/
  | compl (a : CharSet)
  /-- The characters that differ from one of a set in case only. -/
  | folded (casing : Casing) (a : CharSet)
deriving DecidableEq, Repr

namespace CharSet

/-- Whether a character is in a set. -/
def mem (c : Char) : CharSet → Bool
  | ranges rs => CodeRange.anyHolds rs c
  | union a b => a.mem c || b.mem c
  | inter a b => a.mem c && b.mem c
  | diff a b => a.mem c && !b.mem c
  | symmDiff a b => a.mem c != b.mem c
  | compl a => !a.mem c
  | folded casing a => (casing.variants c).any fun d => a.mem d

/-- The set without characters. -/
def none : CharSet := ranges []

/-- The set of all characters. -/
def all : CharSet := ranges [⟨0, 0x10FFFF⟩]

/-- The set of one character. -/
def single (c : Char) : CharSet := ranges [.single c]

/-- The characters in one of several sets. -/
def unions (sets : List CharSet) : CharSet := sets.foldl union none

/-- How many ranges a set is built from. -/
def rangeCount : CharSet → Nat
  | ranges rs => rs.length
  | union a b => a.rangeCount + b.rangeCount
  | inter a b => a.rangeCount + b.rangeCount
  | diff a b => a.rangeCount + b.rangeCount
  | symmDiff a b => a.rangeCount + b.rangeCount
  | compl a => a.rangeCount + 1
  | folded _ a => 2 * a.rangeCount

end CharSet

end RecordFilter.Text
