import RecordFilter.Number.Power
import RecordFilter.Pattern

/-!
# The size of patterns

A repetition stands for as many copies of what it repeats as it has counts, so a short text can
mean a pattern beyond all bounds. The size of a pattern is measured by the machine that would run
it, in bytes, and patterns above a limit are refused. The machine itself is not built: for a set it
is guessed from the number of its ranges, so close to the limit the answer may be off.
-/

namespace RecordFilter.Pattern

/-- The size of one state of the machine. -/
def stateSize : Nat := 32

/-- The size of the part of the machine that takes one character out of a set: one state for the
characters of ASCII, and a small tree of them for others. -/
def setSize (set : Text.CharSet) : Nat :=
  let beyond := Text.CharSet.inter set (.ranges [⟨0x80, 0x10FFFF⟩])
  let samples := [0x80, 0xFF, 0x3B1, 0x800, 0x4E00, 0xFFFD, 0x10000].map Char.ofNat
  if samples.any fun c => beyond.mem c then 9 * stateSize + 16 * set.rangeCount
  else stateSize + 8 * (set.rangeCount - 1)

/-- The size of the machine for a pattern. -/
def size : Pattern → Nat
  | empty => stateSize
  | place _ => stateSize
  | one set => setSize set
  | seq first second => first.size + second.size
  | alt left right => left.size + right.size + stateSize
  | loop inner least more =>
    match more with
    | none => max least 1 * inner.size + stateSize
    | some count => (least + count) * inner.size + (count + 1) * stateSize

/-- The greatest size that is not refused. -/
def maxSize : Nat := 10 * twoTo 20

end RecordFilter.Pattern
