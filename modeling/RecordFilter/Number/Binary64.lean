import RecordFilter.Number.Power

/-!
# Double-precision numbers

The numbers of the program are IEEE 754 binary64 numbers. A number is kept as its sign and its
*magnitude*, the lower 63 bits of the word. Two facts make this form convenient. The magnitudes
of finite numbers stand in the order of their absolute values, so comparing numbers is comparing
integers. And every finite number is a natural multiple of `2 ^ (-1074)`, up to its sign, so
`units` gives exact values in `Nat` and rounding needs no approximation.
-/

namespace RecordFilter

/-- A binary64 word: the sign bit and the 63 bits below it. -/
structure Binary64 where
  negative : Bool
  magnitude : Nat
  magnitude_lt : magnitude < twoTo 63
deriving DecidableEq, Repr

namespace Binary64

/-! ## Words -/

/-- The magnitude of infinity; greater ones stand for no number. -/
def infinity : Nat := 2047 * twoTo 52

theorem infinity_lt : infinity < twoTo 63 := by decide

/-- The word as a natural number below `2 ^ 64`. -/
def toBits (x : Binary64) : Nat :=
  if x.negative then twoTo 63 + x.magnitude else x.magnitude

/-- The number whose word is given, the upper bits dropped. -/
def ofBits (bits : Nat) : Binary64 :=
  ⟨bits / twoTo 63 % 2 == 1, bits % twoTo 63, Nat.mod_lt _ (by decide)⟩

/-- Whether a word stands for a number at all. -/
def isNaN (x : Binary64) : Bool := decide (infinity < x.magnitude)

/-- Whether a word stands for a finite number. -/
def isFinite (x : Binary64) : Bool := decide (x.magnitude < infinity)

/-- The number with the other sign. -/
def neg (x : Binary64) : Binary64 := { x with negative := !x.negative }

/-! ## Order -/

/-- The place of a number on the line of all numbers. The two zeros share theirs. -/
def rank (x : Binary64) : Int :=
  if x.negative then -(x.magnitude : Int) else x.magnitude

/-- The order of two numbers; a word that is no number has none with any. -/
def compare? (x y : Binary64) : Option Ordering :=
  if x.isNaN || y.isNaN then none else some (compare x.rank y.rank)

/-- Equality of numbers: the two zeros are equal, a word that is no number differs from all. -/
def eqv (x y : Binary64) : Bool := x.compare? y == some .eq

/-! ## Exact values -/

/-- The value of a magnitude in units of `2 ^ (-1074)`. The formula goes on through infinity,
whose value is `2 ^ 1024`, the power that the largest finite number falls short of. -/
def units (magnitude : Nat) : Nat :=
  if magnitude < twoTo 52 then magnitude
  else (twoTo 52 + magnitude % twoTo 52) * twoTo (magnitude / twoTo 52 - 1)

/-- How many units make one. -/
def unitsPerOne : Nat := twoTo 1074

/-! ## Rounding -/

/-- How many binary digits of a whole number of units go beyond the 53 that a number holds. -/
def excess (whole : Nat) : Nat := whole.log2 + 1 - 53

/-- The greatest magnitude whose value is at most a whole number of units. -/
def magnitudeBelow (whole : Nat) : Nat :=
  excess whole * twoTo 52 + whole / twoTo (excess whole)

/-- The magnitude nearest to the quotient of two natural numbers, infinity if it is out of reach.
Of two that are equally near it is the even one. -/
def nearest (numerator denominator : Nat) : Nat :=
  let scaled := numerator * unitsPerOne
  let whole := scaled / denominator
  let below := magnitudeBelow whole
  let beyond := 2 * (scaled - units below * denominator)
  let gap := twoTo (excess whole) * denominator
  let chosen :=
    if beyond < gap then below
    else if gap < beyond then below + 1
    else below + below % 2
  min chosen infinity

theorem nearest_lt (numerator denominator : Nat) : nearest numerator denominator < twoTo 63 :=
  Nat.lt_of_le_of_lt (Nat.min_le_right _ _) infinity_lt

/-- The number nearest to a quotient of natural numbers, with a sign. -/
def ofRatio (negative : Bool) (numerator denominator : Nat) : Binary64 :=
  ⟨negative, nearest numerator denominator, nearest_lt _ _⟩

/-- The number nearest to an integer. -/
def ofInt (n : Int) : Binary64 :=
  ofRatio (n < 0) n.natAbs 1

end Binary64

end RecordFilter
