import Mathlib
import RecordFilter.Proofs.Number.Value

/-!
# Rounding to the nearest double

`RoundsTo` says what rounding is, without saying how it is done: a number within reach rounds to a
finite double that no other is nearer to, and of two that are equally near to the even one. Such a
double is determined up to the sign of zero, and the greater of two numbers never rounds to the
lesser double (`RoundsTo.rank_le`).

The quotient of two natural numbers is rounded in this way (`roundsTo_ofRatio`), and leads to
infinity exactly if it is out of reach (`nearest_lt_infinity_iff`). Both follow from where the
result of rounding passes a magnitude (`lt_nearest_iff`): halfway to the next one.
-/

namespace RecordFilter.Binary64

/-! ## What rounding is -/

/-- The least number that is out of reach, halfway between the greatest finite double and the next
power of two. -/
def reach : ℚ := 2 ^ 1024 - 2 ^ 970

/-- A number within reach rounds to a double that is nearest to it. Of two that are equally near it
is the one whose last digit is even. -/
structure RoundsTo (q : ℚ) (x : Binary64) : Prop where
  within : |q| < reach
  finite : x.isFinite = true
  nearest : ∀ y : Binary64, y.isFinite = true → |x.value - q| ≤ |y.value - q|
  even : ∀ y : Binary64, y.isFinite = true → |y.value - q| = |x.value - q| → y.value ≠ x.value →
    x.magnitude % 2 = 0

section Order

variable {a b q : ℚ}

theorem abs_sub_le_left_iff (hlt : a < b) : |a - q| ≤ |b - q| ↔ 2 * q ≤ a + b := by
  rw [← sq_le_sq, ← sub_nonneg, show (b - q) ^ 2 - (a - q) ^ 2 = (b - a) * (a + b - 2 * q) by ring,
    mul_nonneg_iff_of_pos_left (sub_pos.mpr hlt), sub_nonneg]

theorem abs_sub_le_right_iff (hlt : a < b) : |b - q| ≤ |a - q| ↔ a + b ≤ 2 * q := by
  rw [← sq_le_sq, ← sub_nonneg,
    show (a - q) ^ 2 - (b - q) ^ 2 = (b - a) * (2 * q - (a + b)) by ring,
    mul_nonneg_iff_of_pos_left (sub_pos.mpr hlt), sub_nonneg]

theorem abs_sub_lt_of_between {c : ℚ} (hac : a < c) (hcb : c < b) (hmiddle : a + b = 2 * q) :
    |c - q| < |b - q| := by
  have hb : |b - q| = b - q := abs_of_pos (by linarith)
  rw [hb, abs_lt]
  constructor <;> linarith

end Order

namespace RoundsTo

variable {p q : ℚ} {x y : Binary64}

/-- The greater number does not round to the lesser double. -/
theorem rank_le (hx : RoundsTo p x) (hy : RoundsTo q y) (h : p ≤ q) : x.rank ≤ y.rank := by
  by_contra hrank
  rw [not_le] at hrank
  have hlt : y.value < x.value := value_lt_value_iff.mpr hrank
  -- both numbers would lie in the middle, and the doubles would have no other one between them
  have hlow := (abs_sub_le_right_iff hlt).mp (hx.nearest y hy.finite)
  have hhigh := (abs_sub_le_left_iff hlt).mp (hy.nearest x hx.finite)
  obtain rfl : p = q := by linarith
  have hmiddle : y.value + x.value = 2 * p := by linarith
  have hequal : |y.value - p| = |x.value - p| := by
    rw [show y.value - p = -(x.value - p) by linarith, abs_neg]
  have hevenX := hx.even y hy.finite hequal hlt.ne
  have hevenY := hy.even x hx.finite hequal.symm hlt.ne'
  rw [← natAbs_rank] at hevenX hevenY
  have hfiniteX := isFinite_iff.mp hx.finite
  have hfiniteY := isFinite_iff.mp hy.finite
  rw [← natAbs_rank] at hfiniteX hfiniteY
  -- even ranks that differ have one between them, which is nearer than both
  have hplace : (y.rank + 1).natAbs < infinity := by omega
  obtain ⟨z, hz, hbetween⟩ := exists_rank_eq hplace
  have hlow : y.value < z.value := value_lt_value_iff.mpr (by omega)
  have hhigh : z.value < x.value := value_lt_value_iff.mpr (by omega)
  exact absurd (hx.nearest z hz) (not_le.mpr (abs_sub_lt_of_between hlow hhigh hmiddle))

theorem rank_eq (hx : RoundsTo q x) (hy : RoundsTo q y) : x.rank = y.rank :=
  le_antisymm (hx.rank_le hy le_rfl) (hy.rank_le hx le_rfl)

/-- The double is determined by the number and the sign. -/
theorem unique (hx : RoundsTo q x) (hy : RoundsTo q y) (hsign : x.negative = y.negative) :
    x = y := by
  refine eq_of_parts hsign ?_
  rw [← natAbs_rank, ← natAbs_rank, hx.rank_eq hy]

/-- The opposite number rounds to the opposite double. -/
theorem neg (h : RoundsTo q x) : RoundsTo (-q) x.neg := by
  have hdistance : ∀ y : Binary64, |y.neg.value - -q| = |y.value - q| := by
    intro y
    rw [value_neg, show -y.value - -q = -(y.value - q) by ring, abs_neg]
  have hdistance' : ∀ y : Binary64, |y.value - -q| = |y.neg.value - q| := by
    intro y
    rw [← hdistance, involutive_neg y]
  refine ⟨by rw [abs_neg]; exact h.within, h.finite, fun y hy => ?_, fun y hy hequal hne => ?_⟩
  · rw [hdistance, hdistance']
    exact h.nearest y.neg hy
  · rw [hdistance, hdistance'] at hequal
    refine h.even y.neg hy hequal fun heq => hne ?_
    rw [value_neg, ← heq, value_neg, neg_neg]

end RoundsTo

/-! ## Where a magnitude is passed -/

section Passing

variable {magnitude numerator denominator : Nat}

/-- The result of rounding a quotient passes a magnitude halfway to the next one: beyond the
middle, and on it if the next one is even. -/
theorem lt_nearest_iff_units (hpos : 0 < denominator) (hfinite : magnitude < infinity) :
    magnitude < nearest numerator denominator ↔
      (units magnitude + units (magnitude + 1)) * denominator < 2 * (numerator * unitsPerOne)
        ∨ (units magnitude + units (magnitude + 1)) * denominator = 2 * (numerator * unitsPerOne)
          ∧ magnitude % 2 = 1 := by
  have hle := units_magnitudeBelow_le (numerator * unitsPerOne / denominator)
  have hlt := lt_units_magnitudeBelow_succ (numerator * unitsPerOne / denominator)
  have hstep := units_magnitudeBelow_succ (numerator * unitsPerOne / denominator)
  rw [Nat.le_div_iff_mul_le hpos] at hle
  rw [Nat.div_lt_iff_lt_mul hpos] at hlt
  simp only [nearest, lt_min_iff, hfinite, and_true]
  generalize numerator * unitsPerOne = scaled at *
  generalize twoTo (excess (scaled / denominator)) = step at *
  generalize magnitudeBelow (scaled / denominator) = below at *
  have hgap : units (below + 1) * denominator = units below * denominator + step * denominator := by
    rw [hstep, Nat.add_mul]
  rw [Nat.add_mul]
  rcases Nat.lt_trichotomy magnitude below with hbefore | rfl | hbehind
  -- far from the quotient there is nothing to decide
  · have hfirst : units magnitude * denominator < units below * denominator :=
      Nat.mul_lt_mul_of_pos_right (units_strictMono hbefore) hpos
    have hsecond : units (magnitude + 1) * denominator ≤ units below * denominator :=
      Nat.mul_le_mul_right denominator (units_strictMono.monotone hbefore)
    refine iff_of_true ?_ (Or.inl (by omega))
    split_ifs <;> omega
  · split_ifs <;> omega
  · have hfirst : units (below + 1) * denominator ≤ units magnitude * denominator :=
      Nat.mul_le_mul_right denominator (units_strictMono.monotone hbehind)
    have hsecond : units magnitude * denominator ≤ units (magnitude + 1) * denominator :=
      Nat.mul_le_mul_right denominator (units_strictMono.monotone (Nat.le_succ magnitude))
    refine iff_of_false ?_ (by omega)
    split_ifs <;> omega

theorem lt_nearest_iff (hpos : 0 < denominator) (hfinite : magnitude < infinity) :
    magnitude < nearest numerator denominator ↔
      magnitudeValue magnitude + magnitudeValue (magnitude + 1) < 2 * (numerator / denominator : ℚ)
        ∨ magnitudeValue magnitude + magnitudeValue (magnitude + 1)
            = 2 * (numerator / denominator : ℚ) ∧ magnitude % 2 = 1 := by
  have hone := unitsPerOne_pos
  have hdenominator : (0 : ℚ) < denominator := by exact_mod_cast hpos
  rw [lt_nearest_iff_units hpos hfinite, magnitudeValue, magnitudeValue]
  generalize unitsPerOne = one at *
  have hquotient : 2 * (numerator / denominator : ℚ)
      = 2 * (numerator * one) / denominator / one := by
    field_simp
  rw [hquotient, ← add_div, div_lt_div_iff_of_pos_right hone, div_left_inj' hone.ne',
    lt_div_iff₀ hdenominator, eq_div_iff hdenominator.ne']
  norm_cast

end Passing

/-! ## Between two middles -/

/-- A number lies between the middles on both sides of a magnitude, and on one of these only if the
magnitude is even. -/
structure BetweenMiddles (q : ℚ) (magnitude : Nat) : Prop where
  high : 2 * q ≤ valueAt magnitude + valueAt (magnitude + 1)
  evenHigh : valueAt magnitude + valueAt (magnitude + 1) = 2 * q → magnitude % 2 = 0
  low : valueAt (magnitude - 1) + valueAt magnitude ≤ 2 * q
  evenLow : valueAt (magnitude - 1) + valueAt magnitude = 2 * q → magnitude % 2 = 0

/-- Every other double lies at one of the neighbours of a magnitude or beyond it. -/
theorem value_cases (y : Binary64) (magnitude : Nat) :
    y.value = valueAt magnitude
      ∨ (valueAt magnitude < y.value ∧ valueAt (magnitude + 1) ≤ y.value)
      ∨ (y.value < valueAt magnitude ∧ y.value ≤ valueAt (magnitude - 1)) := by
  rw [value_eq_valueAt]
  rcases lt_trichotomy y.rank magnitude with hlt | heq | hlt
  · exact Or.inr (Or.inr ⟨valueAt_strictMono hlt, valueAt_strictMono.monotone (by omega)⟩)
  · exact Or.inl (by rw [heq])
  · exact Or.inr (Or.inl ⟨valueAt_strictMono hlt, valueAt_strictMono.monotone (by omega)⟩)

/-- What lies between the middles on both sides of a double rounds to it. -/
theorem BetweenMiddles.roundsTo {q : ℚ} {x : Binary64} (h : BetweenMiddles q x.magnitude)
    (hreach : |q| < reach) (hfinite : x.isFinite = true) (hvalue : x.value = valueAt x.magnitude) :
    RoundsTo q x := by
  refine ⟨hreach, hfinite, fun y _ => ?_, fun y _ hequal hne => ?_⟩
  · rw [hvalue]
    rcases value_cases y x.magnitude with heq | ⟨hlt, hle⟩ | ⟨hlt, hle⟩
    · rw [heq]
    · exact (abs_sub_le_left_iff hlt).mpr (by linarith [h.high])
    · exact (abs_sub_le_right_iff hlt).mpr (by linarith [h.low])
  · rw [hvalue] at hequal hne
    rcases value_cases y x.magnitude with heq | ⟨hlt, hle⟩ | ⟨hlt, hle⟩
    · exact absurd heq hne
    · have hsum := (abs_sub_le_right_iff hlt).mp hequal.le
      exact h.evenHigh (by linarith [h.high])
    · have hsum := (abs_sub_le_left_iff hlt).mp hequal.le
      exact h.evenLow (by linarith [h.low])

/-- The result of rounding a quotient passes the magnitudes below it and not itself. -/
theorem betweenMiddles_nearest {numerator denominator : Nat} (hpos : 0 < denominator)
    (hfinite : nearest numerator denominator < infinity) :
    BetweenMiddles (numerator / denominator : ℚ) (nearest numerator denominator) := by
  have hnonneg : (0 : ℚ) ≤ numerator / denominator := by positivity
  have hpassed (magnitude : Nat) (hlt : magnitude < infinity) :
      magnitude < nearest numerator denominator ↔ _ := lt_nearest_iff hpos hlt
  generalize nearest numerator denominator = magnitude at *
  generalize (numerator / denominator : ℚ) = q at *
  have hnot := (hpassed magnitude hfinite).not.mp (lt_irrefl _)
  rw [not_or, not_lt, not_and] at hnot
  have hevenHigh : valueAt magnitude + valueAt (magnitude + 1) = 2 * q → magnitude % 2 = 0 :=
    fun heq => by have := hnot.2 heq; omega
  cases magnitude with
  | zero =>
    have hnegative : valueAt (-1) < valueAt 0 := valueAt_strictMono (by decide)
    have hzero : valueAt 0 = 0 := magnitudeValue_zero
    refine ⟨hnot.1, hevenHigh, ?_, fun _ => rfl⟩
    show valueAt (-1) + valueAt 0 ≤ 2 * q
    linarith
  | succ before =>
    have hplace : ((before + 1 : Nat) : ℤ) - 1 = (before : Nat) := by omega
    rcases (hpassed before (by omega)).mp (Nat.lt_succ_self before) with hlt | ⟨heq, hodd⟩
    · refine ⟨hnot.1, hevenHigh, ?_, ?_⟩
      · rw [hplace]
        exact hlt.le
      · rw [hplace]
        exact fun heq => absurd heq hlt.ne
    · refine ⟨hnot.1, hevenHigh, ?_, fun _ => by omega⟩
      rw [hplace]
      exact heq.le

/-! ## Quotients -/

section Quotients

variable {numerator denominator : Nat}

theorem reach_eq : magnitudeValue (infinity - 1) + magnitudeValue infinity = 2 * reach := by
  have hunits : units (infinity - 1) + units infinity
      = (2 * (twoTo 1024 - twoTo 970)) * unitsPerOne := by
    decide +kernel
  have hle : twoTo 970 ≤ twoTo 1024 := twoTo_le (by decide)
  have hone := unitsPerOne_pos
  rw [magnitudeValue, magnitudeValue, ← add_div, reach]
  generalize units (infinity - 1) = first at *
  generalize units infinity = second at *
  generalize unitsPerOne = one at *
  rw [div_eq_iff hone.ne', ← Nat.cast_add, hunits, Nat.cast_mul, Nat.cast_mul, Nat.cast_sub hle,
    cast_twoTo, cast_twoTo, Nat.cast_ofNat]

/-- Rounding leads to infinity exactly if the quotient is out of reach. -/
theorem nearest_lt_infinity_iff (hpos : 0 < denominator) :
    nearest numerator denominator < infinity ↔ (numerator / denominator : ℚ) < reach := by
  have hlast : infinity - 1 < infinity := by decide
  have hodd : (infinity - 1) % 2 = 1 := by decide
  have hpassed : infinity - 1 < nearest numerator denominator ↔ _ := lt_nearest_iff hpos hlast
  rw [show infinity - 1 + 1 = infinity from rfl, reach_eq] at hpassed
  have hinfinity : infinity - 1 < nearest numerator denominator
      ↔ ¬nearest numerator denominator < infinity := by
    omega
  rw [← not_iff_not, ← hinfinity, hpassed, not_lt, le_iff_lt_or_eq, mul_lt_mul_iff_right₀ two_pos,
    mul_right_inj' two_ne_zero]
  exact or_congr_right (and_iff_left hodd)

/-- A quotient within reach rounds to the double nearest to it. -/
theorem roundsTo_ofRatio_false (hpos : 0 < denominator)
    (hreach : (numerator / denominator : ℚ) < reach) :
    RoundsTo (numerator / denominator : ℚ) (ofRatio false numerator denominator) := by
  have hfinite := (nearest_lt_infinity_iff hpos).mpr hreach
  have hnonneg : (0 : ℚ) ≤ numerator / denominator := by positivity
  have hbetween : BetweenMiddles (numerator / denominator : ℚ)
      (ofRatio false numerator denominator).magnitude := betweenMiddles_nearest hpos hfinite
  exact hbetween.roundsTo (by rwa [abs_of_nonneg hnonneg]) (isFinite_iff.mpr hfinite) rfl

/-- A quotient within reach, with a sign, rounds to the double nearest to it. -/
theorem roundsTo_ofRatio (negative : Bool) (hpos : 0 < denominator)
    (hreach : (numerator / denominator : ℚ) < reach) :
    RoundsTo (if negative then -(numerator / denominator : ℚ) else numerator / denominator)
      (ofRatio negative numerator denominator) := by
  have hround := roundsTo_ofRatio_false hpos hreach
  cases negative with
  | false => exact hround
  | true => exact hround.neg

end Quotients

/-! ## Numbers that are rounded -/

theorem two_pow_le_reach {count : Nat} (h : count ≤ 970) : (2 : ℚ) ^ count ≤ reach := by
  have hlow : (2 : ℚ) ^ count ≤ 2 ^ 970 := pow_le_pow_right₀ one_le_two h
  have hhigh : (2 : ℚ) ^ (970 + 1) ≤ 2 ^ 1024 := pow_le_pow_right₀ one_le_two (by decide)
  rw [pow_succ, mul_two] at hhigh
  exact hlow.trans (le_sub_iff_add_le.mpr hhigh)

theorem abs_value (x : Binary64) : |x.value| = magnitudeValue x.magnitude := by
  unfold value
  split_ifs
  · rw [abs_neg, abs_of_nonneg (magnitudeValue_nonneg _)]
  · exact abs_of_nonneg (magnitudeValue_nonneg _)

/-- A finite double is within reach of itself, and no other is as near. -/
theorem roundsTo_value {x : Binary64} (h : x.isFinite = true) : RoundsTo x.value x := by
  have hlast : magnitudeValue x.magnitude ≤ magnitudeValue (infinity - 1) :=
    magnitudeValue_strictMono.monotone (Nat.le_pred_of_lt (isFinite_iff.mp h))
  have hstep : magnitudeValue (infinity - 1) < magnitudeValue infinity :=
    magnitudeValue_strictMono (by decide)
  refine ⟨?_, h, fun y _ => ?_, fun y _ hequal hne => ?_⟩
  · rw [abs_value]
    linarith [reach_eq]
  · rw [sub_self, abs_zero]
    exact abs_nonneg _
  · rw [sub_self, abs_zero, abs_eq_zero, sub_eq_zero] at hequal
    exact absurd hequal hne

/-- An integer within reach rounds to its double. -/
theorem roundsTo_ofInt {n : ℤ} (h : (n.natAbs : ℚ) < reach) : RoundsTo n (ofInt n) := by
  have hreach : (n.natAbs / (1 : Nat) : ℚ) < reach := by rwa [Nat.cast_one, div_one]
  have hround := roundsTo_ofRatio (decide (n < 0)) Nat.one_pos hreach
  have hvalue : (if decide (n < 0) = true then -(n.natAbs / (1 : Nat) : ℚ)
        else n.natAbs / (1 : Nat))
      = n := by
    rw [Nat.cast_one, div_one, Nat.cast_natAbs]
    by_cases hneg : n < 0
    · rw [if_pos (decide_eq_true hneg), abs_of_neg hneg, Int.cast_neg, neg_neg]
    · rw [if_neg (by simpa using hneg), abs_of_nonneg (not_lt.mp hneg)]
  rwa [hvalue] at hround

end RecordFilter.Binary64
