import Mathlib
import RecordFilter.Proofs.Number.Shortest

/-!
# The exact values of doubles

A double stands for a rational number, its sign apart the number of units of its magnitude. The
next magnitude is one step further on, and a step is as long as the last binary digit that a
magnitude has (`units_succ`). So values stand in the order of ranks (`value_lt_value_iff`), and a
whole number of units lies between the greatest magnitude below it and the next one
(`units_magnitudeBelow_le`, `lt_units_magnitudeBelow_succ`).
-/

namespace RecordFilter

theorem twoTo_le {a b : Nat} (h : a ≤ b) : twoTo a ≤ twoTo b := Nat.pow_le_pow_right (by decide) h

/-- The named power as a rational number. -/
theorem cast_twoTo (count : Nat) : (twoTo count : ℚ) = 2 ^ count := by
  rw [twoTo, Nat.pow_eq]
  norm_cast

namespace Binary64

/-! ## Words that stand for numbers -/

/-- What is finite is a number. -/
theorem isNaN_of_isFinite {x : Binary64} (h : x.isFinite = true) : x.isNaN = false := by
  have hlt : x.magnitude < infinity := of_decide_eq_true h
  exact decide_eq_false (Nat.not_lt.mpr hlt.le)

/-- Rounding never leads beyond infinity. -/
theorem isNaN_ofInt (n : Int) : (ofInt n).isNaN = false :=
  decide_eq_false (Nat.not_lt.mpr (Nat.min_le_right _ _))

/-! ## Units -/

/-- Below the first binade a magnitude counts units. -/
theorem units_of_lt {magnitude : Nat} (h : magnitude < twoTo 52) : units magnitude = magnitude :=
  if_pos h

section Binade

variable {shift fraction : Nat}

/-- A magnitude divided by the size of a binade gives the binade that it lies in. -/
theorem div_of_binade (h : fraction < twoTo 52) :
    (twoTo 52 * (shift + 1) + fraction) / twoTo 52 = shift + 1 := by
  rw [Nat.mul_add_div (twoTo_pos 52), Nat.div_eq_of_lt h, Nat.add_zero]

/-- In a binade a magnitude has a leading digit in front of its fraction. -/
theorem units_of_binade (h : fraction < twoTo 52) :
    units (twoTo 52 * (shift + 1) + fraction) = (twoTo 52 + fraction) * twoTo shift := by
  have hbinade : ¬twoTo 52 * (shift + 1) + fraction < twoTo 52 := by
    rw [Nat.mul_add]
    omega
  rw [units, if_neg hbinade, div_of_binade h, Nat.mul_add_mod, Nat.mod_eq_of_lt h,
    Nat.add_sub_cancel]

/-- Every magnitude from the first normal one on lies in a binade, at a fraction of it. -/
theorem exists_binade {magnitude : Nat} (h : twoTo 52 ≤ magnitude) :
    ∃ shift fraction, fraction < twoTo 52 ∧ magnitude = twoTo 52 * (shift + 1) + fraction := by
  have hquotient : 1 ≤ magnitude / twoTo 52 := (Nat.one_le_div_iff (twoTo_pos 52)).mpr h
  refine ⟨magnitude / twoTo 52 - 1, magnitude % twoTo 52, Nat.mod_lt _ (twoTo_pos 52), ?_⟩
  rw [Nat.sub_add_cancel hquotient, Nat.div_add_mod]

end Binade

/-- The next magnitude has one step more, and the step is the last digit that a magnitude has. -/
theorem units_succ (magnitude : Nat) :
    units (magnitude + 1) = units magnitude + twoTo (magnitude / twoTo 52 - 1) := by
  rcases Nat.lt_or_ge magnitude (twoTo 52) with hsmall | hlarge
  · rw [units_of_lt hsmall, Nat.div_eq_of_lt hsmall, Nat.zero_sub, twoTo_zero]
    rcases Nat.lt_or_ge (magnitude + 1) (twoTo 52) with hnext | hnext
    · exact units_of_lt hnext
    · have hfirst : magnitude + 1 = twoTo 52 * (0 + 1) + 0 := by omega
      rw [hfirst, units_of_binade (twoTo_pos 52), twoTo_zero]
      omega
  · obtain ⟨shift, fraction, hfraction, rfl⟩ := exists_binade hlarge
    rw [div_of_binade hfraction, units_of_binade hfraction, Nat.add_sub_cancel, ← Nat.succ_mul]
    rcases Nat.lt_or_ge (fraction + 1) (twoTo 52) with hnext | hnext
    · exact units_of_binade hnext
    -- the last magnitude of a binade is followed by the first one of the next
    · have hcarry : twoTo 52 * (shift + 1) + fraction + 1 = twoTo 52 * (shift + 1 + 1) + 0 := by
        rw [Nat.mul_add _ (shift + 1)]
        omega
      have hdouble : Nat.succ (twoTo 52 + fraction) = twoTo 52 * 2 := by omega
      rw [hcarry, units_of_binade (twoTo_pos 52), hdouble, Nat.add_zero, twoTo_succ shift,
        Nat.mul_assoc, Nat.mul_comm 2]

/-- Greater magnitudes are worth more. -/
theorem units_strictMono : StrictMono units :=
  strictMono_nat_of_lt_succ fun magnitude => by
    rw [units_succ]
    exact Nat.lt_add_of_pos_right (twoTo_pos _)

theorem units_zero : units 0 = 0 := rfl

/-! ## Whole numbers of units -/

/-- What is left of a whole number of units when its excess is cut off has 53 digits, or is the
number itself. -/
theorem significand_bounds {whole : Nat} (h : twoTo 53 ≤ whole) :
    twoTo 52 ≤ whole / twoTo (excess whole) ∧ whole / twoTo (excess whole) < twoTo 53 := by
  have hne : whole ≠ 0 := Nat.ne_of_gt (Nat.lt_of_lt_of_le (twoTo_pos 53) h)
  have hlog : 53 ≤ whole.log2 := (Nat.le_log2 hne).mpr h
  obtain ⟨hlow, hhigh⟩ := (Nat.log2_eq_iff hne).mp rfl
  have hexcess : whole.log2 = 52 + excess whole := by
    unfold excess
    omega
  rw [hexcess, Nat.pow_add] at hlow
  rw [hexcess, show 52 + excess whole + 1 = 53 + excess whole by omega, Nat.pow_add] at hhigh
  exact ⟨(Nat.le_div_iff_mul_le (twoTo_pos _)).mpr hlow,
    (Nat.div_lt_iff_lt_mul (twoTo_pos _)).mpr hhigh⟩

/-- The greatest magnitude below a whole number of units is that number without its excess, and
the excess is less than a step. -/
theorem magnitudeBelow_step (whole : Nat) :
    magnitudeBelow whole / twoTo 52 - 1 = excess whole
      ∧ units (magnitudeBelow whole) = whole / twoTo (excess whole) * twoTo (excess whole) := by
  have hdouble : twoTo 53 = twoTo 52 + twoTo 52 := by decide
  rcases Nat.lt_or_ge whole (twoTo 53) with hsmall | hlarge
  · have hexcess := excess_of_lt hsmall
    have hbelow : magnitudeBelow whole = whole := by
      rw [magnitudeBelow, hexcess, twoTo_zero, Nat.zero_mul, Nat.zero_add, Nat.div_one]
    rw [hbelow, hexcess, twoTo_zero, Nat.div_one, Nat.mul_one]
    rcases Nat.lt_or_ge whole (twoTo 52) with hfirst | hfirst
    · exact ⟨by rw [Nat.div_eq_of_lt hfirst], units_of_lt hfirst⟩
    · obtain ⟨fraction, rfl⟩ := Nat.exists_eq_add_of_le hfirst
      have hfraction : fraction < twoTo 52 := by omega
      have hbinade : twoTo 52 + fraction = twoTo 52 * (0 + 1) + fraction := by omega
      rw [hbinade]
      refine ⟨by rw [div_of_binade hfraction], ?_⟩
      rw [units_of_binade hfraction, twoTo_zero]
      omega
  · obtain ⟨hlow, hhigh⟩ := significand_bounds hlarge
    obtain ⟨fraction, hfraction⟩ := Nat.exists_eq_add_of_le hlow
    have hlt : fraction < twoTo 52 := by omega
    have hbelow : magnitudeBelow whole = twoTo 52 * (excess whole + 1) + fraction := by
      rw [magnitudeBelow, hfraction, Nat.mul_comm, Nat.mul_add, Nat.mul_one, Nat.add_assoc]
    rw [hbelow, hfraction]
    exact ⟨by rw [div_of_binade hlt, Nat.add_sub_cancel], units_of_binade hlt⟩

/-- The gap from the magnitude below a number to the next one. -/
theorem units_magnitudeBelow_succ (whole : Nat) :
    units (magnitudeBelow whole + 1)
      = units (magnitudeBelow whole) + twoTo (excess whole) := by
  rw [units_succ, (magnitudeBelow_step whole).1]

/-- The magnitude below a number is worth no more than it. -/
theorem units_magnitudeBelow_le (whole : Nat) : units (magnitudeBelow whole) ≤ whole := by
  rw [(magnitudeBelow_step whole).2]
  exact Nat.div_mul_le_self _ _

/-- The next one is worth more, so there is none between them. -/
theorem lt_units_magnitudeBelow_succ (whole : Nat) : whole < units (magnitudeBelow whole + 1) := by
  rw [units_magnitudeBelow_succ, (magnitudeBelow_step whole).2, ← Nat.succ_mul]
  exact (Nat.div_lt_iff_lt_mul (twoTo_pos _)).mp (Nat.lt_succ_self _)

/-! ## Values -/

/-- The exact value of a magnitude. -/
def magnitudeValue (magnitude : Nat) : ℚ := units magnitude / unitsPerOne

/-- The exact value of a number. -/
def value (x : Binary64) : ℚ :=
  if x.negative then -magnitudeValue x.magnitude else magnitudeValue x.magnitude

theorem unitsPerOne_pos : (0 : ℚ) < unitsPerOne := by
  exact_mod_cast twoTo_pos 1074

/-- Greater magnitudes are worth more, counted in ones. -/
theorem magnitudeValue_strictMono : StrictMono magnitudeValue := fun _ _ h =>
  div_lt_div_of_pos_right (by exact_mod_cast units_strictMono h) unitsPerOne_pos

theorem magnitudeValue_zero : magnitudeValue 0 = 0 := by
  rw [magnitudeValue, units_zero, Nat.cast_zero, zero_div]

theorem magnitudeValue_nonneg (magnitude : Nat) : 0 ≤ magnitudeValue magnitude := by
  rw [← magnitudeValue_zero]
  exact magnitudeValue_strictMono.monotone (Nat.zero_le _)

/-- The value at a place on the line of all numbers. -/
def valueAt : ℤ → ℚ
  | .ofNat magnitude => magnitudeValue magnitude
  | .negSucc below => -magnitudeValue (below + 1)

/-- Values grow with their rank, through zero. -/
theorem valueAt_strictMono : StrictMono valueAt := by
  refine strictMono_int_of_lt_succ fun place => ?_
  cases place with
  | ofNat magnitude => exact magnitudeValue_strictMono (Nat.lt_succ_self magnitude)
  | negSucc below =>
    cases below with
    | zero =>
      show -magnitudeValue 1 < magnitudeValue 0
      have := magnitudeValue_strictMono Nat.one_pos
      rw [magnitudeValue_zero] at this ⊢
      linarith
    | succ below =>
      show -magnitudeValue (below + 1 + 1) < -magnitudeValue (below + 1)
      exact neg_lt_neg (magnitudeValue_strictMono (Nat.lt_succ_self _))

/-- The value of a double is that at its rank. -/
theorem value_eq_valueAt (x : Binary64) : x.value = valueAt x.rank := by
  unfold value rank
  split_ifs
  · cases x.magnitude with
    | zero =>
      show -magnitudeValue 0 = magnitudeValue 0
      rw [magnitudeValue_zero, neg_zero]
    | succ below => rfl
  · rfl

/-- Values stand in the order of ranks. -/
theorem value_lt_value_iff {x y : Binary64} : x.value < y.value ↔ x.rank < y.rank := by
  rw [value_eq_valueAt, value_eq_valueAt]
  exact valueAt_strictMono.lt_iff_lt

/-- The rank of a double is its magnitude with its sign. -/
theorem natAbs_rank (x : Binary64) : x.rank.natAbs = x.magnitude := by
  unfold rank
  split_ifs
  · rw [Int.natAbs_neg, Int.natAbs_natCast]
  · exact Int.natAbs_natCast _

/-- The finite doubles are those below the first magnitude that stands for infinity. -/
theorem isFinite_iff {x : Binary64} : x.isFinite = true ↔ x.magnitude < infinity := by
  rw [isFinite, decide_eq_true_eq]

/-- Every place between those of the infinities is that of a finite number. -/
theorem exists_rank_eq {place : ℤ} (h : place.natAbs < infinity) :
    ∃ x : Binary64, x.isFinite = true ∧ x.rank = place := by
  refine ⟨⟨decide (place < 0), place.natAbs, h.trans infinity_lt⟩, isFinite_iff.mpr h, ?_⟩
  unfold rank
  simp only [decide_eq_true_eq]
  split_ifs <;> omega

/-! ## The opposite number -/

theorem involutive_neg : Function.Involutive neg := fun _ => eq_of_parts (Bool.not_not _) rfl

/-- Changing the sign changes that of the value. -/
theorem value_neg (x : Binary64) : x.neg.value = -x.value := by
  unfold value neg
  cases x.negative with
  | true => exact (neg_neg _).symm
  | false => rfl

end Binary64

end RecordFilter
