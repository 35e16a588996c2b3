import Mathlib
import RecordFilter.Number.Shortest

/-!
# The digits of a double read back

A quotient that is the exact value of a finite double rounds to this double
(`nearest_of_units`). So the exact decimal of a double reads back as the double, and with it
whatever the search for the shortest digits comes up with (`shortest_readsAs`).
-/

namespace RecordFilter

theorem twoTo_pos (n : Nat) : 0 < twoTo n := Nat.two_pow_pos n

theorem tenTo_pos (n : Nat) : 0 < tenTo n := Nat.pow_pos (by decide)

namespace Binary64

theorem eq_of_parts {x y : Binary64} (hsign : x.negative = y.negative)
    (hmagnitude : x.magnitude = y.magnitude) : x = y := by
  obtain ⟨negative, magnitude, hlt⟩ := x
  obtain ⟨negative', magnitude', hlt'⟩ := y
  simp only at hsign hmagnitude
  subst hsign hmagnitude
  rfl

/-! ## Exact values -/

theorem excess_of_lt {whole : Nat} (h : whole < twoTo 53) : excess whole = 0 := by
  have hlog : whole.log2 < 53 := by
    rcases Nat.eq_zero_or_pos whole with rfl | hpos
    · decide
    · exact (Nat.log2_lt hpos.ne').mpr h
  unfold excess
  omega

theorem excess_mul_twoTo {significand : Nat} (hlow : twoTo 52 ≤ significand)
    (hhigh : significand < twoTo 53) (shift : Nat) :
    excess (significand * twoTo shift) = shift := by
  have hne : significand * twoTo shift ≠ 0 := by
    have := Nat.mul_pos (Nat.lt_of_lt_of_le (twoTo_pos 52) hlow) (twoTo_pos shift)
    omega
  have hlog : (significand * twoTo shift).log2 = 52 + shift := by
    rw [Nat.log2_eq_iff hne]
    constructor
    · rw [Nat.pow_add]
      exact Nat.mul_le_mul_right _ hlow
    · rw [show 52 + shift + 1 = 53 + shift by omega, Nat.pow_add]
      exact Nat.mul_lt_mul_of_pos_right hhigh (twoTo_pos shift)
  unfold excess
  omega

/-- A magnitude is the greatest one whose value is at most its own. -/
theorem magnitudeBelow_units (magnitude : Nat) : magnitudeBelow (units magnitude) = magnitude := by
  unfold units
  split_ifs with hsmall
  · have hexcess : excess magnitude = 0 :=
      excess_of_lt (Nat.lt_trans hsmall (by decide))
    rw [magnitudeBelow, hexcess, twoTo_zero, Nat.zero_mul, Nat.zero_add, Nat.div_one]
  · set quotient := magnitude / twoTo 52 with hquotient
    set rest := magnitude % twoTo 52 with hrest
    have hdecompose : twoTo 52 * quotient + rest = magnitude := Nat.div_add_mod _ _
    have hlt : rest < twoTo 52 := Nat.mod_lt _ (twoTo_pos 52)
    have hpos : 1 ≤ quotient :=
      (Nat.one_le_div_iff (twoTo_pos 52)).mpr (Nat.le_of_not_lt hsmall)
    have hdouble : twoTo 53 = twoTo 52 + twoTo 52 := by decide
    have hexcess : excess ((twoTo 52 + rest) * twoTo (quotient - 1)) = quotient - 1 :=
      excess_mul_twoTo (Nat.le_add_right _ _) (by omega) _
    rw [magnitudeBelow, hexcess, Nat.mul_div_cancel _ (twoTo_pos _)]
    calc (quotient - 1) * twoTo 52 + (twoTo 52 + rest)
        = (quotient - 1 + 1) * twoTo 52 + rest := by rw [Nat.add_mul]; omega
      _ = magnitude := by rw [Nat.sub_add_cancel hpos, Nat.mul_comm, hdecompose]

theorem units_pos {magnitude : Nat} (h : 0 < magnitude) : 0 < units magnitude := by
  unfold units
  split_ifs with hsmall
  · exact h
  · exact Nat.mul_pos (Nat.add_pos_left (twoTo_pos 52) _) (twoTo_pos _)

/-! ## Rounding -/

/-- A quotient that is the value of a magnitude rounds to this magnitude. -/
theorem nearest_of_units {numerator denominator magnitude : Nat} (hpos : 0 < denominator)
    (h : numerator * unitsPerOne = units magnitude * denominator) :
    nearest numerator denominator = min magnitude infinity := by
  have hwhole : numerator * unitsPerOne / denominator = units magnitude := by
    rw [h, Nat.mul_div_cancel _ hpos]
  have hbeyond : 2 * (numerator * unitsPerOne - units magnitude * denominator) = 0 := by
    rw [h, Nat.sub_self]
  have hgap : 0 < twoTo (excess (units magnitude)) * denominator :=
    Nat.mul_pos (twoTo_pos _) hpos
  simp only [nearest, hwhole, magnitudeBelow_units, hbeyond, if_pos hgap]

/-- Rounding a quotient does not depend on how it is written. -/
theorem nearest_mul_right {factor : Nat} (hpos : 0 < factor) (numerator denominator : Nat) :
    nearest (numerator * factor) (denominator * factor) = nearest numerator denominator := by
  have hscaled : numerator * factor * unitsPerOne = numerator * unitsPerOne * factor :=
    Nat.mul_right_comm _ _ _
  have hwhole : numerator * unitsPerOne * factor / (denominator * factor)
      = numerator * unitsPerOne / denominator := Nat.mul_div_mul_right _ _ hpos
  simp only [nearest, hscaled, hwhole]
  set below := magnitudeBelow (numerator * unitsPerOne / denominator)
  set step := twoTo (excess (numerator * unitsPerOne / denominator))
  have hbeyond : 2 * (numerator * unitsPerOne * factor - units below * (denominator * factor))
      = 2 * (numerator * unitsPerOne - units below * denominator) * factor := by
    rw [← Nat.mul_assoc (units below), ← Nat.sub_mul, Nat.mul_assoc]
  have hgap : step * (denominator * factor) = step * denominator * factor :=
    (Nat.mul_assoc _ _ _).symm
  rw [hbeyond, hgap]
  simp only [Nat.mul_lt_mul_right hpos]

end Binary64

/-! ## Numerals -/

namespace Numeral

open Binary64 (units unitsPerOne infinity nearest)

/-- The sign of a numeral is the sign of its double and decides nothing else. -/
theorem toBinary64_sign (negative : Bool) (digits : Nat) (exponent : Int) :
    toBinary64 ⟨negative, digits, exponent⟩
      = { toBinary64 ⟨false, digits, exponent⟩ with negative := negative } := by
  unfold toBinary64 Binary64.ofRatio
  dsimp only
  split_ifs <;> rfl

/-- Between the exponents that decide by their size alone, a numeral with a fraction is rounded
as the quotient that it is. -/
theorem magnitude_toBinary64_of_neg {negative : Bool} {digits : Nat} {exponent : Int}
    (hne : digits ≠ 0) (hneg : exponent < 0) (htiny : tinyExponent < exponent + digitCount digits) :
    (toBinary64 ⟨negative, digits, exponent⟩).magnitude
      = nearest digits (tenTo (-exponent).toNat) := by
  have hhuge : ¬hugeExponent ≤ exponent := by
    unfold hugeExponent
    omega
  have hlow : ¬exponent + digitCount digits ≤ tinyExponent := by omega
  have hsign : ¬0 ≤ exponent := by omega
  simp only [toBinary64, if_neg hne, if_neg hhuge, if_neg hlow, if_neg hsign, Binary64.ofRatio]

theorem magnitude_toBinary64_of_nonneg {negative : Bool} {digits : Nat} {exponent : Int}
    (hne : digits ≠ 0) (hnonneg : 0 ≤ exponent) (hhuge : exponent < hugeExponent) :
    (toBinary64 ⟨negative, digits, exponent⟩).magnitude
      = nearest (digits * tenTo exponent.toNat) 1 := by
  have hhigh : ¬hugeExponent ≤ exponent := by omega
  have hlow : ¬exponent + digitCount digits ≤ tinyExponent := by
    unfold tinyExponent
    omega
  simp only [toBinary64, if_neg hne, if_neg hhigh, if_neg hlow, if_pos hnonneg, Binary64.ofRatio]

theorem negative_toBinary64 (n : Numeral) : n.toBinary64.negative = n.negative := by
  obtain ⟨negative, digits, exponent⟩ := n
  rw [toBinary64_sign]

/-- A whole number may be spelt with a zero behind the point. -/
theorem toBinary64_pointZero {digits : Nat} {exponent : Int} (hne : digits ≠ 0)
    (hnonneg : 0 ≤ exponent) (hhuge : exponent < hugeExponent) (negative : Bool) :
    toBinary64 ⟨negative, digits * tenTo exponent.toNat * 10, -1⟩
      = toBinary64 ⟨negative, digits, exponent⟩ := by
  have hne' : digits * tenTo exponent.toNat * 10 ≠ 0 := by
    have := Nat.mul_pos (Nat.pos_of_ne_zero hne) (tenTo_pos exponent.toNat)
    omega
  have htiny : tinyExponent < -1 + digitCount (digits * tenTo exponent.toNat * 10) := by
    unfold tinyExponent
    omega
  apply Binary64.eq_of_parts
  · rw [negative_toBinary64, negative_toBinary64]
  · rw [magnitude_toBinary64_of_neg hne' (by decide) htiny,
      magnitude_toBinary64_of_nonneg hne hnonneg hhuge]
    exact Binary64.nearest_mul_right (by decide) _ 1

end Numeral

/-! ## The search -/

namespace Binary64

open Numeral (digitCount tinyExponent)

theorem lt_digitCount_mul {count n factor : Nat} (hcount : 0 < count) (hn : 0 < n)
    (h : tenTo count ≤ factor) : count < digitCount (n * factor) := by
  have hle : tenTo count ≤ n * factor := Nat.le_trans h (Nat.le_mul_of_pos_left _ hn)
  exact Nat.lt_of_not_le fun hshort =>
    Nat.not_lt.mpr hle ((Nat.length_toDigits_le_iff (by decide) hcount).mp hshort)

/-- Multiplying by five and by two as often is multiplying by ten. -/
theorem mul_five_mul_two (n count : Nat) : n * Nat.pow 5 count * twoTo count = n * tenTo count := by
  rw [Nat.mul_assoc]
  exact congrArg (n * ·) (Nat.mul_pow 5 2 count).symm

/-- Halving as often as the units ask for is multiplying by five as often and moving the point,
and what results has enough digits not to be taken for zero. -/
theorem readsAs_mul_five {magnitude count : Nat} (hpos : 0 < magnitude)
    (hfinite : magnitude < infinity) (hcount : count = 1074) :
    Decimal.readsAs ⟨units magnitude * Nat.pow 5 count, -(count : Int)⟩ magnitude = true := by
  have hunits : unitsPerOne = twoTo count := by
    rw [hcount]
    rfl
  have hpower : tenTo (count - 330) ≤ Nat.pow 5 count := by
    rw [hcount]
    decide +kernel
  have hne : units magnitude * Nat.pow 5 count ≠ 0 :=
    (Nat.mul_pos (units_pos hpos) (Nat.pow_pos (by decide))).ne'
  have hdigits : count - 330 < digitCount (units magnitude * Nat.pow 5 count) :=
    lt_digitCount_mul (by omega) (units_pos hpos) hpower
  have htiny : tinyExponent < -(count : Int) + digitCount (units magnitude * Nat.pow 5 count) := by
    unfold tinyExponent
    omega
  have hexact : units magnitude * Nat.pow 5 count * unitsPerOne
      = units magnitude * tenTo count := by
    rw [hunits, mul_five_mul_two]
  have hplaces : (-(-(count : Int))).toNat = count := by omega
  rw [Decimal.readsAs, beq_iff_eq, Numeral.magnitude_toBinary64_of_neg hne (by omega) htiny,
    hplaces, nearest_of_units (tenTo_pos count) hexact]
  exact Nat.min_eq_left hfinite.le

/-- The exact value of a finite double reads back as the double. -/
theorem exactDecimal_readsAs {magnitude : Nat} (hpos : 0 < magnitude)
    (hfinite : magnitude < infinity) : (exactDecimal magnitude).readsAs magnitude = true :=
  readsAs_mul_five hpos hfinite rfl

theorem readsAs_of_firstReading {magnitude : Nat} {first second d : Decimal}
    (h : firstReading magnitude first second = some d) : d.readsAs magnitude = true := by
  unfold firstReading at h
  split_ifs at h with hfirst hsecond
  · rwa [← Option.some.inj h]
  · rwa [← Option.some.inj h]

theorem readsAs_of_closestMultiple {magnitude numerator denominator : Nat} {exponent : Int}
    {d : Decimal} (h : closestMultiple magnitude exponent numerator denominator = some d) :
    d.readsAs magnitude = true := by
  unfold closestMultiple at h
  dsimp only at h
  split_ifs at h
  · exact readsAs_of_firstReading h
  · exact readsAs_of_firstReading h

theorem readsAs_of_decimalWith {magnitude count : Nat} {d : Decimal}
    (h : decimalWith magnitude count = some d) : d.readsAs magnitude = true :=
  readsAs_of_closestMultiple h

theorem readsAs_of_search {magnitude : Nat} {d : Decimal} (h : search magnitude = some d) :
    d.readsAs magnitude = true := by
  obtain ⟨count, -, hcount⟩ := List.exists_of_findSome?_eq_some h
  exact readsAs_of_decimalWith hcount

theorem trim_readsAs {magnitude : Nat} {d : Decimal} (h : d.readsAs magnitude = true) :
    (trim magnitude d).readsAs magnitude = true := by
  unfold trim
  dsimp only
  split_ifs with htrimmed
  · exact htrimmed
  · exact h

/-- The digits a finite double is written with read back as the double. -/
theorem shortest_readsAs {magnitude : Nat} (hpos : 0 < magnitude) (hfinite : magnitude < infinity) :
    (shortest magnitude).readsAs magnitude = true := by
  unfold shortest
  cases h : search magnitude with
  | none => exact exactDecimal_readsAs hpos hfinite
  | some d => exact trim_readsAs (readsAs_of_search h)

theorem Decimal.digits_ne_zero {d : Decimal} {magnitude : Nat} (h : d.readsAs magnitude = true)
    (hpos : 0 < magnitude) : d.digits ≠ 0 := by
  intro hzero
  rw [Decimal.readsAs, beq_iff_eq, Numeral.toBinary64, if_pos hzero] at h
  exact hpos.ne h

end Binary64

end RecordFilter
