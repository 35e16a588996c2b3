import Mathlib
import RecordFilter.Proofs.Json.Number
import RecordFilter.Proofs.Number.Rounding
import RecordFilter.Proofs.Token.Shape

/-!
# Numerals and the doubles nearest to them

A numeral stands for a rational number. Its double is the rounded quotient of two natural numbers
in every case (`exists_ratio`), also where its exponent alone decides the matter, so it is finite
exactly if the numeral is within reach, and then nearest to it.

Which texts are numerals is said by a grammar (`Spells`): a sign, digits with at most one point and
an exponent. `ofText?_eq_some_iff` says that the reader accepts these and no others. The numerals
among the tokens have no sign and no exponent, and are worth what their digits in front of the
point and behind it say (`decimalValue`).
-/

namespace RecordFilter

open Json (IsRow)

namespace Numeral

open Binary64 (units unitsPerOne infinity nearest reach RoundsTo)

/-! ## Values -/

/-- What a numeral without its sign stands for. -/
def size (n : Numeral) : ℚ := n.digits * 10 ^ n.exponent

/-- What a numeral stands for. -/
def value (n : Numeral) : ℚ :=
  if n.negative then -n.size else n.size

theorem size_nonneg (n : Numeral) : 0 ≤ n.size := by
  unfold size
  positivity

theorem abs_value (n : Numeral) : |n.value| = n.size := by
  unfold value
  split_ifs
  · rw [abs_neg, abs_of_nonneg n.size_nonneg]
  · exact abs_of_nonneg n.size_nonneg

theorem cast_tenTo (count : Nat) : (tenTo count : ℚ) = 10 ^ count := by
  rw [tenTo, Nat.pow_eq]
  norm_cast

/-- A numeral is the quotient of two natural numbers. -/
theorem size_eq_div (n : Numeral) :
    n.size = (n.digits * tenTo n.exponent.toNat : Nat) / (tenTo (-n.exponent).toNat : Nat) := by
  rw [size, Nat.cast_mul, cast_tenTo, cast_tenTo]
  rcases Int.le_total 0 n.exponent with h | h
  · obtain ⟨count, hcount⟩ := Int.eq_ofNat_of_zero_le h
    have hzero : (-(count : ℤ)).toNat = 0 := by omega
    rw [hcount, Int.toNat_natCast, hzero, pow_zero, div_one, zpow_natCast]
  · obtain ⟨count, hcount⟩ := Int.eq_ofNat_of_zero_le (Int.neg_nonneg_of_nonpos h)
    have hexponent : n.exponent = -(count : ℤ) := by omega
    have hzero : (-(count : ℤ)).toNat = 0 := by omega
    rw [hcount, hexponent, Int.toNat_natCast, hzero, pow_zero, mul_one, zpow_neg, zpow_natCast,
      div_eq_mul_inv]

/-! ## The nearest double -/

theorem tenTo_le {a b : Nat} (h : a ≤ b) : tenTo a ≤ tenTo b := Nat.pow_le_pow_right (by decide) h

theorem tenTo_add (a b : Nat) : tenTo (a + b) = tenTo a * tenTo b := Nat.pow_add 10 a b

/-- A power of two below one of ten stays below it when both are taken to the same power. -/
theorem twoTo_mul_le {binary decimal : Nat} (h : twoTo binary ≤ tenTo decimal) (count : Nat) :
    twoTo (binary * count) ≤ tenTo (decimal * count) := by
  calc twoTo (binary * count) = Nat.pow (twoTo binary) count := Nat.pow_mul 2 binary count
    _ ≤ Nat.pow (tenTo decimal) count := Nat.pow_le_pow_left h count
    _ = tenTo (decimal * count) := (Nat.pow_mul 10 decimal count).symm

/-- A whole number other than zero with an exponent that large is out of reach. -/
theorem reach_le_of_huge {digits count : Nat} (hne : digits ≠ 0) (hcount : 310 ≤ count) :
    reach ≤ ((digits * tenTo count : Nat) : ℚ) := by
  have hpower : twoTo 1024 ≤ tenTo count := by
    calc twoTo 1024 ≤ twoTo (205 * 5) := twoTo_le (by decide)
      _ ≤ tenTo (62 * 5) := twoTo_mul_le (by decide) 5
      _ ≤ tenTo count := tenTo_le hcount
  have hdigits : twoTo 1024 ≤ digits * tenTo count :=
    hpower.trans (Nat.le_mul_of_pos_left _ (Nat.pos_of_ne_zero hne))
  calc reach ≤ (2 : ℚ) ^ 1024 := sub_le_self _ (by positivity)
    _ = twoTo 1024 := (cast_twoTo 1024).symm
    _ ≤ ((digits * tenTo count : Nat) : ℚ) := Nat.cast_le.mpr hdigits

/-- A quotient with that few digits in front of the last ones rounds to zero. -/
theorem nearest_of_tiny {digits count : Nat} (hcount : digitCount digits + 330 ≤ count) :
    nearest digits (tenTo count) = 0 := by
  have hdigits : digits < tenTo (digitCount digits) :=
    (Nat.length_toDigits_le_iff (by decide) Nat.length_toDigits_pos).mp (Nat.le_refl _)
  have hpower : 2 * unitsPerOne ≤ tenTo 330 := by
    calc 2 * unitsPerOne = twoTo (1074 + 1) := by rw [twoTo_succ, Nat.mul_comm, unitsPerOne]
      _ ≤ twoTo (180 * 6) := twoTo_le (by decide)
      _ ≤ tenTo (55 * 6) := twoTo_mul_le (by decide) 6
  have hscaled : 2 * (digits * unitsPerOne) < tenTo count := by
    calc 2 * (digits * unitsPerOne) = digits * (2 * unitsPerOne) := by ring
      _ < tenTo (digitCount digits) * tenTo 330 :=
        Nat.mul_lt_mul_of_lt_of_le hdigits hpower (tenTo_pos 330)
      _ = tenTo (digitCount digits + 330) := (tenTo_add _ _).symm
      _ ≤ tenTo count := tenTo_le hcount
  have hunits : units 0 + units (0 + 1) = 1 := by decide
  have hzero : 0 < nearest digits (tenTo count) ↔ _ :=
    Binary64.lt_nearest_iff_units (tenTo_pos count) (by decide)
  rw [hunits, Nat.one_mul] at hzero
  omega

/-- The double of a numeral is the rounded quotient that the numeral is. -/
theorem toBinary64_eq_ofRatio (n : Numeral) :
    n.toBinary64 = .ofRatio n.negative (n.digits * tenTo n.exponent.toNat)
      (tenTo (-n.exponent).toNat) := by
  obtain ⟨negative, digits, exponent⟩ := n
  refine Binary64.eq_of_parts (negative_toBinary64 _) ?_
  show (toBinary64 ⟨negative, digits, exponent⟩).magnitude
    = nearest (digits * tenTo exponent.toNat) (tenTo (-exponent).toNat)
  rcases eq_or_ne digits 0 with rfl | hne
  · have hzero : 0 * unitsPerOne = units 0 * tenTo (-exponent).toNat := by
      rw [Nat.zero_mul, Binary64.units_zero, Nat.zero_mul]
    rw [Nat.zero_mul, Binary64.nearest_of_units (tenTo_pos _) hzero]
    rfl
  rcases Int.le_total 0 exponent with hnonneg | hneg
  · have hplaces : (-exponent).toNat = 0 := by omega
    rw [hplaces, tenTo_zero]
    rcases lt_or_ge exponent hugeExponent with hsmall | hhuge
    · exact magnitude_toBinary64_of_nonneg hne hnonneg hsmall
    -- the exponent alone decides, and the quotient is out of reach indeed
    · have hcount : 310 ≤ exponent.toNat := by
        unfold hugeExponent at hhuge
        omega
      have hreach := reach_le_of_huge hne hcount
      have hfinite : nearest (digits * tenTo exponent.toNat) 1 < infinity ↔ _ :=
        Binary64.nearest_lt_infinity_iff Nat.one_pos
      rw [Nat.cast_one, div_one] at hfinite
      have hinfinity : infinity ≤ nearest (digits * tenTo exponent.toNat) 1 :=
        Nat.le_of_not_lt (hfinite.not.mpr (not_lt.mpr hreach))
      rw [toBinary64, if_neg hne, if_pos hhuge]
      exact Nat.le_antisymm hinfinity (Nat.min_le_right _ _)
  · rcases hneg.eq_or_lt with rfl | hneg
    · exact magnitude_toBinary64_of_nonneg hne le_rfl (by decide)
    · have hplaces : exponent.toNat = 0 := by omega
      rw [hplaces, tenTo_zero, Nat.mul_one]
      rcases lt_or_ge tinyExponent (exponent + digitCount digits) with hlarge | htiny
      · exact magnitude_toBinary64_of_neg hne hneg hlarge
      · have hhuge : ¬hugeExponent ≤ exponent := by
          unfold hugeExponent
          omega
        rw [toBinary64, if_neg hne, if_neg hhuge, if_pos htiny, nearest_of_tiny]
        unfold tinyExponent at htiny
        omega

/-- The double of a numeral is finite exactly if the numeral is within reach. -/
theorem isFinite_toBinary64_iff (n : Numeral) :
    n.toBinary64.isFinite = true ↔ |n.value| < reach := by
  rw [Binary64.isFinite_iff, abs_value, size_eq_div, toBinary64_eq_ofRatio]
  exact Binary64.nearest_lt_infinity_iff (tenTo_pos _)

/-- A numeral within reach rounds to its double. -/
theorem roundsTo_toBinary64 {n : Numeral} (h : |n.value| < reach) :
    RoundsTo n.value n.toBinary64 := by
  rw [abs_value, size_eq_div] at h
  rw [value, size_eq_div, toBinary64_eq_ofRatio]
  exact Binary64.roundsTo_ofRatio n.negative (tenTo_pos _) h

/-! ## Which texts are numerals -/

/-- A sign, perhaps none, and whether it is a minus. -/
inductive SpellsSign : List Char → Bool → Prop where
  | none : SpellsSign [] false
  | plus : SpellsSign ['+'] false
  | minus : SpellsSign ['-'] true

/-- An exponent, perhaps none. -/
inductive SpellsExponent : List Char → ℤ → Prop where
  | none : SpellsExponent [] 0
  | some {letter : Char} {sign row : List Char} {negative : Bool}
    (hletter : letter = 'e' ∨ letter = 'E') (hsign : SpellsSign sign negative)
    (hrow : IsRow row) :
    SpellsExponent (letter :: (sign ++ row))
      (if negative then -(ofDigits row : ℤ) else ofDigits row)

/-- The texts of numerals: a sign, digits, perhaps with a point in front of them, among them or
behind them, and an exponent. -/
inductive Spells : List Char → Numeral → Prop where
  | whole {sign row scale : List Char} {negative : Bool} {exponent : ℤ}
    (hsign : SpellsSign sign negative) (hrow : IsRow row)
    (hscale : SpellsExponent scale exponent) :
    Spells (sign ++ (row ++ scale)) ⟨negative, ofDigits row, exponent⟩
  | pointed {sign before after scale : List Char} {negative : Bool} {exponent : ℤ}
    (hsign : SpellsSign sign negative) (hdigits : IsRow (before ++ after))
    (hscale : SpellsExponent scale exponent) :
    Spells (sign ++ (before ++ '.' :: (after ++ scale)))
      ⟨negative, ofDigits (before ++ after), exponent - after.length⟩

section Parts

variable {sign scale row rest text : List Char} {negative : Bool} {exponent : ℤ}

theorem readSign_append (hsign : SpellsSign sign negative)
    (hrest : ∀ c ∈ rest.head?, c ≠ '-' ∧ c ≠ '+') : readSign (sign ++ rest) = (negative, rest) := by
  cases hsign with
  | plus => rfl
  | minus => rfl
  | none =>
    rw [List.nil_append]
    unfold readSign
    split
    · exact absurd rfl (hrest '-' rfl).1
    · exact absurd rfl (hrest '+' rfl).2
    · rfl

theorem readSign_cases (text : List Char) :
    ∃ sign negative rest, readSign text = (negative, rest) ∧ SpellsSign sign negative
      ∧ text = sign ++ rest := by
  unfold readSign
  split
  · exact ⟨['-'], _, _, rfl, .minus, rfl⟩
  · exact ⟨['+'], _, _, rfl, .plus, rfl⟩
  · exact ⟨[], _, _, rfl, .none, rfl⟩

theorem not_sign_of_isDigit {c : Char} (h : c.isDigit = true) : c ≠ '-' ∧ c ≠ '+' := by
  constructor
  · rintro rfl
    cases h
  · rintro rfl
    cases h

theorem readExponent?_eq_some_iff :
    readExponent? scale = some exponent ↔ SpellsExponent scale exponent := by
  constructor
  · intro h
    unfold readExponent? at h
    split at h
    · obtain rfl := Option.some.inj h
      exact .none
    · next letter rest =>
      split at h
      · next hletter =>
        obtain ⟨sign, negative, row, hread, hsign, rfl⟩ := readSign_cases rest
        simp only [hread] at h
        split at h
        · cases h
        · next hrow =>
          obtain rfl := Option.some.inj h
          simp only [Bool.or_eq_true, List.isEmpty_iff, Bool.not_eq_true', not_or,
            Bool.not_eq_false, List.all_eq_true] at hrow
          exact .some hletter hsign hrow
      · cases h
  · intro h
    cases h with
    | none => rfl
    | @some letter sign row negative hletter hsign hrow =>
      have hread : readSign (sign ++ row) = (negative, row) :=
        readSign_append hsign fun c hc => not_sign_of_isDigit (hrow.2 c (List.mem_of_mem_head? hc))
      have hdigits : (row.isEmpty || !row.all Char.isDigit) = false := by
        simp [hrow.1, List.all_eq_true.mpr hrow.2]
      simp only [readExponent?, if_pos hletter, hread, hdigits, Bool.false_eq_true, if_false]

/-- An exponent does not begin like digits or a point. -/
theorem SpellsExponent.head (h : SpellsExponent scale exponent) :
    ∀ c ∈ scale.head?, c.isDigit = false ∧ c ≠ '.' := by
  intro c hc
  cases h with
  | none => cases hc
  | some hletter =>
    obtain rfl := Option.mem_some.mp hc
    rcases hletter with rfl | rfl <;> decide

theorem takeWhile_isDigit_append (hrow : ∀ c ∈ row, c.isDigit = true)
    (hrest : ∀ c ∈ rest.head?, c.isDigit = false) :
    (row ++ rest).takeWhile Char.isDigit = row ∧ (row ++ rest).dropWhile Char.isDigit = rest := by
  rw [List.takeWhile_append_of_pos hrow, List.dropWhile_append_of_pos hrow]
  cases rest with
  | nil => exact ⟨List.append_nil _, rfl⟩
  | cons c rest => simp [hrest c rfl]

theorem readMantissa_whole (hrow : ∀ c ∈ row, c.isDigit = true)
    (hrest : ∀ c ∈ rest.head?, c.isDigit = false ∧ c ≠ '.') :
    readMantissa (row ++ rest) = (row, [], rest) := by
  obtain ⟨htake, hdrop⟩ := takeWhile_isDigit_append hrow fun c hc => (hrest c hc).1
  unfold readMantissa
  rw [htake, hdrop]
  dsimp only
  split
  · exact absurd rfl (hrest '.' rfl).2
  · rfl

theorem readMantissa_pointed {after : List Char} (hrow : ∀ c ∈ row, c.isDigit = true)
    (hafter : ∀ c ∈ after, c.isDigit = true) (hrest : ∀ c ∈ rest.head?, c.isDigit = false) :
    readMantissa (row ++ '.' :: (after ++ rest)) = (row, after, rest) := by
  have hpoint : ∀ c ∈ ('.' :: (after ++ rest)).head?, c.isDigit = false := by
    intro c hc
    obtain rfl := Option.mem_some.mp hc
    rfl
  obtain ⟨htake, hdrop⟩ := takeWhile_isDigit_append hrow hpoint
  obtain ⟨htake', hdrop'⟩ := takeWhile_isDigit_append hafter hrest
  simp only [readMantissa, htake, hdrop, htake', hdrop']

theorem isDigit_of_mem_takeWhile {c : Char} (h : c ∈ text.takeWhile Char.isDigit) :
    c.isDigit = true :=
  List.mem_takeWhile_imp h

/-- The parts of a mantissa stand in the text one behind the other, the point between them if
there is a second one. -/
theorem readMantissa_cases (text : List Char) :
    ∃ whole fraction rest, readMantissa text = (whole, fraction, rest)
      ∧ (∀ c ∈ whole ++ fraction, c.isDigit = true)
      ∧ (fraction = [] ∧ text = whole ++ rest ∨ text = whole ++ '.' :: (fraction ++ rest)) := by
  have hsplit := List.takeWhile_append_dropWhile (p := Char.isDigit) (l := text)
  unfold readMantissa
  dsimp only
  split
  · next more hmore =>
    refine ⟨_, _, _, rfl, fun c hc => ?_, Or.inr ?_⟩
    · exact (List.mem_append.mp hc).elim isDigit_of_mem_takeWhile isDigit_of_mem_takeWhile
    · rw [List.takeWhile_append_dropWhile, ← hmore, hsplit]
  · refine ⟨_, _, _, rfl, fun c hc => ?_, Or.inl ⟨rfl, hsplit.symm⟩⟩
    rw [List.append_nil] at hc
    exact isDigit_of_mem_takeWhile hc

end Parts

/-- What is read of a text is spelled by it. -/
theorem spells_of_ofText? {text : List Char} {n : Numeral} (h : ofText? text = some n) :
    Spells text n := by
  obtain ⟨sign, negative, unsigned, hread, hsign, rfl⟩ := readSign_cases text
  obtain ⟨whole, fraction, rest, hmantissa, hdigits, hparts⟩ := readMantissa_cases unsigned
  simp only [ofText?, hread, hmantissa] at h
  split at h
  · cases h
  · next hsome =>
    obtain ⟨exponent, hexponent, rfl⟩ := Option.map_eq_some_iff.mp h
    have hscale := readExponent?_eq_some_iff.mp hexponent
    have hrow : IsRow (whole ++ fraction) := by
      refine ⟨fun hnil => hsome ?_, hdigits⟩
      obtain ⟨rfl, rfl⟩ := List.append_eq_nil_iff.mp hnil
      rfl
    rcases hparts with ⟨rfl, rfl⟩ | rfl
    · rw [List.append_nil] at hrow ⊢
      rw [List.length_nil, Nat.cast_zero, sub_zero]
      exact .whole hsign hrow hscale
    · exact .pointed hsign hrow hscale

/-- A sign is taken off what does not begin with one. -/
theorem readSign_of_spells {sign unsigned : List Char} {negative : Bool}
    (hsign : SpellsSign sign negative)
    (hunsigned : ∀ c ∈ unsigned.head?, c.isDigit = true ∨ c = '.') :
    readSign (sign ++ unsigned) = (negative, unsigned) := by
  refine readSign_append hsign fun c hc => ?_
  rcases hunsigned c hc with hdigit | rfl
  · exact not_sign_of_isDigit hdigit
  · decide

/-- What a text spells is read of it. -/
theorem ofText?_of_spells {text : List Char} {n : Numeral} (h : Spells text n) :
    ofText? text = some n := by
  cases h with
  | @whole sign row scale negative exponent hsign hrow hscale =>
    have hread : readSign (sign ++ (row ++ scale)) = (negative, row ++ scale) := by
      refine readSign_of_spells hsign fun c hc => Or.inl ?_
      rw [List.head?_append_of_ne_nil _ hrow.1] at hc
      exact hrow.2 c (List.mem_of_mem_head? hc)
    have hne : (row.isEmpty && List.isEmpty ([] : List Char)) = false := by simp [hrow.1]
    simp only [ofText?, hread, readMantissa_whole hrow.2 hscale.head, hne, Bool.false_eq_true,
      if_false, readExponent?_eq_some_iff.mpr hscale, Option.map_some, List.append_nil,
      List.length_nil, Nat.cast_zero, sub_zero]
  | @pointed sign before after scale negative exponent hsign hdigits hscale =>
    have hbefore : ∀ c ∈ before, c.isDigit = true := fun c hc =>
      hdigits.2 c (List.mem_append_left _ hc)
    have hafter : ∀ c ∈ after, c.isDigit = true := fun c hc =>
      hdigits.2 c (List.mem_append_right _ hc)
    have hread : readSign (sign ++ (before ++ '.' :: (after ++ scale)))
        = (negative, before ++ '.' :: (after ++ scale)) := by
      refine readSign_of_spells hsign fun c hc => ?_
      cases before with
      | nil => exact Or.inr (Option.mem_some.mp hc).symm
      | cons d before => exact Or.inl (hbefore c (List.mem_of_mem_head? hc))
    have hne : (before.isEmpty && after.isEmpty) = false := by
      rw [Bool.and_eq_false_iff, List.isEmpty_eq_false_iff, List.isEmpty_eq_false_iff,
        ← not_and_or]
      exact fun hnil => hdigits.1 (List.append_eq_nil_iff.mpr hnil)
    simp only [ofText?, hread,
      readMantissa_pointed hbefore hafter fun c hc => (hscale.head c hc).1,
      hne, Bool.false_eq_true, if_false, readExponent?_eq_some_iff.mpr hscale, Option.map_some]

/-- The reader accepts the texts of numerals, and no others. -/
theorem ofText?_eq_some_iff {text : List Char} {n : Numeral} :
    ofText? text = some n ↔ Spells text n :=
  ⟨spells_of_ofText?, ofText?_of_spells⟩

theorem Spells.unique {text : List Char} {n m : Numeral} (hn : Spells text n)
    (hm : Spells text m) : n = m := by
  rw [← ofText?_eq_some_iff] at hn hm
  exact Option.some.inj (hn.symm.trans hm)

end Numeral

/-- A text is read as the double that its numeral rounds to, if that is within reach, and not at
all otherwise. -/
theorem Binary64.ofText?_eq_some_iff {text : List Char} {x : Binary64} :
    ofText? text = some x ↔
      ∃ n, Numeral.Spells text n ∧ RoundsTo n.value x ∧ x.negative = n.negative := by
  have hread : ofText? text = some x
      ↔ ∃ n, Numeral.Spells text n ∧ n.toBinary64.isFinite = true ∧ n.toBinary64 = x := by
    unfold ofText?
    split
    · next n hn =>
      have hspells := Numeral.ofText?_eq_some_iff.mp hn
      rw [Option.ite_none_right_eq_some]
      constructor
      · rintro ⟨hfinite, hx⟩
        exact ⟨n, hspells, hfinite, Option.some.inj hx⟩
      · rintro ⟨other, hother, hfinite, hx⟩
        rw [← Numeral.ofText?_eq_some_iff, hn] at hother
        obtain rfl := Option.some.inj hother
        exact ⟨hfinite, congrArg some hx⟩
    · next hnone =>
      refine iff_of_false (by simp) ?_
      rintro ⟨n, hn, -⟩
      rw [← Numeral.ofText?_eq_some_iff, hnone] at hn
      cases hn
  rw [hread]
  refine exists_congr fun n => and_congr_right fun _ => ?_
  rw [Numeral.isFinite_toBinary64_iff]
  constructor
  · rintro ⟨hreach, rfl⟩
    exact ⟨Numeral.roundsTo_toBinary64 hreach, Numeral.negative_toBinary64 n⟩
  · rintro ⟨hrounds, hsign⟩
    refine ⟨hrounds.within, (Numeral.roundsTo_toBinary64 hrounds.within).unique hrounds ?_⟩
    rw [Numeral.negative_toBinary64, hsign]

/-- A text is not read at all exactly if no numeral within reach is spelled by it. -/
theorem Binary64.ofText?_eq_none_iff {text : List Char} :
    ofText? text = none ↔ ∀ n, Numeral.Spells text n → reach ≤ |n.value| := by
  unfold ofText?
  split
  · next n hn =>
    have hspells := Numeral.ofText?_eq_some_iff.mp hn
    rw [ite_eq_right_iff, imp_iff_not (Option.some_ne_none _), Numeral.isFinite_toBinary64_iff,
      not_lt]
    constructor
    · intro hreach other hother
      rwa [hother.unique hspells]
    · exact fun hall => hall n hspells
  · next hnone =>
    refine iff_of_true rfl fun n hn => ?_
    rw [← Numeral.ofText?_eq_some_iff, hnone] at hn
    cases hn

/-- A text that is read as a number stands for one. -/
theorem Binary64.isNaN_of_ofText? {text : List Char} {x : Binary64} (h : ofText? text = some x) :
    x.isNaN = false := by
  obtain ⟨n, -, hrounds, -⟩ := ofText?_eq_some_iff.mp h
  exact isNaN_of_isFinite hrounds.finite

/-! ## Words instead of numerals -/

/-- A text that reads as infinity or as no number: one of three words in any casing, perhaps behind
a sign. -/
def IsSpecialWord (text : List Char) : Prop :=
  ∃ sign negative word, Numeral.SpellsSign sign negative ∧ text = sign ++ word
    ∧ String.ofList (word.map Char.toLower) ∈ ["inf", "infinity", "nan"]

theorem toLower_of_isDigit {c : Char} (h : c.isDigit = true) : c.toLower = c := by
  have hcode := Lexeme.isDigit_iff.mp h
  have hupper : ¬(c.val ≥ 'A'.val ∧ c.val ≤ 'Z'.val) := by
    rw [ge_iff_le, UInt32.le_iff_toNat_le]
    show ¬(65 ≤ c.toNat ∧ _)
    omega
  rw [Char.toLower, dif_neg hupper]

/-- The words begin with letters. -/
theorem IsSpecialWord.head {word : List Char}
    (h : String.ofList (word.map Char.toLower) ∈ ["inf", "infinity", "nan"]) :
    ∀ c ∈ word.head?, c.isDigit = false ∧ c ≠ '.' ∧ c ≠ '-' ∧ c ≠ '+' := by
  intro c hc
  have hlower : c.toLower = 'i' ∨ c.toLower = 'n' := by
    have hhead : c.toLower ∈ (String.ofList (word.map Char.toLower)).toList.head? := by
      rw [String.toList_ofList, List.head?_map, Option.mem_def.mp hc]
      rfl
    simp only [List.mem_cons, List.not_mem_nil, or_false] at h
    rcases h with h | h | h <;> rw [h] at hhead
    · exact Or.inl (Option.mem_some.mp hhead).symm
    · exact Or.inl (Option.mem_some.mp hhead).symm
    · exact Or.inr (Option.mem_some.mp hhead).symm
  refine ⟨?_, ?_, ?_, ?_⟩
  · rw [← Bool.not_eq_true]
    intro hdigit
    rw [toLower_of_isDigit hdigit] at hlower
    rcases hlower with rfl | rfl <;> cases hdigit
  all_goals
    rintro rfl
    exact absurd hlower (by decide)

/-- No numeral is spelled by such a word. -/
theorem IsSpecialWord.not_spells {text : List Char} (h : IsSpecialWord text) (n : Numeral) :
    ¬Numeral.Spells text n := by
  obtain ⟨sign, negative, word, hsign, rfl, hword⟩ := h
  have hhead := IsSpecialWord.head hword
  have hread := Numeral.readSign_append hsign fun c hc => (hhead c hc).2.2
  have hmantissa : Numeral.readMantissa ([] ++ word) = ([], [], word) :=
    Numeral.readMantissa_whole nofun fun c hc => ⟨(hhead c hc).1, (hhead c hc).2.1⟩
  rw [List.nil_append] at hmantissa
  rw [← Numeral.ofText?_eq_some_iff]
  simp [Numeral.ofText?, hread, hmantissa]

/-! ## The numerals among the tokens -/

/-- What digits with a point are worth: those in front of the point count whole, those behind it
as parts of a power of ten. -/
def decimalValue (text : List Char) : ℚ :=
  let whole := text.takeWhile (· != '.')
  let fraction := (text.dropWhile (· != '.')).tail
  Numeral.ofDigits whole + Numeral.ofDigits fraction / 10 ^ fraction.length

theorem decimalValue_nonneg (text : List Char) : 0 ≤ decimalValue text := by
  unfold decimalValue
  positivity

section Tokens

variable {text before after : List Char}

theorem decimalValue_whole (h : '.' ∉ text) : decimalValue text = Numeral.ofDigits text := by
  have hall : ∀ c ∈ text, (c != '.') = true := fun c hc => by
    rw [bne_iff_ne]
    rintro rfl
    exact h hc
  have htake : text.takeWhile (· != '.') = text := List.takeWhile_eq_self_iff.mpr hall
  have hdrop : text.dropWhile (· != '.') = [] := List.dropWhile_eq_nil_iff.mpr hall
  have hzero : (Numeral.ofDigits [] : ℚ) = 0 := Nat.cast_zero
  rw [decimalValue, htake, hdrop]
  dsimp only [List.tail_nil]
  rw [hzero, zero_div, add_zero]

theorem decimalValue_pointed (h : '.' ∉ before) :
    decimalValue (before ++ '.' :: after)
      = Numeral.ofDigits before + Numeral.ofDigits after / 10 ^ after.length := by
  have hall : ∀ c ∈ before, (c != '.') = true := fun c hc => by
    rw [bne_iff_ne]
    rintro rfl
    exact h hc
  rw [decimalValue, List.takeWhile_append_of_pos hall, List.dropWhile_append_of_pos hall]
  simp

theorem ofDigits_append_eq (before after : List Char) :
    Numeral.ofDigits (before ++ after)
      = 10 ^ after.length * Numeral.ofDigits before + Numeral.ofDigits after := by
  rw [Numeral.ofDigits_append, Nat.ofDigitChars_eq_ofDigitChars_zero]
  rfl

/-- The numeral that a number token spells is worth what its digits say. -/
theorem IsNumeral.exists_spells (h : IsNumeral text) :
    ∃ n, Numeral.Spells text n ∧ n.negative = false ∧ n.value = decimalValue text := by
  by_cases hpoint : '.' ∈ text
  · obtain ⟨before, after, rfl, hbefore⟩ := List.eq_append_cons_of_mem hpoint
    have hcount := h.points
    rw [List.count_append, List.count_cons_self, List.count_eq_zero_of_not_mem hbefore] at hcount
    have hafter : '.' ∉ after := List.count_eq_zero.mp (by omega)
    have hne : before ≠ [] := by
      rintro rfl
      obtain ⟨c, hc, hdigit⟩ := h.first
      obtain rfl := Option.mem_some.mp hc
      cases hdigit
    have hdigits : IsRow (before ++ after) := by
      refine ⟨List.append_ne_nil_of_left_ne_nil hne after, fun c hc => ?_⟩
      have hmem : c ∈ before ++ '.' :: after ∧ c ≠ '.' := by
        rcases List.mem_append.mp hc with hc | hc
        · exact ⟨List.mem_append_left _ hc, fun heq => hbefore (heq ▸ hc)⟩
        · exact ⟨List.mem_append_right _ (List.mem_cons_of_mem _ hc), fun heq => hafter (heq ▸ hc)⟩
      exact (h.chars c hmem.1).resolve_right hmem.2
    have hspells := Numeral.Spells.pointed .none hdigits .none
    rw [List.nil_append, List.append_nil] at hspells
    refine ⟨_, hspells, rfl, ?_⟩
    have hpower : (10 : ℚ) ^ after.length ≠ 0 := by positivity
    rw [decimalValue_pointed hbefore]
    show ((Numeral.ofDigits (before ++ after) : Nat) : ℚ) * 10 ^ (0 - (after.length : ℤ)) = _
    rw [zero_sub, zpow_neg, zpow_natCast, ofDigits_append_eq]
    push_cast
    field_simp
  · have hrow : IsRow text := ⟨h.ne_nil, fun c hc =>
      (h.chars c hc).resolve_right fun heq => hpoint (heq ▸ hc)⟩
    have hspells := Numeral.Spells.whole .none hrow .none
    rw [List.nil_append, List.append_nil] at hspells
    refine ⟨_, hspells, rfl, ?_⟩
    rw [decimalValue_whole hpoint]
    show ((Numeral.ofDigits text : Nat) : ℚ) * 10 ^ (0 : ℤ) = _
    rw [zpow_zero, mul_one]

/-- A number token is read as the double that is nearest to its digits. -/
theorem IsNumeral.ofText?_eq_some_iff (h : IsNumeral text) {x : Binary64} :
    Binary64.ofText? text = some x ↔
      Binary64.RoundsTo (decimalValue text) x ∧ x.negative = false := by
  obtain ⟨n, hspells, hsign, hvalue⟩ := h.exists_spells
  rw [Binary64.ofText?_eq_some_iff, ← hvalue, ← hsign]
  constructor
  · rintro ⟨other, hother, hx⟩
    rwa [hspells.unique hother]
  · exact fun hx => ⟨n, hspells, hx⟩

/-- A number token is out of reach exactly if its digits are. -/
theorem IsNumeral.ofText?_eq_none_iff (h : IsNumeral text) :
    Binary64.ofText? text = none ↔ Binary64.reach ≤ decimalValue text := by
  obtain ⟨n, hspells, -, hvalue⟩ := h.exists_spells
  have habs : |n.value| = decimalValue text := by
    rw [hvalue, abs_of_nonneg (decimalValue_nonneg text)]
  rw [Binary64.ofText?_eq_none_iff, ← habs]
  constructor
  · exact fun hall => hall n hspells
  · intro hreach other hother
    rwa [hother.unique hspells]

end Tokens

end RecordFilter
