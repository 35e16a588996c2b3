import Mathlib
import RecordFilter.Json.Reader
import RecordFilter.Proofs.Execution
import RecordFilter.Proofs.Number.Shortest

/-!
# Numbers read back

The text of a number is a sign, a row of digits, perhaps a fraction and perhaps an exponent; a
`Spelling` is the part behind the sign. The reader takes exactly a spelling from the front of a
text that does not go on like a number (`readNumber_text`), so what is left is to say of each
layout of a double which spelling it is, and that the digits stand for the double.
-/

namespace RecordFilter

/-! ## Rows of digits -/

namespace Numeral

theorem ofDigits_append (front back : List Char) :
    ofDigits (front ++ back) = Nat.ofDigitChars 10 back (ofDigits front) :=
  Nat.ofDigitChars_append 0

theorem ofDigits_toDigits (n : Nat) : ofDigits (Nat.toDigits 10 n) = n :=
  Nat.ofDigitChars_toDigits (by decide) (by decide)

end Numeral

namespace Json

open JsonNumber (zeros exponentText decimalText realText integerText)
open Numeral (ofDigits)

/-- Whether a text is a row of digits, at least one. -/
def IsRow (row : List Char) : Prop := row ≠ [] ∧ ∀ c ∈ row, c.isDigit = true

theorem isRow_toDigits (n : Nat) : IsRow (Nat.toDigits 10 n) :=
  ⟨Nat.toDigits_ne_nil, fun _ h => Nat.isDigit_of_mem_toDigits (by decide) (by decide) h⟩

theorem IsRow.append {front back : List Char} (h : IsRow front)
    (hback : ∀ c ∈ back, c.isDigit = true) : IsRow (front ++ back) :=
  ⟨by simp [h.1], fun c hc => (List.mem_append.mp hc).elim (h.2 c) (hback c)⟩

theorem isDigit_of_mem_zeros {c : Char} {count : Nat} (h : c ∈ zeros count) : c.isDigit = true := by
  rw [(List.mem_replicate.mp h).2]
  rfl

/-- The digits of a number other than zero do not begin with a zero. -/
theorem head?_toDigits {n : Nat} (h : n ≠ 0) : (Nat.toDigits 10 n).head? ≠ some '0' := by
  induction n using Nat.strong_induction_on with
  | _ n ih =>
    rcases Nat.lt_or_ge n 10 with hlt | hge
    · rw [Nat.toDigits_of_lt_base hlt]
      interval_cases n <;> simp_all [Nat.digitChar]
    · rw [Nat.toDigits_of_base_le (by decide) hge,
        List.head?_append_of_ne_nil _ Nat.toDigits_ne_nil]
      exact ih (n / 10) (by omega) (by omega)

/-- Zeros in front of a row do not change the number. -/
theorem ofDigits_zeros_append (count : Nat) (row : List Char) :
    ofDigits (zeros count ++ row) = ofDigits row := by
  induction count with
  | zero => rfl
  | succ count ih => exact ih

/-- Zeros behind a row multiply the number by ten. -/
theorem ofDigits_append_zeros (row : List Char) (count : Nat) :
    ofDigits (row ++ zeros count) = ofDigits row * tenTo count := by
  induction count with
  | zero => rw [zeros, List.replicate_zero, List.append_nil, tenTo_zero, Nat.mul_one]
  | succ count ih =>
    have hlast : zeros (count + 1) = zeros count ++ ['0'] := List.replicate_succ'
    rw [hlast, ← List.append_assoc, Numeral.ofDigits_append, ih, tenTo_succ]
    show 10 * (ofDigits row * tenTo count) + 0 = _
    rw [Nat.add_zero, Nat.mul_comm 10, Nat.mul_assoc]

/-! ## Spellings -/

/-- The digits of a number behind its sign. -/
structure Spelling where
  whole : List Char
  fraction : Option (List Char)
  exponent : Option Int
  whole_isRow : IsRow whole
  fraction_isRow : ∀ row ∈ fraction, IsRow row
  zero_alone : whole.head? = some '0' → whole.length = 1

namespace Spelling

variable (s : Spelling) (negative : Bool)

/-- A fraction with its point. -/
def fractionText : Option (List Char) → List Char
  | none => []
  | some row => '.' :: row

/-- An exponent with its letter. -/
def scaleText : Option Int → List Char
  | none => []
  | some exponent => 'e' :: exponentText exponent

/-- The text of a spelling. -/
def text : List Char := s.whole ++ (fractionText s.fraction ++ scaleText s.exponent)

/-- The numeral that a spelling with a sign stands for. -/
def numeral : Numeral :=
  ⟨negative, ofDigits (s.whole ++ s.fraction.getD []),
    s.exponent.getD 0 - (s.fraction.getD []).length⟩

end Spelling

/-- A text behind its sign. -/
def signed (negative : Bool) (unsigned : List Char) : List Char :=
  if negative then '-' :: unsigned else unsigned

theorem signed_append (negative : Bool) (unsigned rest : List Char) :
    signed negative unsigned ++ rest = signed negative (unsigned ++ rest) := by
  cases negative <;> rfl

/-- Whether a text does not go on like a number. -/
def EndsNumber (rest : List Char) : Prop :=
  ∀ c ∈ rest.head?, c.isDigit = false ∧ c ≠ '.' ∧ c ≠ 'e' ∧ c ≠ 'E'

theorem endsNumber_nil : EndsNumber [] := fun _ h => by cases h

/-! ## The parts of a number -/

section

variable {row rest : List Char}

theorem readDigits_append (hrow : IsRow row) (hrest : ∀ c ∈ rest.head?, c.isDigit = false) :
    readDigits (row ++ rest) = .ok (row, rest) := by
  have htake : rest.takeWhile Char.isDigit = [] ∧ rest.dropWhile Char.isDigit = rest := by
    cases rest with
    | nil => exact ⟨rfl, rfl⟩
    | cons c rest => simp [hrest c rfl]
  have hne : row.isEmpty = false := by simpa using hrow.1
  simp only [readDigits, List.takeWhile_append_of_pos hrow.2, List.dropWhile_append_of_pos hrow.2,
    htake.1, htake.2, List.append_nil, hne, Bool.false_eq_true, if_false]

theorem readFraction_none (hrest : ∀ c ∈ rest.head?, c ≠ '.') :
    readFraction rest = .ok (none, rest) := by
  unfold readFraction
  split
  · exact absurd rfl (hrest '.' rfl)
  · rfl

theorem readFraction_some (hrow : IsRow row) (hrest : ∀ c ∈ rest.head?, c.isDigit = false) :
    readFraction ('.' :: (row ++ rest)) = .ok (some row, rest) := by
  rw [readFraction, readDigits_append hrow hrest]
  rfl

theorem readExponent_none (hrest : ∀ c ∈ rest.head?, c ≠ 'e' ∧ c ≠ 'E') :
    readExponent rest = .ok (none, rest) := by
  cases rest with
  | nil => rfl
  | cons c rest => simp [readExponent, hrest c rfl]

theorem readExponent_exponentText (exponent : Int)
    (hrest : ∀ c ∈ rest.head?, c.isDigit = false) :
    readExponent ('e' :: (exponentText exponent ++ rest)) = .ok (some exponent, rest) := by
  have hdigits := readDigits_append (isRow_toDigits exponent.natAbs) hrest
  unfold exponentText
  split_ifs with hneg
  · simp only [readExponent, Numeral.readSign, List.cons_append, true_or, if_true, hdigits]
    show Except.ok (some (-(ofDigits _ : Int)), rest) = _
    rw [Numeral.ofDigits_toDigits]
    congr 3
    omega
  · simp only [readExponent, Numeral.readSign, List.cons_append, true_or, if_true, hdigits]
    show Except.ok (some ((ofDigits _ : Nat) : Int), rest) = _
    rw [Numeral.ofDigits_toDigits]
    congr 3
    omega

end

theorem readFraction_fractionText {fraction : Option (List Char)}
    (hrow : ∀ row ∈ fraction, IsRow row) {rest : List Char}
    (hrest : ∀ c ∈ rest.head?, c.isDigit = false ∧ c ≠ '.') :
    readFraction (Spelling.fractionText fraction ++ rest) = .ok (fraction, rest) := by
  cases fraction with
  | none => exact readFraction_none fun c hc => (hrest c hc).2
  | some row => exact readFraction_some (hrow row rfl) fun c hc => (hrest c hc).1

theorem readExponent_scaleText (exponent : Option Int) {rest : List Char}
    (hrest : EndsNumber rest) :
    readExponent (Spelling.scaleText exponent ++ rest) = .ok (exponent, rest) := by
  cases exponent with
  | none => exact readExponent_none fun c hc => (hrest c hc).2.2
  | some exponent => exact readExponent_exponentText exponent fun c hc => (hrest c hc).1

/-- An exponent does not go on like digits. -/
theorem head?_scaleText (exponent : Option Int) {rest : List Char} (hrest : EndsNumber rest) :
    ∀ c ∈ (Spelling.scaleText exponent ++ rest).head?, c.isDigit = false ∧ c ≠ '.' := by
  intro c hc
  cases exponent with
  | none => exact ⟨(hrest c hc).1, (hrest c hc).2.1⟩
  | some exponent =>
    obtain rfl := Option.mem_some.mp hc
    decide

/-- Neither does a fraction. -/
theorem head?_fractionText (fraction : Option (List Char)) {rest : List Char}
    (hrest : ∀ c ∈ rest.head?, c.isDigit = false) :
    ∀ c ∈ (Spelling.fractionText fraction ++ rest).head?, c.isDigit = false := by
  intro c hc
  cases fraction with
  | none => exact hrest c hc
  | some row =>
    obtain rfl := Option.mem_some.mp hc
    decide

/-- The parts of a spelling are read up to its end. -/
theorem readUnsigned_text (s : Spelling) (negative : Bool) {rest : List Char}
    (hrest : EndsNumber rest) :
    readUnsigned negative (s.text ++ rest)
      = (fun value => (value, rest)) <$> numberOf negative s.whole s.fraction s.exponent := by
  have hscale := head?_scaleText s.exponent hrest
  have hwhole := readDigits_append s.whole_isRow
    (head?_fractionText s.fraction fun c hc => (hscale c hc).1)
  have hfraction := readFraction_fractionText s.fraction_isRow hscale
  have hexponent := readExponent_scaleText s.exponent hrest
  have hzero : ¬(s.whole.head? = some '0' ∧ s.whole.length ≠ 1) := fun h =>
    h.2 (s.zero_alone h.1)
  rw [Spelling.text, List.append_assoc, List.append_assoc]
  rw [readUnsigned, bind_of_ok hwhole]
  dsimp only
  rw [if_neg hzero, bind_of_ok hfraction]
  dsimp only
  rw [bind_of_ok hexponent]
  cases numberOf negative s.whole s.fraction s.exponent <;> rfl

theorem readNumber_signed (negative : Bool) {unsigned : List Char}
    (h : ∀ c ∈ unsigned.head?, c ≠ '-') :
    readNumber (signed negative unsigned) = readUnsigned negative unsigned := by
  cases negative with
  | true => rfl
  | false =>
    show readNumber unsigned = _
    unfold readNumber
    split
    · exact absurd rfl (h '-' rfl)
    · rfl

/-- A spelling with a sign is read up to its end, and stands for what its parts stand for. -/
theorem readNumber_text (s : Spelling) (negative : Bool) {rest : List Char}
    (hrest : EndsNumber rest) :
    readNumber (signed negative s.text ++ rest)
      = (fun value => (value, rest)) <$> numberOf negative s.whole s.fraction s.exponent := by
  -- the first digit is no sign
  have hfirst : ∀ c ∈ (s.text ++ rest).head?, c ≠ '-' := by
    intro c hc
    obtain ⟨hne, hall⟩ := s.whole_isRow
    rw [Spelling.text, List.append_assoc, List.head?_append_of_ne_nil _ hne] at hc
    have hdigit := hall c (List.mem_of_mem_head? hc)
    rintro rfl
    cases hdigit
  rw [signed_append, readNumber_signed negative hfirst, readUnsigned_text s negative hrest]

/-! ## Integers -/

/-- The spelling of a whole number. -/
def Spelling.ofNat (n : Nat) : Spelling where
  whole := Nat.toDigits 10 n
  fraction := none
  exponent := none
  whole_isRow := isRow_toDigits n
  fraction_isRow := fun _ h => by cases h
  zero_alone := by
    intro h
    rcases Nat.eq_zero_or_pos n with rfl | hpos
    · rfl
    · exact absurd h (head?_toDigits hpos.ne')

theorem integerText_eq (n : Int) :
    integerText n = signed (decide (n < 0)) (Spelling.ofNat n.natAbs).text := by
  have htext : (Spelling.ofNat n.natAbs).text = Nat.toDigits 10 n.natAbs := List.append_nil _
  rw [htext, integerText, signed]
  simp only [decide_eq_true_eq]

/-- An integer is read from its text. -/
theorem readNumber_integerText {n : Int} (fits : fitsWord n = true) {rest : List Char}
    (hrest : EndsNumber rest) :
    readNumber (integerText n ++ rest) = .ok (.integer n fits, rest) := by
  have hsize : ofDigits (Spelling.ofNat n.natAbs).whole = n.natAbs :=
    Numeral.ofDigits_toDigits n.natAbs
  have hvalue : (if decide (n < 0) = true then -(n.natAbs : Int) else n.natAbs) = n := by
    by_cases hneg : n < 0
    · rw [if_pos (decide_eq_true hneg)]
      omega
    · rw [if_neg (by simpa using hneg)]
      omega
  have hzero : ¬(decide (n < 0) = true ∧ n.natAbs = 0) := by
    rw [decide_eq_true_eq]
    omega
  have hnumber : numberOf (decide (n < 0)) (Spelling.ofNat n.natAbs).whole none none
      = .ok (.integer n fits) := by
    simp only [numberOf, hsize, hvalue]
    rw [dif_pos ⟨fits, hzero⟩]
  rw [integerText_eq, readNumber_text _ _ hrest]
  show _ <$> numberOf _ _ none none = _
  rw [hnumber]
  rfl

/-! ## Doubles -/

/-- Whether a spelling is one of a double, and stands for what a decimal stands for. -/
structure Spelling.Spells (s : Spelling) (d : Binary64.Decimal) : Prop where
  isReal : s.fraction.isSome = true ∨ s.exponent.isSome = true
  toBinary64 : ∀ negative,
    (s.numeral negative).toBinary64 = Numeral.toBinary64 ⟨negative, d.digits, d.exponent⟩

theorem numberOf_of_isReal {whole : List Char} {fraction : Option (List Char)}
    {exponent : Option Int} (h : fraction.isSome = true ∨ exponent.isSome = true)
    (negative : Bool) :
    numberOf negative whole fraction exponent
      = real (Numeral.toBinary64 ⟨negative, ofDigits (whole ++ fraction.getD []),
          exponent.getD 0 - (fraction.getD []).length⟩) := by
  unfold numberOf
  split
  · simp at h
  · rfl

theorem real_of_isFinite {x : Binary64} (h : x.isFinite = true) : real x = .ok (.real x h) :=
  dif_pos h

section Layouts

variable {d : Binary64.Decimal}

/-- A number with its point behind all digits. -/
theorem exists_spells_whole (hne : d.digits ≠ 0) (hnonneg : 0 ≤ d.exponent)
    (hhuge : d.exponent < Numeral.hugeExponent) :
    ∃ s : Spelling, s.Spells d
      ∧ s.text = Nat.toDigits 10 d.digits ++ zeros d.exponent.toNat ++ ['.', '0'] := by
  refine ⟨⟨Nat.toDigits 10 d.digits ++ zeros d.exponent.toNat, some ['0'], none,
    (isRow_toDigits _).append fun _ => isDigit_of_mem_zeros, ?_, ?_⟩, ⟨Or.inl rfl, ?_⟩, rfl⟩
  · intro row hrow
    obtain rfl := Option.mem_some.mp hrow
    exact isRow_toDigits 0
  · intro hzero
    rw [List.head?_append_of_ne_nil _ Nat.toDigits_ne_nil] at hzero
    exact absurd hzero (head?_toDigits hne)
  · intro negative
    have hdigits : ofDigits (Nat.toDigits 10 d.digits ++ zeros d.exponent.toNat ++ ['0'])
        = d.digits * tenTo d.exponent.toNat * 10 := by
      rw [show ['0'] = zeros 1 from rfl, ofDigits_append_zeros, ofDigits_append_zeros,
        Numeral.ofDigits_toDigits]
      rfl
    rw [← Numeral.toBinary64_pointZero hne hnonneg hhuge, Spelling.numeral]
    dsimp only [Option.getD_some]
    rw [hdigits]
    rfl

/-- A number with its point among the digits. -/
theorem exists_spells_inside (hne : d.digits ≠ 0) (hneg : d.exponent < 0)
    (hplace : 0 < (Nat.toDigits 10 d.digits).length + d.exponent) :
    let place := ((Nat.toDigits 10 d.digits).length + d.exponent).toNat
    ∃ s : Spelling, s.Spells d
      ∧ s.text = (Nat.toDigits 10 d.digits).take place
          ++ '.' :: (Nat.toDigits 10 d.digits).drop place := by
  have hrow := isRow_toDigits d.digits
  have hhead := head?_toDigits hne
  have hvalue := Numeral.ofDigits_toDigits d.digits
  generalize Nat.toDigits 10 d.digits = row at *
  intro place
  have hbelow : place < row.length := by omega
  refine ⟨⟨row.take place, some (row.drop place), none, ⟨?_, ?_⟩, ?_, ?_⟩, ⟨Or.inl rfl, ?_⟩, ?_⟩
  · simp only [ne_eq, List.take_eq_nil_iff, not_or]
    exact ⟨by omega, hrow.1⟩
  · exact fun c hc => hrow.2 c (List.mem_of_mem_take hc)
  · intro back hback
    obtain rfl := Option.mem_some.mp hback
    refine ⟨?_, fun c hc => hrow.2 c (List.mem_of_mem_drop hc)⟩
    rw [ne_eq, List.drop_eq_nil_iff]
    omega
  · intro hzero
    rw [List.head?_take, if_neg (by omega)] at hzero
    exact absurd hzero hhead
  · intro negative
    have hexponent : (0 : Int) - (row.drop place).length = d.exponent := by
      rw [List.length_drop]
      omega
    rw [Spelling.numeral]
    dsimp only [Option.getD_some, Option.getD_none]
    rw [List.take_append_drop, hvalue, hexponent]
  · rw [Spelling.text]
    simp only [Spelling.fractionText, Spelling.scaleText, List.append_nil]

/-- A number with its point in front of all digits. -/
theorem exists_spells_below (hplace : (Nat.toDigits 10 d.digits).length + d.exponent ≤ 0) :
    let place := (Nat.toDigits 10 d.digits).length + d.exponent
    ∃ s : Spelling, s.Spells d
      ∧ s.text = '0' :: '.' :: (zeros (-place).toNat ++ Nat.toDigits 10 d.digits) := by
  intro place
  have hrow : IsRow (zeros (-place).toNat ++ Nat.toDigits 10 d.digits) :=
    ⟨by simp [Nat.toDigits_ne_nil], fun c hc => (List.mem_append.mp hc).elim
      isDigit_of_mem_zeros ((isRow_toDigits _).2 c)⟩
  refine ⟨⟨['0'], some (zeros (-place).toNat ++ Nat.toDigits 10 d.digits), none,
    isRow_toDigits 0, ?_, fun _ => rfl⟩, ⟨Or.inl rfl, ?_⟩, ?_⟩
  · intro back hback
    obtain rfl := Option.mem_some.mp hback
    exact hrow
  · intro negative
    have hdigits : ofDigits (['0'] ++ (zeros (-place).toNat ++ Nat.toDigits 10 d.digits))
        = d.digits := by
      rw [show ['0'] = zeros 1 from rfl, ofDigits_zeros_append, ofDigits_zeros_append,
        Numeral.ofDigits_toDigits]
    have hexponent : (0 : Int) - (zeros (-place).toNat ++ Nat.toDigits 10 d.digits).length
        = d.exponent := by
      rw [List.length_append, zeros, List.length_replicate]
      omega
    rw [Spelling.numeral]
    dsimp only [Option.getD_some, Option.getD_none]
    rw [hdigits, hexponent]
  · simp only [Spelling.text, Spelling.fractionText, Spelling.scaleText, List.append_nil,
      List.cons_append, List.nil_append]

/-- A number with an exponent, one digit in front of its point. -/
theorem exists_spells_scaled {digit : Char} {more : List Char}
    (hrow : Nat.toDigits 10 d.digits = digit :: more) :
    ∃ s : Spelling, s.Spells d ∧ s.whole = [digit]
      ∧ s.fraction = (if more = [] then none else some more)
      ∧ s.exponent = some ((Nat.toDigits 10 d.digits).length + d.exponent - 1) := by
  have hall : ∀ c ∈ digit :: more, c.isDigit = true := hrow ▸ (isRow_toDigits d.digits).2
  have hvalue : ofDigits (digit :: more) = d.digits := hrow ▸ Numeral.ofDigits_toDigits d.digits
  refine ⟨⟨[digit], if more = [] then none else some more, _, ⟨by simp, ?_⟩, ?_, fun _ => rfl⟩,
    ⟨Or.inr rfl, ?_⟩, rfl, rfl, rfl⟩
  · exact fun c hc => hall c (by simp_all)
  · intro back hback
    split_ifs at hback with hmore
    · cases hback
    · obtain rfl := Option.mem_some.mp hback
      exact ⟨hmore, fun c hc => hall c (List.mem_cons_of_mem _ hc)⟩
  · intro negative
    have hfraction : (if more = [] then none else some more).getD [] = more := by
      split_ifs with hmore
      · exact hmore.symm
      · rfl
    have hexponent : (Nat.toDigits 10 d.digits).length + d.exponent - 1 - (more.length : Int)
        = d.exponent := by
      rw [hrow, List.length_cons]
      omega
    rw [Spelling.numeral]
    dsimp only [Option.getD_some]
    rw [hfraction, hexponent, List.singleton_append, hvalue]

/-- However a decimal is laid out, its text stands for what it stands for. -/
theorem exists_spells_decimalText {layout : JsonNumber.Layout}
    (hlayout : layout.highest < Numeral.hugeExponent) (hne : d.digits ≠ 0) :
    ∃ s : Spelling, s.Spells d ∧ s.text = decimalText layout d := by
  -- only the first layout adds a digit; the others spell the digits of the decimal as they are
  unfold decimalText
  dsimp only
  split_ifs with hwhole hinside hbelow
  · have hlength : 0 < (Nat.toDigits 10 d.digits).length := Nat.length_toDigits_pos
    exact exists_spells_whole hne hwhole.1 (by omega)
  · exact exists_spells_inside hne (by omega) hinside.1
  · exact exists_spells_below hbelow.2
  · split
    · next hrow => exact absurd hrow Nat.toDigits_ne_nil
    · next digit hrow =>
      obtain ⟨s, hspells, hw, hf, he⟩ := exists_spells_scaled hrow
      refine ⟨s, hspells, ?_⟩
      rw [Spelling.text, hw, hf, he, if_pos rfl]
      rfl
    · next digit more hmore hrow =>
      obtain ⟨s, hspells, hw, hf, he⟩ := exists_spells_scaled hrow
      refine ⟨s, hspells, ?_⟩
      rw [Spelling.text, hw, hf, he, if_neg hmore]
      rfl

end Layouts

theorem toBinary64_of_readsAs {x : Binary64} {d : Binary64.Decimal}
    (h : d.readsAs x.magnitude = true) :
    Numeral.toBinary64 ⟨x.negative, d.digits, d.exponent⟩ = x := by
  rw [Binary64.Decimal.readsAs, beq_iff_eq] at h
  rw [Numeral.toBinary64_sign]
  exact Binary64.eq_of_parts rfl h

/-- The text of a finite double is a spelling of the double with its sign. -/
theorem exists_numeral_realText {x : Binary64} (hfinite : x.isFinite = true) :
    ∃ s : Spelling, realText x = signed x.negative s.text
      ∧ (s.fraction.isSome = true ∨ s.exponent.isSome = true)
      ∧ (s.numeral x.negative).toBinary64 = x := by
  have htext : realText x = signed x.negative (if x.magnitude = 0 then ['0', '.', '0']
      else decimalText .standard (Binary64.shortest x.magnitude)) := rfl
  rcases Nat.eq_zero_or_pos x.magnitude with hzero | hpos
  · rw [if_pos hzero] at htext
    refine ⟨⟨['0'], some ['0'], none, isRow_toDigits 0, ?_, fun _ => rfl⟩, htext, Or.inl rfl,
      Binary64.eq_of_parts rfl hzero.symm⟩
    intro row hrow
    obtain rfl := Option.mem_some.mp hrow
    exact isRow_toDigits 0
  · have hreads := Binary64.shortest_readsAs hpos (of_decide_eq_true hfinite)
    have hne := Binary64.Decimal.digits_ne_zero hreads hpos
    obtain ⟨s, hspells, hs⟩ := @exists_spells_decimalText _ .standard (by decide) hne
    rw [if_neg hpos.ne', ← hs] at htext
    exact ⟨s, htext, hspells.isReal,
      (hspells.toBinary64 x.negative).trans (toBinary64_of_readsAs hreads)⟩

/-- A finite double is read from its text. -/
theorem readNumber_realText {x : Binary64} (hfinite : x.isFinite = true) {rest : List Char}
    (hrest : EndsNumber rest) :
    readNumber (realText x ++ rest) = .ok (.real x hfinite, rest) := by
  obtain ⟨s, htext, hreal, hvalue⟩ := exists_numeral_realText hfinite
  have hnumber : numberOf x.negative s.whole s.fraction s.exponent = .ok (.real x hfinite) := by
    rw [numberOf_of_isReal hreal]
    exact (congrArg real hvalue).trans (real_of_isFinite hfinite)
  rw [htext, readNumber_text s _ hrest, hnumber]
  rfl

/-- A number is read from its text. -/
theorem readNumber_numberText (n : JsonNumber) {rest : List Char} (hrest : EndsNumber rest) :
    readNumber (n.text ++ rest) = .ok (n, rest) := by
  cases n with
  | integer value fits => exact readNumber_integerText fits hrest
  | real value finite => exact readNumber_realText finite hrest

/-! ## What the text of a number looks like -/

theorem exists_signed_numberText (n : JsonNumber) :
    ∃ (negative : Bool) (s : Spelling), n.text = signed negative s.text := by
  cases n with
  | integer value fits => exact ⟨_, _, integerText_eq value⟩
  | real value finite =>
    obtain ⟨s, htext, -, -⟩ := exists_numeral_realText finite
    exact ⟨_, s, htext⟩

theorem Spelling.mem_text {s : Spelling} {c : Char} (h : c ∈ s.text) :
    c.isDigit = true ∨ c ∈ ['.', 'e', '+', '-'] := by
  rw [text, List.mem_append, List.mem_append] at h
  rcases h with hwhole | hfraction | hscale
  · exact Or.inl (s.whole_isRow.2 c hwhole)
  · cases hf : s.fraction with
    | none => simp [hf, fractionText] at hfraction
    | some row =>
      rw [hf, fractionText, List.mem_cons] at hfraction
      rcases hfraction with rfl | hrow
      · simp
      · exact Or.inl ((s.fraction_isRow row hf).2 c hrow)
  · cases he : s.exponent with
    | none => simp [he, scaleText] at hscale
    | some exponent =>
      rw [he, scaleText, exponentText, List.mem_cons, List.mem_cons] at hscale
      rcases hscale with rfl | hsign | hrow
      · simp
      · split_ifs at hsign <;> simp [hsign]
      · exact Or.inl ((isRow_toDigits _).2 c hrow)

/-- A number begins with its sign or with a digit. -/
theorem exists_numberText_eq_cons (n : JsonNumber) :
    ∃ c more, n.text = c :: more ∧ (c = '-' ∨ c.isDigit = true) := by
  obtain ⟨negative, s, htext⟩ := exists_signed_numberText n
  rw [htext]
  cases negative with
  | true => exact ⟨'-', s.text, rfl, Or.inl rfl⟩
  | false =>
    obtain ⟨hne, hall⟩ := s.whole_isRow
    obtain ⟨c, more, hwhole⟩ := List.exists_cons_of_ne_nil hne
    have hcons : s.text = c :: (more ++ (Spelling.fractionText s.fraction
        ++ Spelling.scaleText s.exponent)) := by
      rw [Spelling.text, hwhole, List.cons_append]
    exact ⟨c, _, hcons, Or.inr (hall c (by simp [hwhole]))⟩

theorem le_toNat_of_isDigit {c : Char} (h : c.isDigit = true) : '0'.toNat ≤ c.toNat := by
  simp only [Char.isDigit, Bool.and_eq_true, decide_eq_true_eq] at h
  exact h.1

/-- There is no control character in a number. -/
theorem le_toNat_of_mem_numberText {n : JsonNumber} {c : Char} (h : c ∈ n.text) :
    0x20 ≤ c.toNat := by
  obtain ⟨negative, s, htext⟩ := exists_signed_numberText n
  have hs : ∀ c ∈ s.text, 0x20 ≤ c.toNat := by
    intro c hc
    rcases Spelling.mem_text hc with hdigit | hmark
    · exact Nat.le_trans (by decide) (le_toNat_of_isDigit hdigit)
    · simp only [List.mem_cons, List.not_mem_nil, or_false] at hmark
      rcases hmark with rfl | rfl | rfl | rfl <;> decide
  rw [htext] at h
  cases negative with
  | false => exact hs c h
  | true =>
    rcases List.mem_cons.mp h with rfl | h
    · decide
    · exact hs c h

end Json

end RecordFilter
