import RecordFilter.Proofs.Number.Numeral
import RecordFilter.Proofs.Record.Objections
import RecordFilter.Proofs.Record.StringLiteral

/-!
# Comparisons follow one total order

A condition that compares a field with a literal asks where the two stand to each other, and all
comparisons ask the same question. So the verdicts on one record fit together (`TotalVerdicts`),
and those on different records and literals never contradict the order of what these stand for
(`FollowsOrder`): rational numbers for numbers, rows of code points for strings.

Numbers are rounded on both sides before they are compared, so the verdicts are not those of the
rational numbers themselves. What is asked of rounding is only that it is monotone, so the laws are
derived once from a monotone placement in some linear order (`followsOrder_of_monotone`). Numbers
are placed by the rank of the double that they round to, and strings where they are.
-/

namespace RecordFilter

/-! ## Comparisons in a linear order -/

section Orders

variable {R : Type} [LinearOrder R]

/-- What a comparison asks of two elements of a linear order. Matching asks for no order. -/
def Comparison.Relates : Comparison → R → R → Prop
  | equals, x, y => x = y
  | notEquals, x, y => x ≠ y
  | less, x, y => x < y
  | lessOrEqual, x, y => x ≤ y
  | greater, x, y => y < x
  | greaterOrEqual, x, y => y ≤ x
  | matching, _, _ => False
  | notMatching, _, _ => False

/-- Whether a comparison asks for something great. -/
def Comparison.IsUpward (op : Comparison) : Prop := op = .greater ∨ op = .greaterOrEqual

/-- Whether a comparison asks for something small. -/
def Comparison.IsDownward (op : Comparison) : Prop := op = .less ∨ op = .lessOrEqual

namespace Comparison

variable {op : Comparison} {x x' y y' : R} {o : Ordering}

/-- A comparison holds of an order if it relates what stands in that order. -/
theorem holds_iff_relates (h : o.Compares x y) : op.holds o = true ↔ op.Relates x y := by
  cases o with
  | lt =>
    have h : x < y := h
    cases op <;> simp [holds, Relates, h, h.le, h.ne, h.not_gt]
  | eq =>
    obtain rfl : x = y := h
    cases op <;> simp [holds, Relates]
  | gt =>
    have h : y < x := h
    cases op <;> simp [holds, Relates, h, h.le, h.ne', h.not_gt]

theorem IsUpward.compares (h : op.IsUpward) : op.Compares := by
  rcases h with rfl | rfl <;> exact ⟨nofun, nofun⟩

theorem IsDownward.compares (h : op.IsDownward) : op.Compares := by
  rcases h with rfl | rfl <;> exact ⟨nofun, nofun⟩

/-- Upwards, a greater value or a smaller bound keeps what holds. -/
theorem IsUpward.relates_mono (h : op.IsUpward) (hx : x ≤ x') (hy : y' ≤ y)
    (hrelates : op.Relates x y) : op.Relates x' y' := by
  rcases h with rfl | rfl
  · exact (hy.trans_lt hrelates).trans_le hx
  · exact (hy.trans hrelates).trans hx

/-- Downwards, a smaller value or a greater bound keeps what holds. -/
theorem IsDownward.relates_mono (h : op.IsDownward) (hx : x' ≤ x) (hy : y ≤ y')
    (hrelates : op.Relates x y) : op.Relates x' y' := by
  rcases h with rfl | rfl
  · exact (hx.trans_lt hrelates).trans_le hy
  · exact (hx.trans hrelates).trans hy

end Comparison

end Orders

/-! ## Verdicts -/

/-- The verdicts of all comparisons fit together. Every one of them is decided, exactly one of
less, equal and greater is true, and the others are made of these. -/
structure TotalVerdicts (verdict : Comparison → Option Bool) : Prop where
  decided : ∀ op : Comparison, op.Compares → ∃ value, verdict op = some value
  one : ∃! op : Comparison, (op = .less ∨ op = .equals ∨ op = .greater) ∧ verdict op = some true
  lessOrEqual : verdict .lessOrEqual = some true
    ↔ verdict .less = some true ∨ verdict .equals = some true
  greaterOrEqual : verdict .greaterOrEqual = some true
    ↔ verdict .greater = some true ∨ verdict .equals = some true
  notEquals : verdict .notEquals = some true ↔ verdict .equals = some false

/-- The verdicts of comparisons of a field with literals follow a linear order. What records hold
in the field and what literals spell are elements of it. -/
structure FollowsOrder {K : Type} [LinearOrder K] (holds : Json → K → Prop)
    (spells : String → K → Prop) (verdict : String → Comparison → Json → Option Bool) : Prop where
  total : ∀ {record literal k b}, holds record k → spells literal b →
    TotalVerdicts fun op => verdict literal op record
  /-- What is equal is found to be equal. -/
  equal : ∀ {record literal k}, holds record k → spells literal k →
    verdict literal .equals record = some true
  /-- What is less is not found to be greater. -/
  not_greater : ∀ {record literal k b}, holds record k → spells literal b → k < b →
    verdict literal .greater record = some false
  not_less : ∀ {record literal k b}, holds record k → spells literal b → b < k →
    verdict literal .less record = some false
  /-- With a record, every greater one passes. -/
  record_upward : ∀ {record record' literal k k' b}, holds record k → holds record' k' → k ≤ k' →
    spells literal b → ∀ op : Comparison, op.IsUpward →
      verdict literal op record = some true → verdict literal op record' = some true
  record_downward : ∀ {record record' literal k k' b}, holds record k → holds record' k' → k' ≤ k →
    spells literal b → ∀ op : Comparison, op.IsDownward →
      verdict literal op record = some true → verdict literal op record' = some true
  /-- With a literal, a record passes every lesser one. -/
  literal_upward : ∀ {record literal literal' k b b'}, holds record k → spells literal b →
    spells literal' b' → b' ≤ b → ∀ op : Comparison, op.IsUpward →
      verdict literal op record = some true → verdict literal' op record = some true
  literal_downward : ∀ {record literal literal' k b b'}, holds record k → spells literal b →
    spells literal' b' → b ≤ b' → ∀ op : Comparison, op.IsDownward →
      verdict literal op record = some true → verdict literal' op record = some true

section Placement

variable {R : Type} [LinearOrder R] {x y : R}

/-- The verdicts are those of two elements of a linear order. -/
def VerdictsOf (x y : R) (verdict : Comparison → Option Bool) : Prop :=
  ∀ op : Comparison, op.Compares →
    ∃ value, verdict op = some value ∧ (value = true ↔ op.Relates x y)

namespace VerdictsOf

variable {verdict : Comparison → Option Bool} {op : Comparison}

/-- A comparison is found true if it relates the two. -/
theorem eq_true_iff (h : VerdictsOf x y verdict) (hop : op.Compares) :
    verdict op = some true ↔ op.Relates x y := by
  obtain ⟨value, hverdict, hvalue⟩ := h op hop
  rw [hverdict, Option.some_inj, hvalue]

/-- A comparison is found false if it does not. -/
theorem eq_false_iff (h : VerdictsOf x y verdict) (hop : op.Compares) :
    verdict op = some false ↔ ¬op.Relates x y := by
  obtain ⟨value, hverdict, hvalue⟩ := h op hop
  rw [hverdict, Option.some_inj, ← hvalue, Bool.not_eq_true]

theorem equal (h : VerdictsOf x y verdict) (heq : x = y) : verdict .equals = some true := by
  have hequals : verdict .equals = some true ↔ x = y := h.eq_true_iff ⟨nofun, nofun⟩
  exact hequals.mpr heq

theorem not_greater (h : VerdictsOf x y verdict) (hle : x ≤ y) :
    verdict .greater = some false := by
  have hgreater : verdict .greater = some false ↔ ¬y < x := h.eq_false_iff ⟨nofun, nofun⟩
  exact hgreater.mpr hle.not_gt

theorem not_less (h : VerdictsOf x y verdict) (hle : y ≤ x) : verdict .less = some false := by
  have hless : verdict .less = some false ↔ ¬x < y := h.eq_false_iff ⟨nofun, nofun⟩
  exact hless.mpr hle.not_gt

/-- Of two things that can be compared every comparison has a verdict. -/
theorem total (h : VerdictsOf x y verdict) : TotalVerdicts verdict := by
  have hless : verdict .less = some true ↔ x < y := h.eq_true_iff ⟨nofun, nofun⟩
  have hequals : verdict .equals = some true ↔ x = y := h.eq_true_iff ⟨nofun, nofun⟩
  have hgreater : verdict .greater = some true ↔ y < x := h.eq_true_iff ⟨nofun, nofun⟩
  have hlessOrEqual : verdict .lessOrEqual = some true ↔ x ≤ y := h.eq_true_iff ⟨nofun, nofun⟩
  have hgreaterOrEqual : verdict .greaterOrEqual = some true ↔ y ≤ x :=
    h.eq_true_iff ⟨nofun, nofun⟩
  have hnotEquals : verdict .notEquals = some true ↔ x ≠ y := h.eq_true_iff ⟨nofun, nofun⟩
  have hunequal : verdict .equals = some false ↔ x ≠ y := h.eq_false_iff ⟨nofun, nofun⟩
  refine ⟨fun op hop => ?_, ?_, ?_, ?_, ?_⟩
  · obtain ⟨value, hverdict, -⟩ := h op hop
    exact ⟨value, hverdict⟩
  · -- the two elements stand in exactly one of the three ways
    rcases lt_trichotomy x y with hlt | heq | hgt
    · refine ⟨.less, ⟨Or.inl rfl, hless.mpr hlt⟩, ?_⟩
      rintro op ⟨rfl | rfl | rfl, hop⟩
      · rfl
      · exact absurd (hequals.mp hop) hlt.ne
      · exact absurd (hgreater.mp hop) hlt.not_gt
    · refine ⟨.equals, ⟨Or.inr (Or.inl rfl), hequals.mpr heq⟩, ?_⟩
      rintro op ⟨rfl | rfl | rfl, hop⟩
      · exact absurd heq (hless.mp hop).ne
      · rfl
      · exact absurd heq (hgreater.mp hop).ne'
    · refine ⟨.greater, ⟨Or.inr (Or.inr rfl), hgreater.mpr hgt⟩, ?_⟩
      rintro op ⟨rfl | rfl | rfl, hop⟩
      · exact absurd (hless.mp hop) hgt.not_gt
      · exact absurd (hequals.mp hop) hgt.ne'
      · rfl
  · rw [hlessOrEqual, hless, hequals, le_iff_lt_or_eq]
  · rw [hgreaterOrEqual, hgreater, hequals, le_iff_lt_or_eq, eq_comm]
  · rw [hnotEquals, hunequal]

end VerdictsOf

/-- Verdicts follow an order if they are those of elements that are placed monotonically. -/
theorem followsOrder_of_monotone {K : Type} [LinearOrder K] {placed : K → R → Prop}
    {holds : Json → K → Prop} {spells : String → K → Prop}
    {verdict : String → Comparison → Json → Option Bool}
    (hmono : ∀ {a b x y}, placed a x → placed b y → a ≤ b → x ≤ y)
    (hverdict : ∀ {record literal k b}, holds record k → spells literal b →
      ∃ x y, placed k x ∧ placed b y ∧ VerdictsOf x y fun op => verdict literal op record) :
    FollowsOrder holds spells verdict where
  total hholds hspells := by
    obtain ⟨x, y, -, -, h⟩ := hverdict hholds hspells
    exact h.total
  equal hholds hspells := by
    obtain ⟨x, y, hx, hy, h⟩ := hverdict hholds hspells
    exact h.equal (le_antisymm (hmono hx hy le_rfl) (hmono hy hx le_rfl))
  not_greater hholds hspells hlt := by
    obtain ⟨x, y, hx, hy, h⟩ := hverdict hholds hspells
    exact h.not_greater (hmono hx hy hlt.le)
  not_less hholds hspells hlt := by
    obtain ⟨x, y, hx, hy, h⟩ := hverdict hholds hspells
    exact h.not_less (hmono hy hx hlt.le)
  record_upward hholds hholds' hle hspells op hop htrue := by
    obtain ⟨x, y, hx, hy, h⟩ := hverdict hholds hspells
    obtain ⟨x', y', hx', hy', h'⟩ := hverdict hholds' hspells
    exact (h'.eq_true_iff hop.compares).mpr (hop.relates_mono (hmono hx hx' hle)
      (hmono hy' hy le_rfl) ((h.eq_true_iff hop.compares).mp htrue))
  record_downward hholds hholds' hle hspells op hop htrue := by
    obtain ⟨x, y, hx, hy, h⟩ := hverdict hholds hspells
    obtain ⟨x', y', hx', hy', h'⟩ := hverdict hholds' hspells
    exact (h'.eq_true_iff hop.compares).mpr (hop.relates_mono (hmono hx' hx hle)
      (hmono hy hy' le_rfl) ((h.eq_true_iff hop.compares).mp htrue))
  literal_upward hholds hspells hspells' hle op hop htrue := by
    obtain ⟨x, y, hx, hy, h⟩ := hverdict hholds hspells
    obtain ⟨x', y', hx', hy', h'⟩ := hverdict hholds hspells'
    exact (h'.eq_true_iff hop.compares).mpr (hop.relates_mono (hmono hx hx' le_rfl)
      (hmono hy' hy hle) ((h.eq_true_iff hop.compares).mp htrue))
  literal_downward hholds hspells hspells' hle op hop htrue := by
    obtain ⟨x, y, hx, hy, h⟩ := hverdict hholds hspells
    obtain ⟨x', y', hx', hy', h'⟩ := hverdict hholds hspells'
    exact (h'.eq_true_iff hop.compares).mpr (hop.relates_mono (hmono hx' hx le_rfl)
      (hmono hy hy' hle) ((h.eq_true_iff hop.compares).mp htrue))

end Placement

/-! ## Filters of one condition -/

/-- What a filter says of a record, if the rules accept it. -/
def Rules.verdict? (rules : Rules) (filter : String) (record : Json) : Option Bool :=
  ((Expr.ofText filter).bind fun e => e.compileFor rules).toOption.map fun compiled =>
    compiled.evaluate record

/-- The filter that compares a field with a literal. -/
def comparisonText (name literal : String) (op : Comparison) : String :=
  name ++ " " ++ op.symbol ++ " " ++ literal

section Filters

variable {rules : Rules} {name literal : String} {op : Comparison} {value : Value}

/-- The verdict of a comparison is that of the test which the rules have for it. -/
theorem verdict?_comparisonText {test : Json → Bool} (hname : LexesAs .identifier name)
    (hliteral : (LexesAs .string literal ∧ value = .string literal)
      ∨ (LexesAs .number literal ∧ ∃ x,
          Binary64.ofText? literal.toList = some x ∧ value = .number x))
    (hallows : rules.schema = .empty
      ∨ ∃ type, rules.schema.typeOf? name = some type ∧ type.valueKind = value.kind)
    (htest : rules.literalTest name op value = .ok test) (record : Json) :
    rules.verdict? (comparisonText name literal op) record = some (test record) := by
  obtain ⟨c, hread, rfl, rfl, rfl⟩ := Expr.exists_ofText_condition hname hliteral op
  have hbind : rules.bind c = .ok test :=
    Rules.bind_eq_ok_iff.mpr ⟨Rules.check_eq_ok_iff.mpr hallows, htest⟩
  let tests : Condition → Json → Bool := fun _ => test
  have hbinds : ∀ d ∈ Expr.conditions (.single (.leaf c)), rules.bind d = .ok (tests d) := by
    intro d hd
    obtain rfl := List.mem_singleton.mp hd
    exact hbind
  have hcompiled := compile_eq_ok_map hbinds
  have hvalue := Expr.evaluate_of_compileFor hbinds hcompiled record
  have hread : Expr.ofText (comparisonText c.name literal c.operator) = .ok (.single (.leaf c)) :=
    hread
  simp only [Rules.verdict?, hread, Except.bind, Expr.compileFor, hcompiled]
  exact congrArg some hvalue

end Filters

/-! ## Numbers -/

/-- The exact value of a JSON number. -/
def JsonNumber.value : JsonNumber → ℚ
  | integer value _ => value
  | real value _ => value.value

/-- A JSON number rounds to its double. -/
theorem JsonNumber.roundsTo_toBinary64 (n : JsonNumber) :
    Binary64.RoundsTo n.value n.toBinary64 := by
  cases n with
  | real value finite => exact Binary64.roundsTo_value finite
  | integer value fits =>
    refine Binary64.roundsTo_ofInt ?_
    have hword : value.natAbs ≤ twoTo 64 := by
      simp only [Json.fitsWord, Bool.and_eq_true, decide_eq_true_eq] at fits
      have hhalf : twoTo 64 = twoTo 63 * 2 := twoTo_succ 63
      omega
    have hword' : (value.natAbs : ℚ) ≤ 2 ^ 64 := by
      rw [← cast_twoTo]
      exact_mod_cast hword
    have hgrowth : (2 : ℚ) ^ 64 < 2 ^ 65 := pow_lt_pow_right₀ one_lt_two (by decide)
    exact (hword'.trans_lt hgrowth).trans_le (Binary64.two_pow_le_reach (by decide))

/-- What a record holds in a field as a number. -/
def HoldsNumber (name : String) (record : Json) (q : ℚ) : Prop :=
  ∃ n : JsonNumber, record.get? name = some (.number n) ∧ n.value = q

/-- What a numeric literal spells, if it is one of a filter that is accepted. -/
def SpellsNumber (literal : String) (q : ℚ) : Prop :=
  LexesAs .number literal ∧ decimalValue literal.toList = q ∧ q < Binary64.reach

namespace Binary64

variable {x y : Binary64}

/-- The rank of the double that a number rounds to. -/
def RanksAt (q : ℚ) (rank : ℤ) : Prop := ∃ x, RoundsTo q x ∧ x.rank = rank

/-- Rounding keeps the order. -/
theorem RanksAt.mono {p q : ℚ} {i j : ℤ} (hi : RanksAt p i) (hj : RanksAt q j) (h : p ≤ q) :
    i ≤ j := by
  obtain ⟨x, hx, rfl⟩ := hi
  obtain ⟨y, hy, rfl⟩ := hj
  exact hx.rank_le hy h

/-- Finite doubles always have an order, which is that of their ranks. -/
theorem exists_compare?_eq (hx : x.isFinite = true) (hy : y.isFinite = true) :
    ∃ o, x.compare? y = some o ∧ o.Compares x.rank y.rank := by
  refine ⟨compare x.rank y.rank, ?_, compare_iff x.rank y.rank |>.mp rfl⟩
  rw [compare?, isNaN_of_isFinite hx, isNaN_of_isFinite hy]
  rfl

end Binary64

/-- The numeric comparisons of a field with a literal compare the ranks of the two doubles. -/
theorem verdictsOf_number {rules : Rules} {name literal : String} {record : Json} {q b : ℚ}
    (hname : LexesAs .identifier name)
    (hallows : rules.schema = .empty ∨ rules.schema.typeOf? name = some .number)
    (hholds : HoldsNumber name record q) (hspells : SpellsNumber literal b) :
    ∃ x y, Binary64.RanksAt q x ∧ Binary64.RanksAt b y
      ∧ VerdictsOf x y fun op => rules.verdict? (comparisonText name literal op) record := by
  obtain ⟨n, hfound, rfl⟩ := hholds
  obtain ⟨hlexes, rfl, hreach⟩ := hspells
  have hnumeral : IsNumeral literal.toList := (lexesAs_iff (by decide)).mp hlexes
  have hsome := hnumeral.ofText?_eq_none_iff.not.mpr (not_le.mpr hreach)
  obtain ⟨bound, hbound⟩ := Option.ne_none_iff_exists'.mp hsome
  obtain ⟨hrounds, -⟩ := hnumeral.ofText?_eq_some_iff.mp hbound
  have hnumber := n.roundsTo_toBinary64
  refine ⟨_, _, ⟨_, hnumber, rfl⟩, ⟨_, hrounds, rfl⟩, fun op hop => ?_⟩
  obtain ⟨o, hcompare, ho⟩ := Binary64.exists_compare?_eq hnumber.finite hrounds.finite
  have htest : rules.literalTest name op (.number bound)
      = .ok fun record => (Rules.numberField? record name).any (Rules.comparesNumber op bound) := by
    rw [Rules.literalTest, Rules.numberTest_eq_ok_iff.mpr ⟨hop, rfl⟩]
    rfl
  have hallows : rules.schema = .empty ∨ ∃ type, rules.schema.typeOf? name = some type
      ∧ type.valueKind = (Value.number bound).kind :=
    hallows.imp_right fun htype => ⟨_, htype, rfl⟩
  have hfield : Rules.numberField? record name = some n.toBinary64 := by
    rw [Rules.numberField?, hfound]
    rfl
  refine ⟨_, verdict?_comparisonText hname (.inr ⟨hlexes, _, hbound, rfl⟩) hallows htest record, ?_⟩
  rw [hfield, Option.any_some, Rules.comparesNumber, hcompare, Option.any_some]
  exact Comparison.holds_iff_relates ho

/-! ## Strings -/

/-- The code points of a text. -/
def codePoints (text : String) : List ℕ := text.toList.map Char.toNat

/-- What a record holds in a field as a string. -/
def HoldsText (name : String) (record : Json) (points : List ℕ) : Prop :=
  ∃ text, record.get? name = some (.string text) ∧ codePoints text = points

/-- What a string literal spells. -/
def SpellsText (literal : String) (points : List ℕ) : Prop :=
  LexesAs .string literal
    ∧ ∃ text, (Value.string literal).unquoted = .ok text ∧ codePoints text = points

/-- Texts are compared as rows of code points, the first difference deciding. -/
theorem Text.compareChars_compares (s t : List Char) :
    (compareChars s t).Compares (s.map Char.toNat) (t.map Char.toNat) := by
  induction s generalizing t with
  | nil =>
    cases t with
    | nil => exact rfl
    | cons b t => exact List.nil_lt_cons _ _
  | cons a s ih =>
    cases t with
    | nil => exact List.nil_lt_cons _ _
    | cons b t =>
      have hfirst := compare_iff a.toNat b.toNat |>.mp rfl
      unfold compareChars
      generalize compare a.toNat b.toNat = first at hfirst
      cases first with
      | lt => exact List.cons_lt_cons_iff.mpr (Or.inl hfirst)
      | gt => exact List.cons_lt_cons_iff.mpr (Or.inl hfirst)
      | eq =>
        have hfirst : a.toNat = b.toNat := hfirst
        have hrest := ih t
        simp only [List.map_cons, hfirst]
        generalize compareChars s t = rest at hrest
        cases rest with
        | lt => exact List.cons_lt_cons_iff.mpr (Or.inr ⟨rfl, hrest⟩)
        | gt => exact List.cons_lt_cons_iff.mpr (Or.inr ⟨rfl, hrest⟩)
        | eq => exact congrArg _ hrest

/-- The comparisons of a field with a string literal compare the code points of the two texts. -/
theorem verdictsOf_string {rules : Rules} {name literal : String} {record : Json} {s t : List ℕ}
    (hname : LexesAs .identifier name)
    (hallows : rules.schema = .empty ∨ rules.schema.typeOf? name = some .string)
    (hholds : HoldsText name record s) (hspells : SpellsText literal t) :
    VerdictsOf s t fun op => rules.verdict? (comparisonText name literal op) record := by
  obtain ⟨found, hfound, rfl⟩ := hholds
  obtain ⟨hlexes, text, hunquoted, rfl⟩ := hspells
  intro op hop
  have htext : String.ofList (Text.Quoted.decode literal.toList) = text := Except.ok.inj hunquoted
  have htest : rules.literalTest name op (.string literal)
      = .ok fun record => (Rules.stringField? record name).any
          fun value => op.holds (Text.compareText value text) := by
    rw [Rules.literalTest, Rules.stringTest_of_compares hop, htext]
    rfl
  have hallows : rules.schema = .empty ∨ ∃ type, rules.schema.typeOf? name = some type
      ∧ type.valueKind = (Value.string literal).kind :=
    hallows.imp_right fun htype => ⟨_, htype, rfl⟩
  have hfield : Rules.stringField? record name = some found := by
    rw [Rules.stringField?, hfound]
    rfl
  refine ⟨_, verdict?_comparisonText hname (.inl ⟨hlexes, rfl⟩) hallows htest record, ?_⟩
  rw [hfield, Option.any_some]
  exact Comparison.holds_iff_relates (Text.compareChars_compares _ _)

/-! ## All comparisons -/

/-- **Comparisons on records behave as one total order.** On a field that holds a number, the
numeric comparisons fit together and follow the order of the exact values, although both sides are
rounded; on one that holds a string, the comparisons follow the order of the code points, and say
exactly how the two texts stand to each other in it. There is always an order to say this by: the
doubles of a record and of a literal that was read always compare. -/
theorem comparisons_follow_order (rules : Rules) (name : String)
    (hname : LexesAs .identifier name) :
    (rules.schema = .empty ∨ rules.schema.typeOf? name = some .number →
      FollowsOrder (HoldsNumber name) SpellsNumber fun literal op =>
        rules.verdict? (comparisonText name literal op))
      ∧ (rules.schema = .empty ∨ rules.schema.typeOf? name = some .string →
        FollowsOrder (HoldsText name) SpellsText (fun literal op =>
          rules.verdict? (comparisonText name literal op))
        ∧ ∀ record literal s t, HoldsText name record s → SpellsText literal t →
          ∀ op : Comparison, op.Compares →
            (rules.verdict? (comparisonText name literal op) record = some true ↔ op.Relates s t))
      ∧ ∀ text e, Expr.ofText text = .ok e → ∀ c ∈ e.conditions, ∀ bound,
        c.value = .number bound → ∀ n : JsonNumber, (n.toBinary64.compare? bound).isSome := by
  refine ⟨fun hallows => ?_, fun hallows => ⟨?_, ?_⟩, fun text e he c hc bound hbound n => ?_⟩
  · exact followsOrder_of_monotone Binary64.RanksAt.mono fun hholds hspells =>
      verdictsOf_number hname hallows hholds hspells
  · have hmono : ∀ {a b x y : List ℕ}, a = x → b = y → a ≤ b → x ≤ y := by
      rintro a b x y rfl rfl hle
      exact hle
    exact followsOrder_of_monotone hmono fun hholds hspells =>
      ⟨_, _, rfl, rfl, verdictsOf_string hname hallows hholds hspells⟩
  · intro record literal s t hholds hspells op hop
    exact (verdictsOf_string hname hallows hholds hspells).eq_true_iff hop
  · rw [Binary64.compare?, n.isNaN_toBinary64, Expr.isNaN_of_ofText he hc hbound]
    rfl

/-- An integer that lies between two doubles, and a literal that spells it with a point. -/
theorem comparisons_follow_order_between :
    let rules : Rules := ⟨.empty, false⟩
    let record : Json := .object [("f", .number (.integer 9007199254740993 (by decide))),
      ("g", .string "ab")]
    LexesAs .identifier "f" ∧ LexesAs .identifier "g"
      ∧ rules.verdict? (comparisonText "f" "9007199254740993.0" .equals) record = some true
      ∧ TotalVerdicts (fun op =>
          rules.verdict? (comparisonText "f" "9007199254740993.0" op) record)
      ∧ rules.verdict? (comparisonText "g" "'b'" .less) record = some true := by
  intro rules record
  have hf : LexesAs .identifier "f" :=
    (lexesAs_iff (by decide)).mpr ⟨isWord_cons_iff.mpr ⟨by decide +kernel, nofun⟩, by decide⟩
  have hg : LexesAs .identifier "g" :=
    (lexesAs_iff (by decide)).mpr ⟨isWord_cons_iff.mpr ⟨by decide +kernel, nofun⟩, by decide⟩
  have hholds : HoldsNumber "f" record 9007199254740993 := by
    refine ⟨.integer 9007199254740993 (by decide), rfl, ?_⟩
    show ((9007199254740993 : ℤ) : ℚ) = 9007199254740993
    norm_cast
  have hspells : SpellsNumber "9007199254740993.0" 9007199254740993 := by
    have hpower : (2 : ℚ) ^ 64 ≤ Binary64.reach := Binary64.two_pow_le_reach (by decide)
    have hsplit : "9007199254740993.0".toList = "9007199254740993".toList ++ '.' :: ['0'] := by
      decide +kernel
    refine ⟨⟨⟨.endOfInput, "", ⟨1, 19⟩⟩, by decide +kernel⟩, ?_,
      lt_of_lt_of_le (by norm_num) hpower⟩
    have hwhole : Numeral.ofDigits "9007199254740993".toList = 9007199254740993 := by
      decide +kernel
    have hfraction : Numeral.ofDigits ['0'] = 0 := rfl
    rw [hsplit, decimalValue_pointed (by decide +kernel), hwhole, hfraction]
    norm_num
  have hholdsText : HoldsText "g" record [97, 98] := ⟨"ab", rfl, by decide +kernel⟩
  have hspellsText : SpellsText "'b'" [98] := by
    refine ⟨⟨⟨.endOfInput, "", ⟨1, 4⟩⟩, by decide +kernel⟩, "b", by decide +kernel, ?_⟩
    decide +kernel
  obtain ⟨hnumbers, -, -⟩ := comparisons_follow_order rules "f" hf
  obtain ⟨-, htexts, -⟩ := comparisons_follow_order rules "g" hg
  have hfollows := hnumbers (Or.inl rfl)
  refine ⟨hf, hg, hfollows.equal hholds hspells, hfollows.total hholds hspells, ?_⟩
  refine ((htexts (Or.inl rfl)).2 record "'b'" _ _ hholdsText hspellsText .less
    ⟨nofun, nofun⟩).mpr ?_
  show [97, 98] < [98]
  decide

end RecordFilter
