import RecordFilter.Proofs.Expr.Evaluation
import RecordFilter.Proofs.Expr.RoundTrip
import RecordFilter.Proofs.Number.Numeral
import RecordFilter.Record.Rules

/-!
# Negated filters

Every comparison has a complement, which holds of two values exactly if the comparison does not,
and each connective is the other one seen from the negated side. So a filter is negated by
replacing its comparisons and connectives (`Expr.dual`), with its names, its literals and its
parentheses left as they are.

That holds of records that have a value to compare under every name (`Condition.Finds`). Under a
name that is missing, or has a value of another kind, a condition and its complement are both
false. `compileFor_dual` says both, and that the rules object to a filter or to neither.
-/

namespace RecordFilter

/-! ## Complements -/

/-- The comparison that holds if another does not. -/
def Comparison.complement : Comparison → Comparison
  | equals => notEquals
  | notEquals => equals
  | matching => notMatching
  | notMatching => matching
  | less => greaterOrEqual
  | greaterOrEqual => less
  | lessOrEqual => greater
  | greater => lessOrEqual

/-- The connective that stands for another one between negated parts. -/
def Connective.dual : Connective → Connective
  | and => or
  | or => and

theorem Comparison.complement_complement (c : Comparison) : c.complement.complement = c := by
  cases c <;> rfl

/-- Whether a comparison asks how one value stands to the other, and not for a match. -/
def Comparison.Compares (c : Comparison) : Prop := c ≠ .matching ∧ c ≠ .notMatching

theorem Comparison.Compares.complement {c : Comparison} (h : c.Compares) :
    c.complement.Compares := by
  cases c <;> simp_all [Compares, Comparison.complement]

theorem Comparison.Compares.holds_complement {c : Comparison} (h : c.Compares) (o : Ordering) :
    c.complement.holds o = !c.holds o := by
  cases c <;> cases o <;> simp_all [Compares, Comparison.complement, holds]

/-- A condition with the complement of its comparison, spelled in its place. -/
def Condition.dual (c : Condition) : Condition :=
  { c with comparison := ⟨c.operator.complement,
      ⟨c.operator.complement.tokenKind, c.operator.complement.symbol,
        c.comparison.token.position⟩⟩ }

/-- A connective replaced by its dual, spelled in its place. -/
def Sourced.dual (joint : Sourced Connective) : Sourced Connective :=
  joint.item.dual.reread joint.token.position

/-- An expression with every comparison replaced by its complement and every connective by the
other one. -/
def Expr.dual (e : Expr) : Expr := e.map Sourced.dual Condition.dual

/-! ## The value of the dual -/

/-- De Morgan's law for two joined parts. -/
theorem Connective.combine_dual (c : Connective) (l r : Bool) :
    c.dual.combine (!l) (!r) = !c.combine l r := by
  cases c
  · exact (Bool.not_and l r).symm
  · exact (Bool.not_or l r).symm

/-- De Morgan's law for trees: with dual connectives and negated leaves the value is negated. -/
theorem Tree.value_dual {ω α : Type} (connective : ω → Connective) {holds opposite : α → Bool}
    {l : Level} {t : Tree ω α l} (h : ∀ a ∈ t.leaves, opposite a = !holds a) :
    t.value (fun c => (connective c).dual) opposite = !t.value connective holds := by
  induction t with
  | leaf content => exact h content (List.mem_singleton_self content)
  | group inner ih => exact ih h
  | single operand ih => exact ih h
  | join operand c rest ihOperand ihRest =>
    have hoperand := ihOperand fun a ha => h a (List.mem_append_left _ ha)
    have hrest := ihRest fun a ha => h a (List.mem_append_right _ ha)
    rw [value, value, hoperand, hrest]
    exact (connective c).combine_dual _ _

/-! ## Numbers -/

/-- The numbers of records stand on the line of all numbers. -/
theorem JsonNumber.isNaN_toBinary64 (n : JsonNumber) : n.toBinary64.isNaN = false := by
  cases n with
  | integer value fits => exact Binary64.isNaN_ofInt value
  | real value finite => exact Binary64.isNaN_of_isFinite finite

/-! ## Tests of values -/

/-- Whether a value of a record is one that a literal can be compared with. -/
def Value.fits : Value → Json → Bool
  | .number bound, .number _ => !bound.isNaN
  | .string _, .string _ => true
  | _, _ => false

/-- Whether a record has a value under the name of a condition that its literal can be compared
with. -/
def Condition.Finds (c : Condition) (record : Json) : Prop :=
  ∃ found ∈ record.get? c.name, c.value.fits found = true

instance (c : Condition) (record : Json) : Decidable (c.Finds record) :=
  inferInstanceAs (Decidable (∃ found ∈ record.get? c.name, c.value.fits found = true))

namespace Rules

variable {rules : Rules} {comparison : Comparison} {text : String} {bound : Binary64}

/-- A number is no pattern, and is compared by every comparison that asks for none. -/
theorem numberTest_eq_ok_iff {test : Binary64 → Bool} :
    numberTest comparison bound = .ok test
      ↔ comparison.Compares ∧ test = comparesNumber comparison bound := by
  cases comparison <;> simp [numberTest, Comparison.Compares, eq_comm]

theorem stringTest_of_compares (h : comparison.Compares) :
    rules.stringTest comparison text
      = .ok fun value => comparison.holds (Text.compareText value text) := by
  cases comparison with
  | matching => exact absurd rfl h.1
  | notMatching => exact absurd rfl h.2
  | _ => rfl

theorem stringTest_matching {pattern : Pattern}
    (h : Pattern.ofText (rules.patternText text) = .ok pattern) :
    rules.stringTest .matching text = .ok pattern.matchesIn := by
  rw [stringTest, h]
  exact congrArg Except.ok (funext fun value => Bool.bne_false _)

theorem stringTest_notMatching {pattern : Pattern}
    (h : Pattern.ofText (rules.patternText text) = .ok pattern) :
    rules.stringTest .notMatching text = .ok fun value => !pattern.matchesIn value := by
  rw [stringTest, h]
  exact congrArg Except.ok (funext fun value => Bool.bne_true _)

/-- If a comparison has a test of numbers, then its complement has the negated one. Nothing
compares with a word that is no number. -/
theorem exists_numberTest_complement {test : Binary64 → Bool}
    (h : numberTest comparison bound = .ok test) :
    ∃ opposite, numberTest comparison.complement bound = .ok opposite ∧ ∀ value,
      value.isNaN = false →
        if bound.isNaN then test value = false ∧ opposite value = false
        else opposite value = !test value := by
  obtain ⟨hcompares, rfl⟩ := numberTest_eq_ok_iff.mp h
  refine ⟨_, numberTest_eq_ok_iff.mpr ⟨hcompares.complement, rfl⟩, fun value hvalue => ?_⟩
  rw [comparesNumber, comparesNumber, Binary64.compare?, hvalue, Bool.false_or]
  split
  · exact ⟨rfl, rfl⟩
  · exact hcompares.holds_complement _

/-- If a comparison has a test of texts, then its complement has the negated one. -/
theorem exists_stringTest_complement {test : String → Bool}
    (h : rules.stringTest comparison text = .ok test) :
    ∃ opposite, rules.stringTest comparison.complement text = .ok opposite
      ∧ ∀ value, opposite value = !test value := by
  by_cases hcompares : comparison.Compares
  · rw [stringTest_of_compares hcompares] at h
    refine ⟨_, stringTest_of_compares hcompares.complement, fun value => ?_⟩
    rw [← Except.ok.inj h]
    exact hcompares.holds_complement _
  -- both ask for the same pattern
  · have hmatch : comparison = .matching ∨ comparison = .notMatching := by
      unfold Comparison.Compares at hcompares
      tauto
    cases hpattern : Pattern.ofText (rules.patternText text) with
    | error cause => rcases hmatch with rfl | rfl <;> simp [stringTest, hpattern] at h
    | ok pattern =>
      rcases hmatch with rfl | rfl
      · rw [stringTest_matching hpattern] at h
        refine ⟨_, stringTest_notMatching hpattern, fun value => ?_⟩
        rw [← Except.ok.inj h]
      · rw [stringTest_notMatching hpattern] at h
        refine ⟨_, stringTest_matching hpattern, fun value => ?_⟩
        rw [← Except.ok.inj h, Bool.not_not]

/-! ## Tests of records -/

variable {c : Condition} {record : Json}

theorem isNaN_of_numberField? {name : String} {value : Binary64}
    (h : numberField? record name = some value) : value.isNaN = false := by
  obtain ⟨found, -, hfound⟩ := Option.bind_eq_some_iff.mp h
  cases found with
  | number n =>
    rw [← Option.some.inj hfound]
    exact n.isNaN_toBinary64
  | _ => cases hfound

theorem finds_number_iff (h : c.value = .number bound) :
    c.Finds record ↔ bound.isNaN = false ∧ (numberField? record c.name).isSome := by
  rw [Condition.Finds, h, numberField?]
  cases record.get? c.name with
  | none => simp
  | some found => cases found <;> simp [Value.fits, Json.asBinary64?]

theorem finds_string_iff {raw : String} (h : c.value = .string raw) :
    c.Finds record ↔ (stringField? record c.name).isSome := by
  rw [Condition.Finds, h, stringField?]
  cases record.get? c.name with
  | none => simp
  | some found => cases found <;> simp [Value.fits, Json.asString?]

/-- What a test and its opposite say of a record that the condition finds a value in, and of one
that it does not. -/
structure Opposed (c : Condition) (test opposite : Json → Bool) (record : Json) : Prop where
  found : c.Finds record → opposite record = !test record
  missed : ¬ c.Finds record → test record = false ∧ opposite record = false

theorem opposed_number {test opposite : Binary64 → Bool} (hvalue : c.value = .number bound)
    (h : ∀ value, value.isNaN = false →
      if bound.isNaN then test value = false ∧ opposite value = false
      else opposite value = !test value) :
    Opposed c (fun record => (numberField? record c.name).any test)
      (fun record => (numberField? record c.name).any opposite) record := by
  have hfinds : c.Finds record ↔ _ := finds_number_iff hvalue
  cases hfield : numberField? record c.name with
  | none =>
    rw [hfield] at hfinds
    refine ⟨fun hfound => absurd (hfinds.mp hfound).2 (by simp), fun _ => ?_⟩
    simp [hfield]
  | some value =>
    rw [hfield] at hfinds
    have hvalues := h value (isNaN_of_numberField? hfield)
    cases hbound : bound.isNaN with
    | true =>
      rw [if_pos hbound] at hvalues
      refine ⟨fun hfound => absurd (hfinds.mp hfound).1 (by simp [hbound]), fun _ => ?_⟩
      simpa [hfield] using hvalues
    | false =>
      rw [hbound, if_neg Bool.false_ne_true] at hvalues
      refine ⟨fun _ => ?_, fun hmissed => absurd (hfinds.mpr ⟨hbound, rfl⟩) hmissed⟩
      simpa [hfield] using hvalues

theorem opposed_string {test opposite : String → Bool} {raw : String}
    (hvalue : c.value = .string raw) (h : ∀ value, opposite value = !test value) :
    Opposed c (fun record => (stringField? record c.name).any test)
      (fun record => (stringField? record c.name).any opposite) record := by
  have hfinds : c.Finds record ↔ _ := finds_string_iff hvalue
  cases hfield : stringField? record c.name with
  | none =>
    rw [hfield] at hfinds
    refine ⟨fun hfound => absurd (hfinds.mp hfound) (by simp), fun _ => ?_⟩
    simp [hfield]
  | some value =>
    rw [hfield] at hfinds
    refine ⟨fun _ => ?_, fun hmissed => absurd (hfinds.mpr rfl) hmissed⟩
    simpa [hfield] using h value

variable {test : Json → Bool}

theorem exists_literalTest_complement
    (h : rules.literalTest c.name c.operator c.value = .ok test) :
    ∃ opposite, rules.literalTest c.name c.operator.complement c.value = .ok opposite
      ∧ ∀ record, Opposed c test opposite record := by
  cases hvalue : c.value with
  | number bound =>
    rw [hvalue, literalTest] at h
    cases hnumbers : numberTest c.operator bound with
    | error objection =>
      rw [hnumbers] at h
      cases h
    | ok numbers =>
      rw [hnumbers] at h
      obtain ⟨others, hothers, hopposed⟩ := exists_numberTest_complement hnumbers
      refine ⟨fun record => (numberField? record c.name).any others, ?_, fun record => ?_⟩
      · rw [literalTest, hothers]
        rfl
      · rw [← Except.ok.inj h]
        exact opposed_number hvalue hopposed
  | string raw =>
    rw [hvalue, literalTest] at h
    cases htexts : rules.stringTest c.operator
        (String.ofList (Text.Quoted.decode raw.toList)) with
    | error objection =>
      rw [htexts] at h
      cases h
    | ok texts =>
      rw [htexts] at h
      obtain ⟨others, hothers, hopposed⟩ := exists_stringTest_complement htexts
      refine ⟨fun record => (stringField? record c.name).any others, ?_, fun record => ?_⟩
      · rw [literalTest, hothers]
        rfl
      · rw [← Except.ok.inj h]
        exact opposed_string hvalue hopposed

/-- What the rules demand of a condition before they give it a test. -/
theorem bind_eq_ok_iff :
    rules.bind c = .ok test ↔ rules.check c.name c.value.kind = .ok ()
      ∧ rules.literalTest c.name c.operator c.value = .ok test := by
  rw [bind, Rules.test]
  cases rules.check c.name c.value.kind with
  | error objection => simp [Bind.bind, Except.bind]
  | ok =>
    cases h : rules.literalTest c.name c.operator c.value with
    | error objection => simp [Bind.bind, Except.bind]
    | ok test => simp [Bind.bind, Except.bind]

/-- The rules have a test of the dual of a condition if they have one of the condition. -/
theorem exists_bind_dual (h : rules.bind c = .ok test) :
    ∃ opposite, rules.bind c.dual = .ok opposite ∧ ∀ record, Opposed c test opposite record := by
  obtain ⟨hcheck, htest⟩ := bind_eq_ok_iff.mp h
  obtain ⟨opposite, hopposite, hopposed⟩ := exists_literalTest_complement htest
  exact ⟨opposite, bind_eq_ok_iff.mpr ⟨hcheck, hopposite⟩, hopposed⟩

/-- Objections do not depend on where tokens stand, so a condition and the dual of its dual are
accepted alike. -/
theorem bind_dual_dual : rules.bind c.dual.dual = .ok test ↔ rules.bind c = .ok test := by
  rw [bind_eq_ok_iff, bind_eq_ok_iff]
  show _ ∧ rules.literalTest c.name c.operator.complement.complement c.value = .ok test ↔ _
  rw [Comparison.complement_complement]
  rfl

theorem exists_bind_dual_iff :
    (∃ opposite, rules.bind c.dual = .ok opposite) ↔ ∃ test, rules.bind c = .ok test := by
  constructor
  · rintro ⟨opposite, h⟩
    obtain ⟨test, htest, -⟩ := exists_bind_dual h
    exact ⟨test, bind_dual_dual.mp htest⟩
  · rintro ⟨test, h⟩
    obtain ⟨opposite, hopposite, -⟩ := exists_bind_dual h
    exact ⟨opposite, hopposite⟩

end Rules

/-! ## The dual of a filter -/

theorem Expr.conditions_dual (e : Expr) : e.dual.conditions = e.conditions.map Condition.dual :=
  Tree.leaves_map _ _ e

/-- The rules accept a filter exactly if they accept its dual. -/
theorem Expr.exists_compileFor_dual_iff {rules : Rules} {e : Expr} :
    (∃ compiled, e.dual.compileFor rules = .ok compiled)
      ↔ ∃ compiled, e.compileFor rules = .ok compiled := by
  unfold Expr.compileFor
  rw [exists_compile_eq_ok_iff, exists_compile_eq_ok_iff, Expr.conditions_dual, List.forall_mem_map]
  exact forall₂_congr fun c _ => Rules.exists_bind_dual_iff

/-- A compiled filter has the value of its source under the tests that the rules give. -/
theorem Expr.evaluate_of_compileFor {rules : Rules} {e : Expr} {compiled : Compiled Json}
    {test : Condition → Json → Bool} (h : ∀ c ∈ e.conditions, rules.bind c = .ok (test c))
    (hcompiled : e.compileFor rules = .ok compiled) (record : Json) :
    compiled.evaluate record = e.value Sourced.item (fun c => test c record) := by
  unfold Expr.compileFor at hcompiled
  rw [compile_eq_ok_map h] at hcompiled
  rw [← Except.ok.inj hcompiled, Compiled.evaluate_eq_value, Tree.value_map]
  rfl

/-- On a record with a value to compare under every name, the dual of a filter has the opposite
value. -/
theorem Expr.evaluate_dual {rules : Rules} {e : Expr} {compiled dual : Compiled Json}
    {record : Json} (hcompiled : e.compileFor rules = .ok compiled)
    (hdual : e.dual.compileFor rules = .ok dual) (hfinds : ∀ c ∈ e.conditions, c.Finds record) :
    dual.evaluate record = !compiled.evaluate record := by
  have htests := exists_compile_eq_ok_iff.mp ⟨compiled, hcompiled⟩
  have hopposites := exists_compile_eq_ok_iff.mp ⟨dual, hdual⟩
  choose! test htest using htests
  choose! opposite hopposite using hopposites
  rw [Expr.evaluate_of_compileFor htest hcompiled, Expr.evaluate_of_compileFor hopposite hdual,
    Expr.dual, Tree.value_map]
  refine Tree.value_dual Sourced.item fun c hc => ?_
  obtain ⟨other, hother, hopposed⟩ := Rules.exists_bind_dual (htest c hc)
  have hmem : c.dual ∈ e.dual.conditions := by
    rw [Expr.conditions_dual]
    exact List.mem_map_of_mem hc
  rw [hopposite c.dual hmem] at hother
  rw [Except.ok.inj hother]
  exact (hopposed record).found (hfinds c hc)

/-- A number that was read in an expression is one. -/
theorem Expr.isNaN_of_ofText {text : String} {e : Expr} (h : Expr.ofText text = .ok e)
    {c : Condition} (hc : c ∈ e.conditions) {bound : Binary64} (hvalue : c.value = .number bound) :
    bound.isNaN = false := by
  obtain ⟨tokens, hspelled, -, -⟩ := Expr.exists_spelledBy_of_ofText h
  obtain ⟨hfaithful, -⟩ := hspelled.leaves c hc
  rcases hfaithful.literal with ⟨-, hstring⟩ | ⟨-, number, hnumber, hitem⟩
  · rw [hstring] at hvalue
    cases hvalue
  · rw [hitem] at hvalue
    rw [← Value.number.inj hvalue]
    exact Binary64.isNaN_of_ofText? hnumber

/-- **The dual of a filter is its negation.** The rules object to both or to neither. On a record
that has a value to compare under every name, the dual holds exactly if the filter does not. On
any record, a condition that finds no such value is false, and so is its dual. The value to
compare has to be a number or a string as the literal is, and that is all that is asked of it if
the filter was read from a text, for then its literals are numbers or strings indeed. -/
theorem compileFor_dual (rules : Rules) (e : Expr) :
    ((∃ compiled, e.compileFor rules = .ok compiled)
        ↔ ∃ compiled, e.dual.compileFor rules = .ok compiled)
      ∧ (∀ compiled dual, e.compileFor rules = .ok compiled → e.dual.compileFor rules = .ok dual →
          ∀ record, (∀ c ∈ e.conditions, c.Finds record) →
            dual.evaluate record = !compiled.evaluate record)
      ∧ (∀ c ∈ e.conditions, ∀ test opposite, rules.bind c = .ok test →
          rules.bind c.dual = .ok opposite →
            ∀ record, ¬ c.Finds record → test record = false ∧ opposite record = false)
      ∧ ∀ text, Expr.ofText text = .ok e → ∀ c ∈ e.conditions, ∀ bound,
          c.value = .number bound → bound.isNaN = false := by
  refine ⟨Expr.exists_compileFor_dual_iff.symm, ?_, ?_, ?_⟩
  · intro compiled dual hcompiled hdual record hfinds
    exact Expr.evaluate_dual hcompiled hdual hfinds
  · intro c _ test opposite htest hopposite record hmissed
    obtain ⟨other, hother, hopposed⟩ := Rules.exists_bind_dual htest
    rw [hopposite] at hother
    rw [Except.ok.inj hother]
    exact (hopposed record).missed hmissed
  · intro text h c hc bound hvalue
    exact Expr.isNaN_of_ofText h hc hvalue

/-- A filter with a pattern, a group and a comparison of texts, on a record that it holds of. -/
theorem compileFor_dual_flight :
    let rules : Rules := ⟨.empty, true⟩
    let record : Json := .object [("a", .number (.integer 7 (by decide))), ("b", .string "DLH")]
    ∃ e compiled dual, Expr.ofText "a<=7 and (b=~'^dl' or b!='x') and a!=8" = .ok e
      ∧ e.dual.describe = "a > 7 or (b !~ '^dl' and b = 'x') or a = 8"
      ∧ e.compileFor rules = .ok compiled ∧ e.dual.compileFor rules = .ok dual
      ∧ (∀ c ∈ e.conditions, c.Finds record)
      ∧ compiled.evaluate record = true ∧ dual.evaluate record = false := by
  intro rules record
  have hrun : ((Expr.ofText "a<=7 and (b=~'^dl' or b!='x') and a!=8").toOption.any fun e =>
      decide (e.dual.describe = "a > 7 or (b !~ '^dl' and b = 'x') or a = 8")
        && decide (∀ c ∈ e.conditions, c.Finds record)
        && (e.compileFor rules).toOption.any fun compiled => compiled.evaluate record) = true := by
    decide +kernel
  cases he : Expr.ofText "a<=7 and (b=~'^dl' or b!='x') and a!=8" with
  | error error =>
    rw [he] at hrun
    cases hrun
  | ok e =>
    rw [he] at hrun
    cases hcompiled : e.compileFor rules with
    | error error => simp [Except.toOption, hcompiled] at hrun
    | ok compiled =>
      simp only [Except.toOption, hcompiled, Option.any_some, Bool.and_eq_true,
        decide_eq_true_eq] at hrun
      obtain ⟨⟨hdescribe, hfinds⟩, hvalue⟩ := hrun
      obtain ⟨hiff, hnegated, -, -⟩ := compileFor_dual rules e
      obtain ⟨dual, hdual⟩ := hiff.mp ⟨compiled, hcompiled⟩
      refine ⟨e, compiled, dual, rfl, hdescribe, hcompiled, hdual, hfinds, hvalue, ?_⟩
      rw [hnegated compiled dual hcompiled hdual record hfinds, hvalue]
      rfl

end RecordFilter
