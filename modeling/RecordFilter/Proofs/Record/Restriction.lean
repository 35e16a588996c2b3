import RecordFilter.Proofs.Record.Objections

/-!
# Declarations only restrict

Whether a condition is allowed is for the schema to say (`Rules.check_eq_ok_iff`). What it asks of
a record is not: its test is made from its literal and from the regard for case
(`Rules.literalTest_withSchema`). So a filter that is accepted with some declarations is the same
test of records with any others that accept it, and without declarations it is always accepted
(`compileFor_withSchema`).
-/

namespace RecordFilter

namespace Rules

variable {rules : Rules} {schema : Schema} {c : Condition} {test : Json → Bool}

/-- The rules with other declarations. -/
def withSchema (rules : Rules) (schema : Schema) : Rules := { rules with schema := schema }

theorem literalTest_withSchema (name : String) (comparison : Comparison) (value : Value) :
    (rules.withSchema schema).literalTest name comparison value
      = rules.literalTest name comparison value := by
  cases value <;> rfl

/-- A condition that has a test with some declarations has it with all that allow it. -/
theorem bind_withSchema_of_allows (h : rules.bind c = .ok test) (hallows : schema.Allows c) :
    (rules.withSchema schema).bind c = .ok test := by
  obtain ⟨-, htest⟩ := bind_eq_ok_iff.mp h
  refine bind_eq_ok_iff.mpr ⟨check_eq_ok_iff.mpr hallows, ?_⟩
  rwa [literalTest_withSchema]

end Rules

section Filters

variable {rules : Rules} {schema : Schema} {e : Expr} {compiled : Compiled Json}

/-- A filter that is accepted is allowed by the schema, condition by condition. -/
theorem allows_of_compileFor (h : e.compileFor rules = .ok compiled) :
    ∀ c ∈ e.conditions, rules.schema.Allows c := fun c hc =>
  (Rules.exists_bind_iff.mp (exists_compile_eq_ok_iff.mp ⟨compiled, h⟩ c hc)).allowed

/-- What an accepted filter is compiled to does not depend on the schema that allows it. -/
theorem compileFor_withSchema_of_allows (h : e.compileFor rules = .ok compiled)
    (hallows : ∀ c ∈ e.conditions, schema.Allows c) :
    e.compileFor (rules.withSchema schema) = .ok compiled := by
  have htests := exists_compile_eq_ok_iff.mp ⟨compiled, h⟩
  choose! test htest using htests
  have hcompiled : e.compileFor rules = .ok (e.map id fun c => ⟨c, test c⟩) :=
    compile_eq_ok_map htest
  rw [← Except.ok.inj (hcompiled.symm.trans h)]
  exact compile_eq_ok_map fun c hc => Rules.bind_withSchema_of_allows (htest c hc) (hallows c hc)

/-- **Declarations may forbid a filter, and never change what it matches.** A filter that is
accepted is the same test of records without any declarations. If there are some, then it is so,
too, with all others that agree with them on the names in the filter. And whatever is declared, if
the filter is accepted, then as this test. -/
theorem compileFor_withSchema (h : e.compileFor rules = .ok compiled) :
    e.compileFor (rules.withSchema .empty) = .ok compiled
      ∧ (rules.schema ≠ .empty → ∀ other : Schema,
        (∀ c ∈ e.conditions, other.typeOf? c.name = rules.schema.typeOf? c.name) →
          e.compileFor (rules.withSchema other) = .ok compiled)
      ∧ ∀ other compiled', e.compileFor (rules.withSchema other) = .ok compiled' →
        compiled' = compiled ∧ ∀ record, compiled'.evaluate record = compiled.evaluate record := by
  refine ⟨?_, ?_, ?_⟩
  · exact compileFor_withSchema_of_allows h fun c _ => .inl rfl
  · intro hdeclares other hagree
    refine compileFor_withSchema_of_allows h fun c hc => .inr ?_
    obtain ⟨type, htype, hkind⟩ := (allows_of_compileFor h c hc).resolve_left hdeclares
    exact ⟨type, (hagree c hc).trans htype, hkind⟩
  · intro other compiled' h'
    have hsame : compiled' = compiled := by
      have hallowed := compileFor_withSchema_of_allows h (allows_of_compileFor h')
      exact Except.ok.inj (h'.symm.trans hallowed)
    exact ⟨hsame, fun record => congrArg (Compiled.evaluate · record) hsame⟩

/-- A filter under declarations of which it uses two, under these two alone and under none. -/
theorem compileFor_withSchema_twoOfThree :
    let rules : Rules := ⟨⟨[("alt", .number), ("cs", .string), ("gs", .string)]⟩, true⟩
    let other : Schema := ⟨[("alt", .number), ("cs", .string)]⟩
    let record : Json := .object [("alt", .number (.integer 7 (by decide))), ("cs", .string "DLH")]
    ∃ e compiled, Expr.ofText "alt > 3 and (cs =~ '^dl' or alt = 0)" = .ok e
      ∧ e.compileFor rules = .ok compiled
      ∧ (∀ c ∈ e.conditions, other.typeOf? c.name = rules.schema.typeOf? c.name)
      ∧ e.compileFor (rules.withSchema other) = .ok compiled
      ∧ e.compileFor (rules.withSchema .empty) = .ok compiled
      ∧ compiled.evaluate record = true := by
  intro rules other record
  have hrun : ((Expr.ofText "alt > 3 and (cs =~ '^dl' or alt = 0)").toOption.any fun e =>
      decide (∀ c ∈ e.conditions, other.typeOf? c.name = rules.schema.typeOf? c.name)
        && (e.compileFor rules).toOption.any fun compiled => compiled.evaluate record) = true := by
    decide +kernel
  cases he : Expr.ofText "alt > 3 and (cs =~ '^dl' or alt = 0)" with
  | error error =>
    rw [he] at hrun
    cases hrun
  | ok e =>
    rw [he] at hrun
    cases hcompiled : e.compileFor rules with
    | error error => simp [Except.toOption, hcompiled] at hrun
    | ok compiled =>
      simp only [Except.toOption, hcompiled, Option.any_some, Bool.and_eq_true,
        decide_eq_true_eq] at hrun
      obtain ⟨hagree, hholds⟩ := hrun
      obtain ⟨hfree, hothers, -⟩ := compileFor_withSchema hcompiled
      exact ⟨e, compiled, rfl, hcompiled, hagree, hothers (by decide) other hagree, hfree, hholds⟩

end Filters

end RecordFilter
