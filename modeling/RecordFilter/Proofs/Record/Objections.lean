import RecordFilter.Proofs.Record.Duality

/-!
# Which filters have a meaning

What the rules ask of a condition (`Rules.Accepts`) is that its field is declared with the type of
its literal, unless nothing is declared, and that what it asks to be matched is a text that spells
a pattern. A condition of which this is not so is objected to. Each of the four checks behind it
may find a fault of its own (`Rules.faults`), and the one that is reported is the first of them
(`Rules.cause?_test`).

A filter has a meaning if all of its conditions are accepted. Otherwise the objection is that to
the first one that is not, and it is made at the name of its field. `compileFor_accepts` says both.
-/

namespace RecordFilter

/-- Whether a comparison asks for a match of a pattern. -/
def Comparison.IsMatch (c : Comparison) : Prop := c = .matching ∨ c = .notMatching

instance (c : Comparison) : Decidable c.IsMatch := inferInstanceAs (Decidable (_ ∨ _))

theorem Comparison.compares_iff {c : Comparison} : c.Compares ↔ ¬ c.IsMatch := not_or.symm

/-- Whether a schema allows a condition: unless it declares nothing, it declares the field, with
the type that the literal has. -/
def Schema.Allows (schema : Schema) (c : Condition) : Prop :=
  schema = .empty ∨ ∃ type, schema.typeOf? c.name = some type ∧ type.valueKind = c.value.kind

namespace Rules

variable {rules : Rules} {c : Condition} {objection : Objection}

/-! ## What is asked of a condition -/

/-- What the rules ask of a condition. -/
structure Accepts (rules : Rules) (c : Condition) : Prop where
  /-- Unless nothing is declared, the field is, with the type that the literal has. -/
  allowed : rules.schema.Allows c
  /-- What is matched against is a string. -/
  matchesString : c.operator.IsMatch → c.value.kind = .string
  /-- The text of that string spells a pattern, once it is set to disregard case if it has to. -/
  spellsPattern : c.operator.IsMatch → ∀ text, c.value.unquoted = .ok text →
    ∃ pattern, Pattern.ofText (rules.patternText text) = .ok pattern

/-! ## Checks -/

/-- The fault of a condition on a field that would have to be declared and is not. -/
def undeclared? (rules : Rules) (c : Condition) : Option Objection :=
  if rules.schema = .empty ∨ (rules.schema.typeOf? c.name).isSome then none
  else some (.unknownField (rules.schema.suggestion? c.name))

/-- The fault of a literal that is not of the declared type. -/
def mistyped? (rules : Rules) (c : Condition) : Option Objection :=
  (rules.schema.typeOf? c.name).bind fun declared =>
    if declared.valueKind = c.value.kind then none else some (.wrongKind declared c.value.kind)

/-- The fault of a number to be matched against. -/
def matchesNumber? (c : Condition) : Option Objection :=
  if c.operator.IsMatch ∧ c.value.kind = .number then some (.patternNotString c.operator) else none

/-- The fault of a text that spells no pattern. -/
def misspelled? (rules : Rules) (c : Condition) : Option Objection :=
  if c.operator.IsMatch then
    c.value.unquoted.toOption.bind fun text =>
      (cause? (Pattern.ofText (rules.patternText text))).map .invalidPattern
  else none

/-- The faults that the checks find, each by itself, in the order in which they are made. -/
def faults (rules : Rules) (c : Condition) : List (Option Objection) :=
  [rules.undeclared? c, rules.mistyped? c, matchesNumber? c, rules.misspelled? c]

/-! ## The first fault is reported -/

/-- A field is looked at first for being declared and then for its type. -/
theorem cause?_check : cause? (rules.check c.name c.value.kind)
    = firstFault [rules.undeclared? c, rules.mistyped? c] := by
  unfold check undeclared? mistyped?
  by_cases hempty : rules.schema = .empty
  · rw [hempty]
    rfl
  · have hclosed : rules.schema.isClosed = true := by
      rw [Schema.isClosed, Bool.not_eq_true', List.isEmpty_eq_false_iff]
      exact fun hfields => hempty (congrArg Schema.mk hfields)
    rw [if_pos hclosed]
    cases htype : rules.schema.typeOf? c.name with
    | none => simp [hempty, cause?, firstFault]
    | some declared =>
      by_cases hkind : declared.valueKind = c.value.kind
      · simp [hkind, cause?, firstFault]
      · simp [hkind, cause?, firstFault]

/-- A number is no pattern. -/
theorem cause?_numberTest {comparison : Comparison} {bound : Binary64} :
    cause? (numberTest comparison bound)
      = if comparison.IsMatch then some (.patternNotString comparison) else none := by
  cases comparison <;> rfl

/-- A text is objected to only where it is a pattern that cannot be read. -/
theorem cause?_stringTest {comparison : Comparison} {text : String} :
    cause? (rules.stringTest comparison text)
      = if comparison.IsMatch then
          (cause? (Pattern.ofText (rules.patternText text))).map .invalidPattern
        else none := by
  by_cases hmatch : comparison.IsMatch
  · rw [if_pos hmatch]
    cases hpattern : Pattern.ofText (rules.patternText text) <;>
      rcases hmatch with rfl | rfl <;> simp [stringTest, hpattern, cause?]
  · rw [if_neg hmatch, stringTest_of_compares (Comparison.compares_iff.mpr hmatch)]
    rfl

/-- The literal is looked at for being a number where a pattern is due, and then for its spelling.
-/
theorem cause?_literalTest : cause? (rules.literalTest c.name c.operator c.value)
    = firstFault [matchesNumber? c, rules.misspelled? c] := by
  unfold matchesNumber? misspelled?
  cases hvalue : c.value with
  | number bound =>
    rw [literalTest, cause?_bind_pure, cause?_numberTest]
    by_cases hmatch : c.operator.IsMatch <;> simp [hmatch, firstFault, Value.kind, Value.unquoted,
      Except.toOption]
  | string raw =>
    rw [literalTest, cause?_bind_pure, cause?_stringTest]
    by_cases hmatch : c.operator.IsMatch <;> simp [hmatch, firstFault, Value.kind, Value.unquoted,
      Except.toOption]

/-- Of the faults of a condition, the first one is reported. -/
theorem cause?_test : cause? (rules.test c) = firstFault (rules.faults c) := by
  rw [test, cause?_bind_unit, cause?_check, cause?_literalTest, ← firstFault_append]
  rfl

/-- The schema allows a condition if neither of its two objections is raised. -/
theorem allows_iff : rules.schema.Allows c
    ↔ rules.undeclared? c = none ∧ rules.mistyped? c = none := by
  unfold Schema.Allows undeclared? mistyped?
  by_cases hempty : rules.schema = .empty
  · have htype : Schema.empty.typeOf? c.name = none := rfl
    simp [hempty, htype]
  · cases htype : rules.schema.typeOf? c.name with
    | none => simp [hempty]
    | some declared => simp [hempty]

/-- Where a pattern is due the literal has to be a text. -/
theorem matchesNumber?_eq_none_iff :
    matchesNumber? c = none ↔ (c.operator.IsMatch → c.value.kind = .string) := by
  unfold matchesNumber?
  cases c.value <;> simp [Value.kind]

/-- Where a pattern is due it has to be one that can be read. -/
theorem misspelled?_eq_none_iff : rules.misspelled? c = none
    ↔ (c.operator.IsMatch → ∀ text, c.value.unquoted = .ok text →
      ∃ pattern, Pattern.ofText (rules.patternText text) = .ok pattern) := by
  unfold misspelled?
  split
  · next hmatch =>
    cases c.value.unquoted with
    | error cause => simp [hmatch, Except.toOption]
    | ok text => simp [hmatch, Except.toOption, cause?_eq_none_iff]
  · next hmatch => simp [hmatch]

/-- A condition is accepted if no check finds a fault in it. -/
theorem accepts_iff : rules.Accepts c ↔ firstFault (rules.faults c) = none := by
  rw [firstFault_eq_none_iff, faults]
  simp only [List.forall_mem_cons, List.not_mem_nil, false_implies, implies_true, and_true]
  rw [← and_assoc, ← allows_iff, matchesNumber?_eq_none_iff, misspelled?_eq_none_iff]
  exact ⟨fun h => ⟨h.allowed, h.matchesString, h.spellsPattern⟩,
    fun ⟨hallowed, hstring, hpattern⟩ => ⟨hallowed, hstring, hpattern⟩⟩

/-- The schema has nothing against a condition that it allows. -/
theorem check_eq_ok_iff : rules.check c.name c.value.kind = .ok () ↔ rules.schema.Allows c := by
  have hcheck : rules.check c.name c.value.kind = .ok ()
      ↔ cause? (rules.check c.name c.value.kind) = none := by
    rw [cause?_eq_none_iff]
    exact ⟨fun h => ⟨(), h⟩, fun ⟨(), h⟩ => h⟩
  rw [hcheck, cause?_check, firstFault_eq_none_iff, allows_iff]
  simp only [List.forall_mem_cons, List.not_mem_nil, false_implies, implies_true, and_true]

/-- Binding a condition fails with the first objection to it, at its identifier. -/
theorem cause?_bind : cause? (rules.bind c)
    = (firstFault (rules.faults c)).map fun o => .condition o.message c.identifier := by
  rw [← cause?_test, bind]
  cases rules.test c <;> rfl

/-- A condition is bound if there is no objection to it. -/
theorem exists_bind_iff : (∃ test, rules.bind c = .ok test) ↔ rules.Accepts c := by
  rw [← cause?_eq_none_iff, cause?_bind, Option.map_eq_none_iff, accepts_iff]

/-- A condition that cannot be bound fails with its first objection. -/
theorem bind_eq_error_iff {error : ExprError} : rules.bind c = .error error
    ↔ ∃ objection, firstFault (rules.faults c) = some objection
      ∧ error = .condition objection.message c.identifier := by
  rw [← cause?_eq_some_iff, cause?_bind, Option.map_eq_some_iff]
  simp only [eq_comm]

end Rules

/-! ## Filters -/

/-- A filter that begins like one that is objected to is objected to alike. -/
theorem compileFor_eq_error_of_front {rules : Rules} {e : Expr} {before : List Condition}
    {c : Condition} {objection : Objection} (hbefore : ∀ b ∈ before, rules.Accepts b)
    (hfault : firstFault (rules.faults c) = some objection)
    (h : before ++ [c] <+: e.conditions) :
    e.compileFor rules = .error (.condition objection.message c.identifier) := by
  obtain ⟨after, hafter⟩ := h
  refine compile_eq_error_iff.mpr ⟨before, c, after, ?_, fun b hb => ?_, ?_⟩
  · rw [← hafter, List.append_assoc]
    rfl
  · exact Rules.exists_bind_iff.mpr (hbefore b hb)
  · exact Rules.bind_eq_error_iff.mpr ⟨objection, hfault, rfl⟩

/-- **A filter has a meaning exactly if every condition is accepted.** Otherwise there is a first
condition that is not. What is reported is the first fault that the checks find in it, at the name
of its field, and this is what is reported of every filter that begins with the same conditions. -/
theorem compileFor_accepts (rules : Rules) (e : Expr) :
    ((∃ compiled, e.compileFor rules = .ok compiled) ↔ ∀ c ∈ e.conditions, rules.Accepts c)
      ∧ (∀ error, e.compileFor rules = .error error ↔
        ∃ before c after objection, e.conditions = before ++ c :: after
          ∧ (∀ b ∈ before, rules.Accepts b) ∧ ¬ rules.Accepts c
          ∧ firstFault (rules.faults c) = some objection
          ∧ error = .condition objection.message c.identifier
          ∧ error.position? = some c.identifier.position)
      ∧ ∀ before c after, e.conditions = before ++ c :: after →
        (∀ b ∈ before, rules.Accepts b) → ¬ rules.Accepts c →
          ∀ other : Expr, before ++ [c] <+: other.conditions →
            other.compileFor rules = e.compileFor rules := by
  refine ⟨?_, fun error => ?_, ?_⟩
  · exact exists_compile_eq_ok_iff.trans (forall₂_congr fun c _ => Rules.exists_bind_iff)
  · refine compile_eq_error_iff.trans ?_
    constructor
    · rintro ⟨before, c, after, hrow, hbefore, hc⟩
      obtain ⟨objection, hfault, rfl⟩ := Rules.bind_eq_error_iff.mp hc
      refine ⟨before, c, after, objection, hrow,
        fun b hb => Rules.exists_bind_iff.mp (hbefore b hb), ?_, hfault, rfl, rfl⟩
      rw [Rules.accepts_iff, hfault]
      exact Option.some_ne_none objection
    · rintro ⟨before, c, after, objection, hrow, hbefore, -, hfault, herror, -⟩
      exact ⟨before, c, after, hrow, fun b hb => Rules.exists_bind_iff.mpr (hbefore b hb),
        Rules.bind_eq_error_iff.mpr ⟨objection, hfault, herror⟩⟩
  · intro before c after hrow hbefore hc other hother
    rw [Rules.accepts_iff] at hc
    obtain ⟨objection, hfault⟩ := Option.ne_none_iff_exists'.mp hc
    have hself : before ++ [c] <+: e.conditions := ⟨after, by rw [hrow, List.append_assoc]; rfl⟩
    rw [compileFor_eq_error_of_front hbefore hfault hother,
      compileFor_eq_error_of_front hbefore hfault hself]

/-- Of three conditions the first is accepted. The second has two faults, of which the first one is
reported, and the third one is not looked at. -/
theorem compileFor_accepts_twoFaults :
    let rules : Rules := ⟨⟨[("alt", .number), ("cs", .string)]⟩, false⟩
    ∃ e a b c, Expr.ofText "alt > 3 and cs =~ 7 and nope = 1" = .ok e ∧ e.conditions = [a, b, c]
      ∧ Rules.matchesNumber? b = some (.patternNotString .matching)
      ∧ (¬ ∃ compiled, e.compileFor rules = .ok compiled)
      ∧ e.compileFor rules
        = .error (.condition "field is a string but the literal is a number" b.identifier) := by
  intro rules
  have hfaults : ((Expr.ofText "alt > 3 and cs =~ 7 and nope = 1").toOption.map fun e =>
      e.conditions.map fun c => (firstFault (rules.faults c), Rules.matchesNumber? c))
        = some [(none, none),
          (some (.wrongKind .string .number), some (.patternNotString .matching)),
          (some (.unknownField none), none)] := by
    decide +kernel
  cases he : Expr.ofText "alt > 3 and cs =~ 7 and nope = 1" with
  | error error =>
    rw [he] at hfaults
    cases hfaults
  | ok e =>
    rw [he] at hfaults
    obtain ⟨a, others, hrow, ha, hothers⟩ := List.map_eq_cons_iff.mp (Option.some.inj hfaults)
    obtain ⟨b, last, rfl, hb, hlast⟩ := List.map_eq_cons_iff.mp hothers
    obtain ⟨c, nothing, rfl, -, hnothing⟩ := List.map_eq_cons_iff.mp hlast
    obtain rfl := List.map_eq_nil_iff.mp hnothing
    obtain ⟨haccepted, -⟩ := Prod.mk.inj ha
    obtain ⟨hfault, hnumber⟩ := Prod.mk.inj hb
    obtain ⟨hiff, herror, -⟩ := compileFor_accepts rules e
    have hrefused : ¬ rules.Accepts b := by
      rw [Rules.accepts_iff, hfault]
      exact Option.some_ne_none _
    refine ⟨e, a, b, c, rfl, hrow, hnumber, ?_, ?_⟩
    · rw [hiff, hrow]
      exact fun hall => hrefused (hall b (List.mem_cons_of_mem _ List.mem_cons_self))
    · refine (herror _).mpr ⟨[a], b, [c], _, hrow, ?_, hrefused, hfault, rfl, rfl⟩
      exact List.forall_mem_singleton.mpr (Rules.accepts_iff.mpr haccepted)

end RecordFilter
