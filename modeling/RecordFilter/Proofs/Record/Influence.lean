import RecordFilter.Proofs.Record.Duality

/-!
# What a record has to say

A condition looks at one value of a record, the one under its name, and it can only hold if that
value is a number or a string (`Rules.exists_verdict_of_bind`). The tables of the connectives are
monotone: where more leaves hold, the tree still holds (`Tree.value_mono`). So a filter that holds
of a record holds of every record that says at least as much under the names of its conditions
(`Json.Covers`). Values that cannot be compared never help a record to match, and what stands under
other names does not matter.
-/

namespace RecordFilter

/-! ## Records that say at least as much -/

namespace Json

/-- Whether there is anything in a value that a literal could be compared with. -/
def isComparable : Json → Bool
  | number _ | string _ => true
  | _ => false

/-- A record says at least as much as another one under a name: it has the same value there or
neither has one, or what the other one has there cannot be compared with anything. -/
def Covers (record other : Json) (name : String) : Prop :=
  record.get? name = other.get? name ∨ ∀ value ∈ other.get? name, value.isComparable = false

/-- What becomes of a member of an object. -/
inductive Loss where
  | kept
  | nulled
  | removed
deriving DecidableEq, Repr

/-- A member that may be lost. -/
def losingMember (loss : String → Loss) (member : String × Json) : Option (String × Json) :=
  match loss member.1 with
  | .kept => some member
  | .nulled => some (member.1, null)
  | .removed => none

/-- A record in which members are set to null or are removed, as their keys say. -/
def losing (loss : String → Loss) : Json → Json
  | object members => object (members.filterMap (losingMember loss))
  | other => other

theorem find?_losing (loss : String → Loss) (key : String) (members : List (String × Json)) :
    Keyed.find? key (members.filterMap (losingMember loss)) = match loss key with
      | .kept => Keyed.find? key members
      | .nulled => (Keyed.find? key members).map fun _ => null
      | .removed => none := by
  induction members with
  | nil => cases loss key <;> rfl
  | cons member members ih =>
    obtain ⟨k, value⟩ := member
    by_cases hkey : k = key
    · subst hkey
      cases hloss : loss k with
      | kept => simp [losingMember, hloss, Keyed.find?]
      | nulled => simp [losingMember, hloss, Keyed.find?]
      | removed =>
        rw [hloss] at ih
        simpa [losingMember, hloss] using ih
    -- a member under another key is passed over, whatever becomes of it
    · cases hloss : loss k with
      | kept => simp [losingMember, hloss, Keyed.find?, hkey, ih]
      | nulled => simp [losingMember, hloss, Keyed.find?, hkey, ih]
      | removed => simp [losingMember, hloss, Keyed.find?, hkey, ih]

/-- A record says at least as much as what is left of it when members are lost. -/
theorem covers_losing (record : Json) (loss : String → Loss) (name : String) :
    record.Covers (record.losing loss) name := by
  cases record with
  | object members =>
    show Keyed.find? name members = Keyed.find? name (members.filterMap (losingMember loss))
      ∨ ∀ value ∈ Keyed.find? name (members.filterMap (losingMember loss)),
        value.isComparable = false
    rw [find?_losing]
    cases loss name with
    | kept => exact .inl rfl
    | nulled =>
      right
      intro value hvalue
      obtain ⟨-, -, rfl⟩ := Option.map_eq_some_iff.mp hvalue
      rfl
    | removed => exact .inr fun value hvalue => nomatch hvalue
  | _ => exact .inl rfl

end Json

/-! ## Tests of one value -/

namespace Rules

variable {rules : Rules} {c : Condition} {test : Json → Bool}

/-- The test of a condition is a verdict on the value under its name, and the verdict on a value
that cannot be compared is that it does not hold. -/
theorem exists_verdict_of_bind (h : rules.bind c = .ok test) :
    ∃ verdict : Json → Bool, (∀ value, value.isComparable = false → verdict value = false)
      ∧ ∀ record, test record = (record.get? c.name).any verdict := by
  obtain ⟨-, htest⟩ := bind_eq_ok_iff.mp h
  cases hvalue : c.value with
  | number bound =>
    rw [hvalue, literalTest] at htest
    obtain ⟨numbers, -, heq⟩ := exists_of_bind_eq_ok htest
    obtain rfl := Except.ok.inj heq
    refine ⟨fun value => value.asBinary64?.any numbers, fun value hne => ?_, fun record => ?_⟩
    · cases value with
      | number n => cases hne
      | _ => rfl
    · show ((record.get? c.name).bind Json.asBinary64?).any numbers = _
      cases record.get? c.name <;> rfl
  | string raw =>
    rw [hvalue, literalTest] at htest
    obtain ⟨texts, -, heq⟩ := exists_of_bind_eq_ok htest
    obtain rfl := Except.ok.inj heq
    refine ⟨fun value => value.asString?.any texts, fun value hne => ?_, fun record => ?_⟩
    · cases value with
      | string text => cases hne
      | _ => rfl
    · show ((record.get? c.name).bind Json.asString?).any texts = _
      cases record.get? c.name <;> rfl

/-- A test that holds of a record holds of every record that says at least as much. -/
theorem test_of_covers (h : rules.bind c = .ok test) {record other : Json}
    (hcovers : record.Covers other c.name) (hother : test other = true) : test record = true := by
  obtain ⟨verdict, hverdict, htest⟩ := exists_verdict_of_bind h
  rw [htest] at hother ⊢
  rcases hcovers with hsame | hnothing
  · rwa [hsame]
  · obtain ⟨value, hvalue, hholds⟩ := (Option.any_eq_true _ _).mp hother
    rw [hverdict value (hnothing value hvalue)] at hholds
    cases hholds

/-- A test does not hold of a record without members. -/
theorem test_of_no_members (h : rules.bind c = .ok test) {record : Json}
    (hrecord : ∀ members, record ≠ .object members) : test record = false := by
  obtain ⟨verdict, -, htest⟩ := exists_verdict_of_bind h
  rw [htest]
  cases record with
  | object members => exact absurd rfl (hrecord members)
  | _ => rfl

end Rules

/-! ## Trees are monotone -/

section Trees

variable {ω α : Type} {l : Level} {connective : ω → Connective}

theorem Connective.combine_mono (c : Connective) {left right left' right' : Bool}
    (hleft : left = true → left' = true) (hright : right = true → right' = true)
    (h : c.combine left right = true) : c.combine left' right' = true := by
  cases c with
  | and =>
    obtain ⟨hl, hr⟩ := Bool.and_eq_true_iff.mp h
    exact Bool.and_eq_true_iff.mpr ⟨hleft hl, hright hr⟩
  | or =>
    rcases (Bool.or_eq_true _ _).mp h with hl | hr
    · exact (Bool.or_eq_true _ _).mpr (.inl (hleft hl))
    · exact (Bool.or_eq_true _ _).mpr (.inr (hright hr))

/-- A tree that holds still holds if more of its leaves do. -/
theorem Tree.value_mono {holds holds' : α → Bool} {t : Tree ω α l}
    (hleaves : ∀ a ∈ t.leaves, holds a = true → holds' a = true)
    (h : t.value connective holds = true) : t.value connective holds' = true := by
  induction t with
  | leaf content => exact hleaves content (List.mem_singleton_self content) h
  | group inner ih => exact ih hleaves h
  | single operand ih => exact ih hleaves h
  | join operand c rest ihOperand ihRest =>
    refine (connective c).combine_mono (fun hl => ?_) (fun hr => ?_) h
    · exact ihOperand (fun a ha => hleaves a (List.mem_append_left _ ha)) hl
    · exact ihRest (fun a ha => hleaves a (List.mem_append_right _ ha)) hr

/-- A tree holds only if one of its leaves does. -/
theorem Tree.exists_leaf_of_value {holds : α → Bool} {t : Tree ω α l}
    (h : t.value connective holds = true) : ∃ a ∈ t.leaves, holds a = true := by
  induction t with
  | leaf content => exact ⟨content, List.mem_singleton_self content, h⟩
  | group inner ih => exact ih h
  | single operand ih => exact ih h
  | join operand c rest ihOperand ihRest =>
    have hparts : operand.value connective holds = true ∨ rest.value connective holds = true := by
      rw [value] at h
      cases hc : connective c with
      | and =>
        rw [hc] at h
        exact .inl (Bool.and_eq_true_iff.mp h).1
      | or =>
        rw [hc] at h
        exact (Bool.or_eq_true _ _).mp h
    rcases hparts with hl | hr
    · obtain ⟨a, ha, hholds⟩ := ihOperand hl
      exact ⟨a, List.mem_append_left _ ha, hholds⟩
    · obtain ⟨a, ha, hholds⟩ := ihRest hr
      exact ⟨a, List.mem_append_right _ ha, hholds⟩

end Trees

/-! ## Filters -/

section Filters

variable {rules : Rules} {e : Expr} {compiled : Compiled Json} {record other : Json}

/-- The tests that the rules give to the conditions of a filter, and its value by them. -/
theorem exists_tests_of_compileFor (h : e.compileFor rules = .ok compiled) :
    ∃ test : Condition → Json → Bool, (∀ c ∈ e.conditions, rules.bind c = .ok (test c))
      ∧ ∀ record, compiled.evaluate record = e.value Sourced.item fun c => test c record := by
  have htests := exists_compile_eq_ok_iff.mp ⟨compiled, h⟩
  choose! test htest using htests
  exact ⟨test, htest, Expr.evaluate_of_compileFor htest h⟩

theorem evaluate_of_forall_covers (h : e.compileFor rules = .ok compiled)
    (hcovers : ∀ c ∈ e.conditions, record.Covers other c.name)
    (hother : compiled.evaluate other = true) : compiled.evaluate record = true := by
  obtain ⟨test, htest, hvalue⟩ := exists_tests_of_compileFor h
  rw [hvalue] at hother ⊢
  exact Tree.value_mono (fun c hc => Rules.test_of_covers (htest c hc) (hcovers c hc)) hother

/-- What a filter holds of is an object. -/
theorem exists_members_of_evaluate (h : e.compileFor rules = .ok compiled)
    (hrecord : compiled.evaluate record = true) : ∃ members, record = .object members := by
  by_contra hnone
  obtain ⟨test, htest, hvalue⟩ := exists_tests_of_compileFor h
  rw [hvalue] at hrecord
  obtain ⟨c, hc, hholds⟩ := Tree.exists_leaf_of_value hrecord
  have hfalse : test c record = false :=
    Rules.test_of_no_members (htest c hc) fun members heq => hnone ⟨members, heq⟩
  rw [hfalse] at hholds
  cases hholds

/-- **Only comparable values under the names of a filter count.** A filter that holds of a record
holds of every record that says at least as much under each of its names. So it makes no
difference what stands under other names; nothing that is set to null or removed makes a filter
hold that did not hold before; and no filter holds of anything but an object. -/
theorem evaluate_of_covers (h : e.compileFor rules = .ok compiled) :
    (∀ record other, (∀ c ∈ e.conditions, record.Covers other c.name) →
        compiled.evaluate other = true → compiled.evaluate record = true)
      ∧ (∀ record other : Json, (∀ c ∈ e.conditions, record.get? c.name = other.get? c.name) →
        compiled.evaluate record = compiled.evaluate other)
      ∧ (∀ record loss, compiled.evaluate (record.losing loss) = true →
        compiled.evaluate record = true)
      ∧ ∀ record, (∀ members, record ≠ .object members) → compiled.evaluate record = false := by
  refine ⟨fun record other => evaluate_of_forall_covers h, ?_, ?_, ?_⟩
  · intro record other hsame
    refine Bool.eq_iff_iff.mpr ⟨?_, ?_⟩
    · exact evaluate_of_forall_covers h fun c hc => .inl (hsame c hc).symm
    · exact evaluate_of_forall_covers h fun c hc => .inl (hsame c hc)
  · intro record loss
    exact evaluate_of_forall_covers h fun c _ => record.covers_losing loss c.name
  · intro record hrecord
    by_contra hne
    obtain ⟨members, heq⟩ := exists_members_of_evaluate h (Bool.not_eq_false _ ▸ hne)
    exact hrecord members heq

/-- A filter with a negated comparison, on a record that is matched and on one that has lost the
member it is matched by. -/
theorem evaluate_of_covers_negated :
    let rules : Rules := ⟨.empty, false⟩
    let poor : Json := .object [("a", .null), ("b", .string "x")]
    let rich : Json := .object [("a", .bool true), ("b", .string "x"), ("c", .null)]
    ∃ e compiled, Expr.ofText "a != 1 or (b !~ 'y' and b != 'z')" = .ok e
      ∧ e.compileFor rules = .ok compiled
      ∧ (∀ c ∈ e.conditions, rich.Covers poor c.name)
      ∧ compiled.evaluate poor = true ∧ compiled.evaluate rich = true := by
  intro rules poor rich
  have hrun : ((Expr.ofText "a != 1 or (b !~ 'y' and b != 'z')").toOption.any fun e =>
      decide (e.conditions.map Condition.name = ["a", "b", "b"])
        && (e.compileFor rules).toOption.any fun compiled => compiled.evaluate poor) = true := by
    decide +kernel
  cases he : Expr.ofText "a != 1 or (b !~ 'y' and b != 'z')" with
  | error error =>
    rw [he] at hrun
    cases hrun
  | ok e =>
    rw [he] at hrun
    cases hcompiled : e.compileFor rules with
    | error error => simp [Except.toOption, hcompiled] at hrun
    | ok compiled =>
      simp only [Except.toOption, hcompiled, Option.any_some, Bool.and_eq_true,
        decide_eq_true_eq] at hrun
      obtain ⟨hnames, hpoor⟩ := hrun
      have hcovers : ∀ c ∈ e.conditions, rich.Covers poor c.name := by
        intro c hc
        have hname : c.name ∈ ["a", "b", "b"] := hnames ▸ List.mem_map_of_mem hc
        -- under the one name there is nothing to compare, under the other one the same
        rcases List.mem_cons.mp hname with ha | hb
        · right
          intro value hvalue
          rw [ha] at hvalue
          cases hvalue
          rfl
        · left
          have hb : c.name = "b" := by simpa using hb
          rw [hb]
          rfl
      exact ⟨e, compiled, rfl, hcompiled, hcovers, hpoor,
        (evaluate_of_covers hcompiled).1 rich poor hcovers hpoor⟩

end Filters

end RecordFilter
