import RecordFilter.Proofs.Expr.Compilation
import RecordFilter.Proofs.Record.Objections
import RecordFilter.Proofs.Text.Keyed

/-!
# What rules are made of

A schema is determined by the last declaration of each name (`declare_eq_iff`): in which order
different names are declared, at once or in several steps, makes no difference. Whether patterns
disregard case makes one for conditions that match only (`compileFor_ignoreCase`).
-/

namespace RecordFilter

/-! ## Declarations -/

section Declarations

variable {declarations others : List (String × FieldType)} {name : String} {type : FieldType}

/-- Whether the last declaration of a name declares it with this type. -/
def LastDeclared (declarations : List (String × FieldType)) (name : String) (type : FieldType) :
    Prop :=
  ∃ before after, declarations = before ++ (name, type) :: after
    ∧ ∀ later ∈ after, later.1 ≠ name

theorem find?_reverse_eq_some_iff :
    Keyed.find? name declarations.reverse = some type ↔ LastDeclared declarations name type := by
  rw [Keyed.find?_eq_some_iff_append]
  constructor
  · rintro ⟨after, before, hreverse, hafter⟩
    refine ⟨before.reverse, after.reverse, ?_, fun later hlater =>
      hafter later (List.mem_reverse.mp hlater)⟩
    rw [← declarations.reverse_reverse, hreverse]
    simp
  · rintro ⟨before, after, rfl, hafter⟩
    refine ⟨after.reverse, before.reverse, by simp, fun later hlater =>
      hafter later (List.mem_reverse.mp hlater)⟩

namespace Schema

/-- Declarations may be made in several steps. -/
theorem declare_declare : (empty.declare declarations).declare others
    = empty.declare (declarations ++ others) :=
  congrArg Schema.mk List.foldl_append.symm

theorem ordered_declare : Keyed.Ordered (empty.declare declarations).fields :=
  Keyed.Ordered.insertAll Keyed.ordered_nil

theorem typeOf?_declare : (empty.declare declarations).typeOf? name
    = Keyed.find? name declarations.reverse := by
  rw [typeOf?, declare, Keyed.find?_insertAll]
  exact Option.or_none

theorem declare_eq_of_find? (h : ∀ name, Keyed.find? name declarations.reverse
    = Keyed.find? name others.reverse) : empty.declare declarations = empty.declare others := by
  refine congrArg Schema.mk (ordered_declare.eq_of_find? ordered_declare fun name => ?_)
  exact typeOf?_declare.trans ((h name).trans typeOf?_declare.symm)

/-- **The last declarations determine a schema.** -/
theorem declare_eq_iff : empty.declare declarations = empty.declare others
    ↔ ∀ name type, LastDeclared declarations name type ↔ LastDeclared others name type := by
  simp only [← find?_reverse_eq_some_iff, ← Option.ext_iff]
  refine ⟨fun h name => ?_, declare_eq_of_find?⟩
  rw [← typeOf?_declare, ← typeOf?_declare, h]

/-- Neighbouring declarations of different names may be made in either order. -/
theorem declare_swap {before after : List (String × FieldType)}
    {first second : String × FieldType} (h : first.1 ≠ second.1) :
    empty.declare (before ++ second :: first :: after)
      = empty.declare (before ++ first :: second :: after) := by
  refine congrArg Schema.mk ?_
  unfold Keyed.insertAll
  simp only [List.foldl_append, List.foldl_cons, Keyed.insert_comm h]

/-- Declarations of different names may be made in any order, in front of others. -/
theorem declare_perm_append {row rest : List (String × FieldType)} (h : row.Perm declarations)
    (hnames : (declarations.map Prod.fst).Nodup) :
    empty.declare (row ++ rest) = empty.declare (declarations ++ rest) := by
  refine declare_eq_of_find? fun name => ?_
  have hreverse : row.reverse.Perm declarations.reverse :=
    (row.reverse_perm.trans h).trans declarations.reverse_perm.symm
  have hrow : (row.reverse.map Prod.fst).Nodup :=
    ((hreverse.trans declarations.reverse_perm).map Prod.fst).nodup_iff.mpr hnames
  rw [List.reverse_append, List.reverse_append, Keyed.find?_append, Keyed.find?_append,
    Keyed.find?_eq_of_perm hreverse hrow]

end Schema

end Declarations

/-! ## Case -/

section Case

variable {rules : Rules} {c : Condition} {e : Expr}

namespace Rules

/-- A condition that does not match means the same whether patterns disregard case or not. -/
theorem bind_ignoreCase (h : ¬ c.operator.IsMatch) (ignoreCase : Bool) :
    { rules with ignoreCase := ignoreCase }.bind c = rules.bind c := by
  have hstring : ∀ text, { rules with ignoreCase := ignoreCase }.stringTest c.operator text
      = rules.stringTest c.operator text := by
    intro text
    have hcompares := Comparison.compares_iff.mpr h
    exact (stringTest_of_compares hcompares).trans (stringTest_of_compares hcompares).symm
  have hliteral : { rules with ignoreCase := ignoreCase }.literalTest c.name c.operator c.value
      = rules.literalTest c.name c.operator c.value := by
    unfold literalTest
    simp only [hstring]
  have htest : { rules with ignoreCase := ignoreCase }.test c = rules.test c :=
    congrArg (rules.check c.name c.value.kind >>= fun _ => ·) hliteral
  rw [bind, bind, htest]

end Rules

theorem compileFor_ignoreCase (h : ∀ c ∈ e.conditions, ¬ c.operator.IsMatch) (ignoreCase : Bool) :
    e.compileFor { rules with ignoreCase := ignoreCase } = e.compileFor rules :=
  compile_congr fun c hc => Rules.bind_ignoreCase (h c hc) ignoreCase

end Case

end RecordFilter
