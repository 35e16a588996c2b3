import RecordFilter.Proofs.CommandLine.Decoration
import RecordFilter.Proofs.Expr.Equality
import RecordFilter.Proofs.Report.Outline

/-!
# The structure of an expression as it is written

The command that shows the structure of an expression writes a value from which the expression can
be put together again (`parse_describes`). The spelling in it is read as an expression that is
described alike, places apart.
-/

namespace RecordFilter

/-- Whether an outcome is a text that is read as a value, by readers that go so many levels deep or
deeper. -/
def ReadsBackAs (outcome : Except Failure String) (levels : Nat) (value : Json) : Prop :=
  ∃ output, outcome = .ok output
    ∧ ∀ more, levels ≤ more → Json.readValue more output.toList = .ok (value, ['\n'])

/-- The numbers in a condition that was read are finite. -/
theorem Condition.Faithful.isFinite {c : Condition} (h : c.Faithful) :
    ∀ x, c.value = .number x → x.isFinite = true := by
  intro x hx
  rcases h.literal with ⟨-, hvalue⟩ | ⟨-, value, htext, hvalue⟩
  · rw [hx] at hvalue
    cases hvalue
  · rw [hx] at hvalue
    obtain rfl := Value.number.inj hvalue
    obtain ⟨n, -, hrounds, -⟩ := Binary64.ofText?_eq_some_iff.mp htext
    exact hrounds.finite

section Parsing

variable {ω : Type} {o : Outside (StateM ω)} {w : ω} {settings : Settings}
  {common : CommonOptions} {text : String} {e : Expr}

/-- An expression is written as a value that is read back. -/
theorem readsBackAs_parse (ho : o.IsSteady) (hsettings : settingsIn o w = .ok settings)
    (hjson : common.json = true) (h : Expr.ofText text = .ok e) :
    ReadsBackAs ((Invocation.run o ⟨common, .parse text⟩).run.run w).1 (3 * e.depth + 5)
      (Report.expressionJson e).inKeyOrder := by
  refine ⟨(Report.expressionJson e).pretty ++ "\n", ?_, fun more hmore =>
    Json.readValue_prettyLine ((Report.within_expressionJson e).mono hmore)⟩
  rw [run_eq_present (i := ⟨common, .parse text⟩) ho hsettings rfl, h]
  exact congrArg Except.ok (if_pos hjson)

/-- **The value of an expression describes it.** An expression that is read from a text is written
as a value with its spelling, its tree and its conditions. Every chain in the tree has one operand
more than connectives. If every connective joins the operand at its index to what follows, this
gives the tree of the expression again, with the same groups and chains and, at its leaves, the
fields, the comparisons and the numbers or texts of the conditions; so it has these in the same
order, and is true when the expression is. The conditions are those of the tree from left to right,
each with the place of its field. The spelling is read as an expression that is written with the
same tree and conditions, except for lines and columns. -/
theorem parse_describes (ho : o.IsSteady) (hsettings : settingsIn o w = .ok settings)
    (hjson : common.json = true) (h : Expr.ofText text = .ok e) :
    let outcome := fun text => ((Invocation.run o ⟨common, .parse text⟩).run.run w).1
    ∃ value tree conditions, ReadsBackAs (outcome text) (3 * e.depth + 5) value
      ∧ Report.Describes value tree conditions e
      ∧ ∃ e' value' tree' conditions', Expr.ofText e.describe = .ok e'
        ∧ ReadsBackAs (outcome e.describe) (3 * e.depth + 5) value'
        ∧ Report.Describes value' tree' conditions' e'
        ∧ tree'.chain?.map (Tree.map id Json.unplaced) = tree.chain?.map (Tree.map id Json.unplaced)
        ∧ conditions'.map Json.unplaced = conditions.map Json.unplaced := by
  intro outcome
  have hfinite : ∀ {text : String} {e : Expr}, Expr.ofText text = .ok e →
      ∀ c ∈ e.conditions, ∀ x, c.value = .number x → x.isFinite = true :=
    fun h c hc => (Expr.faithful_of_ofText h c hc).isFinite
  obtain ⟨e', hagain, hshape⟩ := Expr.exists_ofText_describe (Expr.printable_of_ofText h)
  have hdepth : e'.depth = e.depth := Expr.depth_eq_of_shape hshape
  have htree := Report.map_unplaced_valueTree hshape
  refine ⟨_, _, _, readsBackAs_parse ho hsettings hjson h,
    Report.describes_expressionJson (hfinite h), e', _, _, _, hagain, ?_,
    Report.describes_expressionJson (hfinite hagain), ?_, ?_⟩
  · rw [← hdepth]
    exact readsBackAs_parse ho hsettings hjson hagain
  · rw [Report.chain?_treeJson, Report.chain?_treeJson]
    exact congrArg some htree
  · have hleaves := congrArg Tree.leaves htree
    rwa [Tree.leaves_map, Tree.leaves_map] at hleaves

end Parsing

open Disk (outside)

/-- A chain with a group in it, a string with an escaped quote and a number. -/
theorem parse_describes_group :
    let s : Disk.Surroundings := ⟨[("HOME", "/home")], none, .ok ""⟩
    let text := "a = 'it\\'s' and (b > 1.50 || c !~ \"y\")\n and d = 0"
    let common : CommonOptions := ⟨false, false, true, false⟩
    settingsIn (outside s) ⟨[], []⟩ = .ok .default
      ∧ ∃ e value tree conditions, Expr.ofText text = .ok e
        ∧ ReadsBackAs ((Invocation.run (outside s) ⟨common, .parse text⟩).run.run ⟨[], []⟩).1
          (3 * e.depth + 5) value
        ∧ Report.Describes value tree conditions e := by
  intro s text common
  have hsettings : settingsIn (outside s) ⟨[], []⟩ = .ok .default := by decide +kernel
  have hcause : cause? (Expr.ofText text) = none := by decide +kernel
  obtain ⟨e, he⟩ := cause?_eq_none_iff.mp hcause
  obtain ⟨value, tree, conditions, hread, hdescribes, -⟩ :=
    @parse_describes _ (outside s) _ _ common _ _ isSteady_outside hsettings rfl he
  exact ⟨hsettings, e, value, tree, conditions, he, hread, hdescribes⟩

end RecordFilter
