import RecordFilter.Proofs.Expr.Compilation

/-!
# What a callback gets to see

Compiling calls a callback on the conditions of an expression. Which calls these are shows once the
callback notes them down (`Callback.noting`), each with the answer that it was given. The calls go
through the conditions from left to right. Either all of them are accepted, and then they are the
conditions of the compiled expression with the tests that stand beside them there; or they end at
the first one that is rejected, and compiling ends with what it was rejected with.

`compile_visits` says this for all expressions and callbacks. It follows from one induction on the
tree (`Tree.visit`), in which a tree is visited behind whatever has been noted before.
-/

namespace RecordFilter

/-! ## Calls -/

/-- A call of a callback: the condition and the answer. -/
structure Call (ε μ : Type) where
  condition : Condition
  answer : Except ε (μ → Bool)

/-- The call that has bound a condition. -/
def Bound.call {ε μ : Type} (bound : Bound μ) : Call ε μ := ⟨bound.condition, .ok bound.test⟩

variable {σ ε μ ω : Type} {l : Level}

/-- The callback that behaves like another one and notes down its calls. -/
def Callback.noting (bind : Callback σ ε μ) : Callback (σ × List (Call ε μ)) ε μ := fun c =>
  ExceptT.mk fun (s, noted) =>
    let (answer, s') := (bind c).run.run s
    (answer, s', noted ++ [⟨c, answer⟩])

theorem Callback.noting_run {bind : Callback σ ε μ} {c : Condition} {s s' : σ}
    {answer : Except ε (μ → Bool)} (h : (bind c).run.run s = (answer, s'))
    (noted : List (Call ε μ)) :
    (bind.noting c).run.run (s, noted) = (answer, s', noted ++ [⟨c, answer⟩]) := by
  show ((((bind c).run.run s).1, ((bind c).run.run s).2,
    noted ++ [⟨c, ((bind c).run.run s).1⟩]) : _ × σ × List (Call ε μ)) = _
  rw [h]

/-! ## Visits -/

/-- How the visit of a tree ends, in a state and behind the calls that have been noted: all leaves
are accepted, or those in front of one that is rejected. -/
inductive Visit (bind : Callback σ ε μ) (t : Tree ω Condition l) (s : σ)
    (noted : List (Call ε μ)) : Prop where
  | accepted (t' : Tree ω (Bound μ) l) (s' : σ)
    (run : (t.mapM (Condition.bindTest bind)).run.run s = (.ok t', s'))
    (calls : (t.mapM (Condition.bindTest bind.noting)).run.run (s, noted)
      = (.ok t', s', noted ++ t'.leaves.map Bound.call))
    (source : t'.map id Bound.condition = t)
  | rejected (cause : ε) (bounds : List (Bound μ)) (c : Condition) (after : List Condition) (s' : σ)
    (run : (t.mapM (Condition.bindTest bind)).run.run s = (.error cause, s'))
    (calls : (t.mapM (Condition.bindTest bind.noting)).run.run (s, noted)
      = (.error cause, s', noted ++ (bounds.map Bound.call ++ [⟨c, .error cause⟩])))
    (leaves : t.leaves = bounds.map Bound.condition ++ c :: after)

theorem Tree.visit (bind : Callback σ ε μ) (t : Tree ω Condition l) (s : σ)
    (noted : List (Call ε μ)) : Visit bind t s noted := by
  induction t generalizing s noted with
  | leaf c =>
    rcases hrun : (bind c).run.run s with ⟨answer, s'⟩
    have hnoting := Callback.noting_run hrun noted
    cases answer with
    | ok test =>
      refine .accepted (leaf ⟨c, test⟩) s' ?_ ?_ rfl
      · rw [mapM, Condition.bindTest, bind_assoc, run_bind_of_ok hrun]
        rfl
      · rw [mapM, Condition.bindTest, bind_assoc, run_bind_of_ok hnoting]
        rfl
    | error cause =>
      refine .rejected cause [] c [] s' ?_ ?_ rfl
      · rw [mapM, Condition.bindTest, bind_assoc, run_bind_of_error hrun]
      · rw [mapM, Condition.bindTest, bind_assoc, run_bind_of_error hnoting]
        rfl
  | group inner ih =>
    cases ih s noted with
    | accepted inner' s' run calls source =>
      refine .accepted (group inner') s' ?_ ?_ (congrArg group source)
      · rw [mapM, run_bind_of_ok run]
        rfl
      · rw [mapM, run_bind_of_ok calls]
        rfl
    | rejected cause bounds c after s' run calls leaves =>
      refine .rejected cause bounds c after s' ?_ ?_ leaves
      · rw [mapM, run_bind_of_error run]
      · rw [mapM, run_bind_of_error calls]
  | single operand ih =>
    cases ih s noted with
    | accepted operand' s' run calls source =>
      refine .accepted (single operand') s' ?_ ?_ (congrArg single source)
      · rw [mapM, run_bind_of_ok run]
        rfl
      · rw [mapM, run_bind_of_ok calls]
        rfl
    | rejected cause bounds c after s' run calls leaves =>
      refine .rejected cause bounds c after s' ?_ ?_ leaves
      · rw [mapM, run_bind_of_error run]
      · rw [mapM, run_bind_of_error calls]
  | join operand connective rest ihOperand ihRest =>
    cases ihOperand s noted with
    | rejected cause bounds c after s' run calls leaves =>
      -- the rest is not visited, so its leaves stand behind all that were
      refine .rejected cause bounds c (after ++ rest.leaves) s' ?_ ?_ ?_
      · rw [mapM, run_bind_of_error run]
      · rw [mapM, run_bind_of_error calls]
      · rw [Tree.leaves, leaves, List.append_assoc, List.cons_append]
    | accepted operand' s₁ run calls source =>
      have hoperand : operand.leaves = operand'.leaves.map Bound.condition := by
        rw [← source, leaves_map]
      cases ihRest s₁ (noted ++ operand'.leaves.map Bound.call) with
      | accepted rest' s₂ runRest callsRest sourceRest =>
        refine .accepted (join operand' connective rest') s₂ ?_ ?_ ?_
        · rw [mapM, run_bind_of_ok run, run_bind_of_ok runRest]
          rfl
        · rw [mapM, run_bind_of_ok calls, run_bind_of_ok callsRest, Tree.leaves, List.map_append,
            List.append_assoc]
          rfl
        · rw [map, source, sourceRest]
          rfl
      | rejected cause bounds c after s₂ runRest callsRest leavesRest =>
        refine .rejected cause (operand'.leaves ++ bounds) c after s₂ ?_ ?_ ?_
        · rw [mapM, run_bind_of_ok run, run_bind_of_error runRest]
        · rw [mapM, run_bind_of_ok calls, run_bind_of_error callsRest, List.map_append,
            List.append_assoc, List.append_assoc]
        · rw [Tree.leaves, hoperand, leavesRest, List.map_append, List.append_assoc]

/-! ## Source order -/

/-- The leaf that a piece is, if it is one. -/
def Tree.Piece.leaf? {α : Type} : Tree.Piece ω α → Option α
  | .leaf content => some content
  | _ => none

/-- The leaves of a tree are those among its pieces, in the order of these. -/
theorem Tree.leaves_eq_filterMap_pieces {α : Type} (t : Tree ω α l) :
    t.leaves = t.pieces.filterMap Piece.leaf? := by
  induction t with
  | leaf content => rfl
  | group inner ih =>
    rw [leaves, pieces, ih, List.filterMap_cons_none rfl, List.filterMap_append,
      List.filterMap_cons_none rfl, List.filterMap_nil, List.append_nil]
  | single operand ih => exact ih
  | join operand connective rest ihOperand ihRest =>
    rw [leaves, pieces, ihOperand, ihRest, List.filterMap_append, List.filterMap_cons_none rfl]

theorem Compiled.describe_of_map_condition {compiled : Compiled μ} {e : Expr}
    (h : compiled.map id Bound.condition = e) : compiled.describe = e.describe := by
  rw [← h, Expr.describe, Tree.render_map]
  rfl

/-- **Compiling visits the conditions and keeps the tree.** The conditions of an expression are
those among its pieces, from left to right. The callback is called on them in this order, each
once. If it accepts every one, then what was compiled is the same tree, each condition with the
test that it was bound to in its own call, and is printed like its source. Otherwise the calls end
with the first one that is rejected, and compiling fails with what that one was rejected with.
Noting down the calls changes neither the outcome nor the state. -/
theorem compile_visits (bind : Callback σ ε μ) (e : Expr) (s : σ) :
    e.conditions = e.pieces.filterMap Tree.Piece.leaf?
      ∧ ((∃ compiled s', (e.compile bind).run.run s = (.ok compiled, s')
          ∧ (e.compile bind.noting).run.run (s, [])
            = (.ok compiled, s', compiled.conditions.map Bound.call)
          ∧ compiled.conditions.map Bound.condition = e.conditions
          ∧ compiled.map id Bound.condition = e
          ∧ compiled.describe = e.describe)
        ∨ ∃ cause, ∃ bounds : List (Bound μ), ∃ c after s',
          (e.compile bind).run.run s = (.error cause, s')
          ∧ (e.compile bind.noting).run.run (s, [])
            = (.error cause, s', bounds.map Bound.call ++ [⟨c, .error cause⟩])
          ∧ e.conditions = bounds.map Bound.condition ++ c :: after) := by
  refine ⟨Tree.leaves_eq_filterMap_pieces e, ?_⟩
  rw [compile_eq_mapM, compile_eq_mapM]
  cases Tree.visit bind e s [] with
  | accepted compiled s' run calls source =>
    refine .inl ⟨compiled, s', run, calls, ?_, source, Compiled.describe_of_map_condition source⟩
    rw [Expr.conditions, ← source, Tree.leaves_map]
    rfl
  | rejected cause bounds c after s' run calls leaves =>
    exact .inr ⟨cause, bounds, c, after, s', run, calls, leaves⟩

end RecordFilter
