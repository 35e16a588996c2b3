import RecordFilter.Proofs.Expr.Compilation

/-!
# What a compiled expression evaluates to

Evaluation runs the tests of a compiled expression one after the other and leaves out those that
cannot matter. The reference is said without running anything: `Tree.value` is the value by the
tables of the connectives, and `Tree.consulted` are the leaves that the value is found from, where
an operand that decides the value of its chain leaves out the rest of the chain.

`evaluate_of_compile` ties the two to each other for all that can be compiled: the value and the
tests that are run are those of the source tree, with the tests that the callback gave to its
conditions, and however often an expression is evaluated, no evaluation has a bearing on another.
-/

namespace RecordFilter

/-! ## The reference -/

namespace Tree

variable {ω ω' α β : Type} {l : Level}

section Reference

variable (connective : ω → Connective) (holds : α → Bool)

/-- The value of a tree, given which leaves hold. -/
def value : {l : Level} → Tree ω α l → Bool
  | _, leaf content => holds content
  | _, group inner => inner.value
  | _, single operand => operand.value
  | _, join operand c rest => (connective c).combine operand.value rest.value

/-- The leaves that the value is found from, from left to right: none behind an operand that
decides the value of its chain. -/
def consulted : {l : Level} → Tree ω α l → List α
  | _, leaf content => [content]
  | _, group inner => inner.consulted
  | _, single operand => operand.consulted
  | _, join operand c rest =>
    operand.consulted
      ++ if (connective c).decides (operand.value connective holds) then [] else rest.consulted

end Reference

variable {connective : ω → Connective} {holds : α → Bool}

/-- No leaf is consulted twice, and those that are stand in the order of the tree. -/
theorem consulted_sublist (t : Tree ω α l) : (t.consulted connective holds).Sublist t.leaves := by
  induction t with
  | leaf content => exact List.Sublist.refl _
  | group inner ih => exact ih
  | single operand ih => exact ih
  | join operand c rest ihOperand ihRest =>
    rw [consulted, leaves]
    by_cases hdecides : (connective c).decides (operand.value connective holds) = true
    · rw [if_pos hdecides]
      exact ihOperand.append (List.nil_sublist _)
    · rw [if_neg hdecides]
      exact ihOperand.append ihRest

theorem value_map (f : ω' → ω) (g : β → α) (t : Tree ω' β l) :
    (t.map f g).value connective holds
      = t.value (fun c => connective (f c)) (fun content => holds (g content)) := by
  induction t with
  | leaf content => rfl
  | group inner ih => rw [map, value, value, ih]
  | single operand ih => rw [map, value, value, ih]
  | join operand c rest ihOperand ihRest => rw [map, value, value, ihOperand, ihRest]

theorem consulted_map (f : ω' → ω) (g : β → α) (t : Tree ω' β l) :
    (t.map f g).consulted connective holds
      = (t.consulted (fun c => connective (f c)) (fun content => holds (g content))).map g := by
  induction t with
  | leaf content => rfl
  | group inner ih => rw [map, consulted, consulted, ih]
  | single operand ih => rw [map, consulted, consulted, ih]
  | join operand c rest ihOperand ihRest =>
    rw [map, consulted, consulted, ihOperand, ihRest, value_map, List.map_append]
    split <;> rfl

/-! ## Evaluation against the reference -/

/-- The test of a leaf that notes down for which leaf it is run. -/
def noting (holds : α → Bool) (content : α) : StateM (List α) Bool := do
  modify fun noted => noted ++ [content]
  return holds content

/-- Evaluation gives the value of the reference, and runs the tests that the reference consults. -/
theorem evaluateM_noting (t : Tree ω α l) (noted : List α) :
    (t.evaluateM connective (noting holds)).run noted
      = (t.value connective holds, noted ++ t.consulted connective holds) := by
  induction t generalizing noted with
  | leaf content => rfl
  | group inner ih => exact ih noted
  | single operand ih => exact ih noted
  | join operand c rest ihOperand ihRest =>
    rw [evaluateM, run_bind_of_run (ihOperand noted), value, consulted]
    -- the operand has been run; either it decides, or the rest is run behind it
    cases hdecides : (connective c).decides (operand.value connective holds) with
    | true =>
      rw [Connective.combine_of_decides hdecides, if_pos rfl, if_pos rfl, List.append_nil]
      rfl
    | false =>
      rw [Connective.combine_of_not_decides hdecides, if_neg Bool.false_ne_true,
        if_neg Bool.false_ne_true, ihRest, List.append_assoc]

/-- Evaluation that notes nothing gives the same value. -/
theorem evaluateM_pure (t : Tree ω α l) :
    t.evaluateM (m := Id) connective (fun content => pure (holds content))
      = t.value connective holds := by
  induction t with
  | leaf content => rfl
  | group inner ih => exact ih
  | single operand ih => exact ih
  | join operand c rest ihOperand ihRest =>
    rw [evaluateM, ihOperand, value]
    show (if (connective c).decides (operand.value connective holds) then _ else _) = _
    cases hdecides : (connective c).decides (operand.value connective holds) with
    | true =>
      rw [Connective.combine_of_decides hdecides, if_pos rfl]
      rfl
    | false =>
      rw [Connective.combine_of_not_decides hdecides, if_neg Bool.false_ne_true, ihRest]

/-! ## Numbered leaves -/

/-- The tree with its leaves numbered from left to right. -/
def zipIdx : {l : Level} → Tree ω α l → Nat → Tree ω (α × Nat) l
  | _, leaf content, i => leaf (content, i)
  | _, group inner, i => group (inner.zipIdx i)
  | _, single operand, i => single (operand.zipIdx i)
  | _, join operand c rest, i => join (operand.zipIdx i) c (rest.zipIdx (i + operand.leaves.length))

theorem leaves_zipIdx (t : Tree ω α l) (i : Nat) : (t.zipIdx i).leaves = t.leaves.zipIdx i := by
  induction t generalizing i with
  | leaf content => rfl
  | group inner ih => exact ih i
  | single operand ih => exact ih i
  | join operand c rest ihOperand ihRest =>
    rw [zipIdx, leaves, leaves, ihOperand, ihRest, List.zipIdx_append]

theorem zipIdx_map (f : ω → ω') (g : α → β) (t : Tree ω α l) (i : Nat) :
    (t.map f g).zipIdx i = (t.zipIdx i).map f fun numbered => (g numbered.1, numbered.2) := by
  induction t generalizing i with
  | leaf content => rfl
  | group inner ih => rw [map, zipIdx, zipIdx, map, ih]
  | single operand ih => rw [map, zipIdx, zipIdx, map, ih]
  | join operand c rest ihOperand ihRest =>
    rw [map, zipIdx, zipIdx, map, ihOperand, ihRest, leaves_map, List.length_map]

/-- A tree is found again from what is left of its leaves, if each leaf is found again from what
is left of it and its number. -/
theorem map_zipIdx_map {f : α → β} {g : β × Nat → α} (t : Tree ω α l) (i : Nat)
    (h : ∀ a n, t.leaves[n]? = some a → g (f a, i + n) = a) :
    ((t.map id f).zipIdx i).map id g = t := by
  induction t generalizing i with
  | leaf content =>
    have hcontent : g (f content, i) = content := h content 0 rfl
    rw [map, zipIdx, map, hcontent]
  | group inner ih => rw [map, zipIdx, map, ih i h]
  | single operand ih => rw [map, zipIdx, map, ih i h]
  | join operand c rest ihOperand ihRest =>
    rw [map, zipIdx, map, leaves_map, List.length_map, ihOperand i ?_, ihRest _ ?_]
    · rfl
    · intro a n hn
      have hleaf : (operand.leaves ++ rest.leaves)[operand.leaves.length + n]? = some a := by
        rw [List.getElem?_append_right (Nat.le_add_right _ _), Nat.add_sub_cancel_left, hn]
      rw [Nat.add_assoc]
      exact h a _ hleaf
    · intro a n hn
      obtain ⟨hlength, -⟩ := List.getElem?_eq_some_iff.mp hn
      have hleaf : (operand.leaves ++ rest.leaves)[n]? = some a := by
        rw [List.getElem?_append_left hlength, hn]
      exact h a n hleaf

end Tree

/-! ## Compiled expressions -/

namespace Compiled

variable {μ : Type}

/-- Evaluates a compiled expression on a model and notes down the tests that are run. -/
def evaluateNoting (compiled : Compiled μ) (model : μ) : StateM (List (Bound μ)) Bool :=
  compiled.evaluateM (Tree.noting fun bound => bound.test model)

theorem evaluate_eq_value (compiled : Compiled μ) (model : μ) :
    compiled.evaluate model = Tree.value Sourced.item (fun bound => bound.test model) compiled :=
  Tree.evaluateM_pure compiled

theorem evaluateNoting_run (compiled : Compiled μ) (model : μ) (noted : List (Bound μ)) :
    (compiled.evaluateNoting model).run noted
      = (compiled.evaluate model,
        noted ++ Tree.consulted Sourced.item (fun bound => bound.test model) compiled) := by
  rw [evaluate_eq_value]
  exact Tree.evaluateM_noting compiled noted

/-- Evaluations one after the other do not know of each other. -/
theorem mapM_evaluateNoting_run (compiled : Compiled μ) (models : List μ)
    (noted : List (Bound μ)) :
    (models.mapM compiled.evaluateNoting).run noted
      = (models.map compiled.evaluate, noted ++ models.flatMap fun model =>
          Tree.consulted Sourced.item (fun bound => bound.test model) compiled) := by
  induction models generalizing noted with
  | nil => rw [List.flatMap_nil, List.append_nil]; rfl
  | cons model models ih =>
    rw [List.mapM_cons, run_bind_of_run (evaluateNoting_run compiled model noted),
      run_bind_of_run (ih _), List.append_assoc]
    rfl

end Compiled

namespace Expr

/-- The value of an expression, given which of its conditions hold, the conditions being counted
from left to right. -/
def valueWhere (e : Expr) (truth : Nat → Bool) : Bool :=
  (Tree.zipIdx e 0).value Sourced.item fun numbered => truth numbered.2

/-- The conditions that the value of an expression is found from, with their numbers. -/
def consultedWhere (e : Expr) (truth : Nat → Bool) : List (Condition × Nat) :=
  (Tree.zipIdx e 0).consulted Sourced.item fun numbered => truth numbered.2

theorem consultedWhere_sublist (e : Expr) (truth : Nat → Bool) :
    (e.consultedWhere truth).Sublist e.conditions.zipIdx := by
  have h : (e.consultedWhere truth).Sublist (Tree.zipIdx e 0).leaves := Tree.consulted_sublist _
  rwa [Tree.leaves_zipIdx] at h

end Expr

/-- What was compiled is the source with a test put beside each condition, the tests being what
the callback has answered with. -/
theorem exists_tests_of_compile {σ ε μ : Type} {bind : Callback σ ε μ} {e : Expr} {s s' : σ}
    {compiled : Compiled μ} (h : (e.compile bind).run.run s = (.ok compiled, s')) :
    ∃ tests : Nat → μ → Bool,
      (e.conditions.mapM bind).run.run s
          = (.ok ((List.range e.conditions.length).map tests), s')
        ∧ compiled = (Tree.zipIdx e 0).map id fun numbered =>
            ⟨numbered.1, tests numbered.2⟩ := by
  obtain ⟨htests, hsource⟩ := compile_eq_ok h
  let tests : Nat → μ → Bool := fun i model => (compiled.conditions[i]?).any (·.test model)
  have hbound : ∀ i bound, compiled.conditions[i]? = some bound → tests i = bound.test := by
    intro i bound hi
    funext model
    show (compiled.conditions[i]?).any _ = _
    rw [hi]
    rfl
  have hlength : e.conditions.length = compiled.conditions.length := by
    rw [← hsource, Expr.conditions, Tree.leaves_map, List.length_map]
    rfl
  refine ⟨tests, ?_, ?_⟩
  · rw [htests, hlength]
    congr 2
    refine List.ext_getElem (by simp) fun i hi _ => ?_
    rw [List.length_map] at hi
    rw [List.getElem_map, List.getElem_map, List.getElem_range]
    exact (hbound i _ (List.getElem?_eq_getElem hi)).symm
  · rw [← hsource, Tree.map_zipIdx_map compiled 0 fun bound n hn => ?_]
    rw [Nat.zero_add, hbound n bound hn]

/-- **Evaluation is the short-circuit semantics of the source.** Compiling an expression goes
through its conditions from left to right and binds a test to each. Evaluated on a model, what was
compiled has the value that the source has by the tables of its connectives, where a condition
holds if its own test says so. The tests that are run are those of the conditions that this value
is found from, in their order and each once. However many models are evaluated one after the
other, each has its own value and its own tests. -/
theorem evaluate_of_compile {σ ε μ : Type} (bind : Callback σ ε μ) (e : Expr) (s s' : σ)
    (compiled : Compiled μ) (h : (e.compile bind).run.run s = (.ok compiled, s')) :
    ∃ tests : Nat → μ → Bool,
      (e.conditions.mapM bind).run.run s
          = (.ok ((List.range e.conditions.length).map tests), s')
        ∧ (∀ model, compiled.evaluate model = e.valueWhere fun i => tests i model)
        ∧ (∀ truth, (e.consultedWhere truth).Sublist e.conditions.zipIdx)
        ∧ ∀ (models : List μ) (noted : List (Bound μ)),
            (models.mapM compiled.evaluateNoting).run noted
              = (models.map fun model => e.valueWhere fun i => tests i model,
                noted ++ models.flatMap fun model =>
                  (e.consultedWhere fun i => tests i model).map fun numbered =>
                    ⟨numbered.1, tests numbered.2⟩) := by
  obtain ⟨tests, htests, rfl⟩ := exists_tests_of_compile h
  have hvalue : ∀ model, Compiled.evaluate (Tree.map id
      (fun numbered => ⟨numbered.1, tests numbered.2⟩) (Tree.zipIdx e 0)) model
        = e.valueWhere fun i => tests i model := by
    intro model
    rw [Compiled.evaluate_eq_value, Tree.value_map]
    rfl
  refine ⟨tests, htests, hvalue, e.consultedWhere_sublist, fun models noted => ?_⟩
  rw [Compiled.mapM_evaluateNoting_run, funext hvalue]
  simp only [Tree.consulted_map]
  rfl

/-- A callback that numbers what it binds, on a chain whose first operand decides for the models
that do not hold anything. -/
theorem evaluate_of_compile_numbering :
    let nowhere : Token := ⟨.illegal, "", .start⟩
    let condition (name : String) : Condition :=
      ⟨name, nowhere, ⟨.equals, nowhere⟩, ⟨.string "''", nowhere⟩⟩
    let e : Expr := .join (.leaf (condition "a")) ⟨.and, nowhere⟩
      (.join (.group (.single (.leaf (condition "b")))) ⟨.or, nowhere⟩
        (.single (.leaf (condition "c"))))
    let bind : Callback Nat String (List Nat) := fun c => do
      let number ← get
      set (number + 1)
      if c.name = "" then throw "no name" else return fun model => number ∈ model
    ∃ compiled, (e.compile bind).run.run 7 = (.ok compiled, 10)
      ∧ ∃ tests : Nat → List Nat → Bool,
        (e.conditions.mapM bind).run.run 7 = (.ok ((List.range 3).map tests), 10)
          ∧ compiled.evaluate [7, 9] = e.valueWhere fun i => tests i [7, 9] := by
  intro nowhere condition e bind
  refine ⟨_, rfl, ?_⟩
  obtain ⟨tests, htests, hvalue, -, -⟩ := evaluate_of_compile bind e 7 10 _ rfl
  exact ⟨tests, htests, hvalue _⟩

end RecordFilter
