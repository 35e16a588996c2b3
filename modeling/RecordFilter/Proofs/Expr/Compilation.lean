import RecordFilter.Expr.Compiled
import RecordFilter.Proofs.Execution
import RecordFilter.Proofs.Expr.Shape

/-!
# Compiling keeps the tree

Compiling runs a callback on the conditions of an expression and puts what it answers with in
their places. Two facts say all of it, in whatever monad the callback runs: compiling does to the
conditions what going through the list of them does (`tests_compile`), and it changes nothing else
about the tree (`map_condition_compile`).

A callback that keeps a state and may reject a condition runs in `ExceptT ε (StateM σ)`. For it,
`compile_eq_ok` reads the two facts off one successful run, and `compile_of_accepts` gives such a
run where every condition is accepted. A callback that only judges conditions runs in `Except ε`,
and there `exists_compile_eq_ok_iff` says that compiling succeeds exactly if no condition is
rejected.
-/

namespace RecordFilter

/-! ## Visiting leaves -/

namespace Tree

variable {m : Type → Type} [Monad m] [LawfulMonad m] {ω α β : Type} {l : Level}

/-- Putting a visited tree together from its parts is visiting it form by form. -/
theorem visitParts_eq (f : α → m β) : {l : Level} → (t : Tree ω α l) → match l, t with
      | .operand, operand =>
        operand.visitParts f = (fun visited => (visited, [])) <$> operand.mapM f
      | .chain, e => e.visitChain f = e.mapM f
  | _, leaf content => by simp [visitParts, mapM]
  | _, group inner => by
    have hinner : inner.visitChain f = inner.mapM f := visitParts_eq f inner
    simp [visitParts, mapM, ← hinner, visitChain]
  | _, single operand => by
    have hoperand : operand.visitParts f = (fun visited => (visited, [])) <$> operand.mapM f :=
      visitParts_eq f operand
    simp [visitChain, visitParts, mapM, hoperand]
  | _, join operand connective rest => by
    have hoperand : operand.visitParts f = (fun visited => (visited, [])) <$> operand.mapM f :=
      visitParts_eq f operand
    have hrest : rest.visitChain f = rest.mapM f := visitParts_eq f rest
    simp [visitChain, visitParts, mapM, hoperand, ← hrest, chain_cons]

theorem visitChain_eq_mapM (f : α → m β) (e : Tree ω α .chain) : e.visitChain f = e.mapM f :=
  visitParts_eq f e

/-- Visiting a tree is going through the list of its leaves. -/
theorem leaves_mapM (f : α → m β) (t : Tree ω α l) : leaves <$> t.mapM f = t.leaves.mapM f := by
  induction t with
  | leaf content => simp [mapM, leaves]
  | group inner ih => simp [mapM, leaves, ← ih]
  | single operand ih => simp [mapM, leaves, ← ih]
  | join operand connective rest ihOperand ihRest =>
    simp [mapM, leaves, List.mapM_append, ← ihOperand, ← ihRest]

/-- Visiting a tree changes nothing but its leaves: if what is made of a leaf can be undone, then
so can what is made of the tree. -/
theorem satisfiesM_map_mapM {f : α → m β} {g : β → α}
    (h : ∀ a, SatisfiesM (fun b => g b = a) (f a)) (t : Tree ω α l) :
    SatisfiesM (fun t' => t'.map id g = t) (t.mapM f) := by
  induction t with
  | leaf content =>
    refine (h content).bind fun b hb => .pure ?_
    rw [map, hb]
  | group inner ih =>
    refine ih.bind fun inner' hinner => .pure ?_
    rw [map, hinner]
  | single operand ih =>
    refine ih.bind fun operand' hoperand => .pure ?_
    rw [map, hoperand]
  | join operand connective rest ihOperand ihRest =>
    refine ihOperand.bind fun operand' hoperand => ihRest.bind fun rest' hrest => .pure ?_
    rw [map, hoperand, hrest]
    rfl

end Tree

/-! ## Binding conditions -/

section Bind

variable {m : Type → Type} [Monad m] [LawfulMonad m] {μ : Type} (bind : Condition → m (μ → Bool))

/-- Compiling binds the conditions where they stand. -/
theorem compile_eq_mapM (e : Expr) : e.compile bind = e.mapM (Condition.bindTest bind) :=
  Tree.visitChain_eq_mapM _ e

theorem map_test_bindTest (c : Condition) : Bound.test <$> c.bindTest bind = bind c := by
  simp [Condition.bindTest]

theorem satisfiesM_bindTest (c : Condition) :
    SatisfiesM (fun bound => bound.condition = c) (c.bindTest bind) :=
  (SatisfiesM.trivial (x := bind c)).bind fun _ _ => .pure rfl

/-- The tests of a compiled expression are what the callback answers with when it is run on the
conditions one after the other. -/
theorem tests_compile (e : Expr) :
    (fun compiled => compiled.conditions.map Bound.test) <$> e.compile bind
      = e.conditions.mapM bind := by
  have hlist : ∀ conditions : List Condition,
      List.map Bound.test <$> conditions.mapM (Condition.bindTest bind)
        = conditions.mapM bind := by
    intro conditions
    induction conditions with
    | nil => simp
    | cons c conditions ih => simp [← ih, ← map_test_bindTest bind c]
  calc (fun compiled => compiled.conditions.map Bound.test) <$> e.compile bind
      = List.map Bound.test <$> (Tree.leaves <$> Tree.mapM (Condition.bindTest bind) e) := by
        simp [compile_eq_mapM, Compiled.conditions]
    _ = e.conditions.mapM bind := by rw [Tree.leaves_mapM, hlist]; rfl

/-- A compiled expression is its source with a test beside each condition. -/
theorem map_condition_compile (e : Expr) :
    SatisfiesM (fun compiled : Compiled μ => compiled.map id Bound.condition = e)
      (e.compile bind) := by
  rw [compile_eq_mapM]
  exact Tree.satisfiesM_map_mapM (satisfiesM_bindTest bind) e

end Bind

/-! ## Callbacks with a state -/

/-- How conditions are bound to tests: the callback may keep a state from one condition to the
next, and may reject a condition. -/
abbrev Callback (σ ε μ : Type) : Type := Condition → ExceptT ε (StateM σ) (μ → Bool)

section Callback

variable {σ ε μ : Type} {bind : Callback σ ε μ} {e : Expr} {s s' : σ}

/-- What a successful run says: the callback has gone through the conditions from left to right,
and its answers stand beside them in the same tree. -/
theorem compile_eq_ok {compiled : Compiled μ}
    (h : (e.compile bind).run.run s = (.ok compiled, s')) :
    (e.conditions.mapM bind).run.run s = (.ok (compiled.conditions.map Bound.test), s')
      ∧ compiled.map id Bound.condition = e := by
  constructor
  · rw [← tests_compile, ExceptT.run_map, StateT.run_map, h]
    rfl
  · have hsource := map_condition_compile bind e
    rw [SatisfiesM_ExceptT_eq, SatisfiesM_StateT_eq] at hsource
    have hrun := SatisfiesM_Id_eq.mp (hsource s)
    rw [h] at hrun
    exact hrun compiled rfl

/-- A tree whose conditions are all accepted is visited to its end, whatever the state. -/
theorem Tree.exists_mapM_bindTest {test : Condition → μ → Bool} {ω : Type} {l : Level}
    (t : Tree ω Condition l)
    (h : ∀ c ∈ t.leaves, ∀ s, ∃ s', (bind c).run.run s = (.ok (test c), s')) (s : σ) :
    ∃ s', (t.mapM (Condition.bindTest bind)).run.run s
      = (.ok (t.map id fun c => ⟨c, test c⟩), s') := by
  induction t generalizing s with
  | leaf c =>
    obtain ⟨s', hs'⟩ := h c (List.mem_singleton_self c) s
    refine ⟨s', ?_⟩
    rw [mapM, Condition.bindTest, bind_assoc, run_bind_of_ok hs']
    rfl
  | group inner ih =>
    obtain ⟨s', hs'⟩ := ih h s
    refine ⟨s', ?_⟩
    rw [mapM, run_bind_of_ok hs']
    rfl
  | single operand ih =>
    obtain ⟨s', hs'⟩ := ih h s
    refine ⟨s', ?_⟩
    rw [mapM, run_bind_of_ok hs']
    rfl
  | join operand connective rest ihOperand ihRest =>
    obtain ⟨s₁, hs₁⟩ := ihOperand (fun c hc => h c (List.mem_append_left _ hc)) s
    obtain ⟨s₂, hs₂⟩ := ihRest (fun c hc => h c (List.mem_append_right _ hc)) s₁
    refine ⟨s₂, ?_⟩
    rw [mapM, run_bind_of_ok hs₁, run_bind_of_ok hs₂]
    rfl

/-- An expression whose conditions are all accepted is compiled, whatever the state. -/
theorem compile_of_accepts {test : Condition → μ → Bool}
    (h : ∀ c ∈ e.conditions, ∀ s, ∃ s', (bind c).run.run s = (.ok (test c), s')) (s : σ) :
    ∃ s', (e.compile bind).run.run s = (.ok (e.map id fun c => ⟨c, test c⟩), s') := by
  rw [compile_eq_mapM]
  exact Tree.exists_mapM_bindTest e h s

end Callback

/-! ## Callbacks without a state -/

section Verdict

variable {ε α β ω : Type} {l : Level}

/-- A tree is visited to its end if nothing goes wrong at a leaf. -/
theorem Tree.mapM_eq_ok {f : α → Except ε β} {g : α → β} {t : Tree ω α l}
    (h : ∀ a ∈ t.leaves, f a = .ok (g a)) : t.mapM f = .ok (t.map id g) := by
  induction t with
  | leaf content =>
    rw [mapM, h content (List.mem_singleton_self content)]
    rfl
  | group inner ih =>
    rw [mapM, ih h]
    rfl
  | single operand ih =>
    rw [mapM, ih h]
    rfl
  | join operand connective rest ihOperand ihRest =>
    rw [mapM, ihOperand fun a ha => h a (List.mem_append_left _ ha),
      ihRest fun a ha => h a (List.mem_append_right _ ha)]
    rfl

theorem Tree.mapM_congr {f g : α → Except ε β} {t : Tree ω α l}
    (h : ∀ a ∈ t.leaves, f a = g a) : t.mapM f = t.mapM g := by
  induction t with
  | leaf content => rw [mapM, mapM, h content (List.mem_singleton_self content)]
  | group inner ih => rw [mapM, mapM, ih h]
  | single operand ih => rw [mapM, mapM, ih h]
  | join operand connective rest ihOperand ihRest =>
    rw [mapM, mapM, ihOperand fun a ha => h a (List.mem_append_left _ ha),
      ihRest fun a ha => h a (List.mem_append_right _ ha)]

/-- A tree that was visited to its end has no leaf at which something goes wrong. -/
theorem Tree.exists_of_mapM_eq_ok {f : α → Except ε β} {t : Tree ω α l} {t' : Tree ω β l}
    (h : t.mapM f = .ok t') : ∀ a ∈ t.leaves, ∃ b, f a = .ok b := by
  have hleaves : t.leaves.mapM f = .ok t'.leaves := by
    rw [← leaves_mapM, h]
    rfl
  generalize t.leaves = row at hleaves
  generalize t'.leaves = row' at hleaves
  intro a ha
  induction row generalizing row' with
  | nil => exact absurd ha List.not_mem_nil
  | cons first row ih =>
    rw [List.mapM_cons] at hleaves
    obtain ⟨b, hfirst, hrest⟩ := exists_of_bind_eq_ok hleaves
    obtain ⟨bs, hrow, -⟩ := exists_of_bind_eq_ok hrest
    rcases List.mem_cons.mp ha with rfl | ha
    · exact ⟨b, hfirst⟩
    · exact ih bs hrow ha

variable {μ : Type} {bind : Condition → Except ε (μ → Bool)} {e : Expr}

/-- An expression whose conditions have tests is compiled into the tree of these. -/
theorem compile_eq_ok_map {test : Condition → μ → Bool}
    (h : ∀ c ∈ e.conditions, bind c = .ok (test c)) :
    e.compile bind = .ok (e.map id fun c => ⟨c, test c⟩) := by
  rw [compile_eq_mapM]
  refine Tree.mapM_eq_ok fun c hc => ?_
  rw [Condition.bindTest, h c hc]
  rfl

/-- Callbacks that answer alike on the conditions of an expression compile it alike. -/
theorem compile_congr {bind' : Condition → Except ε (μ → Bool)}
    (h : ∀ c ∈ e.conditions, bind' c = bind c) : e.compile bind' = e.compile bind := by
  rw [compile_eq_mapM, compile_eq_mapM]
  refine Tree.mapM_congr fun c hc => ?_
  rw [Condition.bindTest, Condition.bindTest, h c hc]

theorem exists_compile_eq_ok_iff :
    (∃ compiled, e.compile bind = .ok compiled)
      ↔ ∀ c ∈ e.conditions, ∃ test, bind c = .ok test := by
  constructor
  · rintro ⟨compiled, h⟩ c hc
    rw [compile_eq_mapM] at h
    obtain ⟨bound, hbound⟩ := Tree.exists_of_mapM_eq_ok h c hc
    refine ⟨bound.test, ?_⟩
    rw [← map_test_bindTest bind c, hbound]
    rfl
  · intro h
    choose! test htest using h
    exact ⟨_, compile_eq_ok_map htest⟩

/-- Going through a list fails at the first element at which something goes wrong. -/
theorem mapM_eq_error_iff {f : α → Except ε β} {row : List α} {cause : ε} :
    row.mapM f = .error cause
      ↔ ∃ before a after, row = before ++ a :: after ∧ (∀ b ∈ before, ∃ b', f b = .ok b')
        ∧ f a = .error cause := by
  induction row with
  | nil =>
    constructor
    · intro h
      cases h
    · rintro ⟨before, a, after, hrow, -, -⟩
      exact absurd hrow.symm (List.append_ne_nil_of_right_ne_nil _ (List.cons_ne_nil _ _))
  | cons first row ih =>
    rw [List.mapM_cons]
    cases hfirst : f first with
    | error reason =>
      constructor
      · intro h
        cases h
        exact ⟨[], first, row, rfl, List.forall_mem_nil _, hfirst⟩
      · rintro ⟨_ | ⟨b, before⟩, a, after, hrow, hbefore, ha⟩
        · cases hrow
          rw [hfirst] at ha
          exact congrArg Except.error (Except.error.inj ha)
        -- nothing goes wrong at what stands in front
        · cases hrow
          obtain ⟨b', hb⟩ := hbefore first List.mem_cons_self
          rw [hfirst] at hb
          cases hb
    | ok b' =>
      have hrest : (do let bs ← row.mapM f; pure (b' :: bs)) = Except.error cause
          ↔ row.mapM f = .error cause := by
        cases row.mapM f with
        | error reason => rfl
        | ok bs => exact ⟨nofun, nofun⟩
      refine hrest.trans (ih.trans ⟨?_, ?_⟩)
      · rintro ⟨before, a, after, rfl, hbefore, ha⟩
        exact ⟨first :: before, a, after, rfl, List.forall_mem_cons.mpr ⟨⟨b', hfirst⟩, hbefore⟩, ha⟩
      · rintro ⟨_ | ⟨b, before⟩, a, after, hrow, hbefore, ha⟩
        · cases hrow
          rw [hfirst] at ha
          cases ha
        · cases hrow
          exact ⟨before, a, after, rfl, (List.forall_mem_cons.mp hbefore).2, ha⟩

/-- Compiling fails with what the first condition is rejected with that is rejected at all. -/
theorem compile_eq_error_iff {cause : ε} :
    e.compile bind = .error cause
      ↔ ∃ before c after, e.conditions = before ++ c :: after
        ∧ (∀ b ∈ before, ∃ test, bind b = .ok test) ∧ bind c = .error cause := by
  rw [← mapM_eq_error_iff, ← tests_compile]
  cases e.compile bind with
  | error reason => exact ⟨fun h => h ▸ rfl, fun h => congrArg _ (Except.error.inj h)⟩
  | ok compiled => exact ⟨nofun, nofun⟩

end Verdict

end RecordFilter
