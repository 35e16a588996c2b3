import Mathlib

/-!
# What runs behind a run

Computations that may fail, that have a state, or both, are taken apart at their sequencing: what
stands behind a part is run on what the part gives. These are the only places where the monads
themselves are opened.
-/

namespace RecordFilter

variable {σ ε α β : Type}

section Failing

variable {x : Except ε α} {f : α → Except ε β} {b : β}

/-- What runs behind something that succeeds. -/
theorem bind_of_ok {a : α} (h : x = .ok a) : x >>= f = f a := by
  rw [h]
  rfl

/-- Something that succeeds has parts that do. -/
theorem exists_of_bind_eq_ok (h : x >>= f = .ok b) : ∃ a, x = .ok a ∧ f a = .ok b := by
  cases x with
  | error cause => cases h
  | ok a => exact ⟨a, rfl, h⟩

theorem exists_of_map_eq_ok {x : Except ε α} {f : α → β} (h : f <$> x = .ok b) :
    ∃ a, x = .ok a ∧ f a = b := by
  cases x with
  | error cause => cases h
  | ok a => exact ⟨a, rfl, Except.ok.inj h⟩

/-- What succeeds with its errors renamed succeeds without. -/
theorem ok_of_mapError_eq_ok {ε' : Type} {f : ε → ε'} {a : α} (h : x.mapError f = .ok a) :
    x = .ok a := by
  cases x with
  | error cause => cases h
  | ok a => rw [Except.ok.inj h]

/-- What every step keeps is kept by a row of steps. -/
theorem foldlM_keeps {P : β → Prop} {step : β → α → Except ε β} {row : List α} {first last : β}
    (hstep : ∀ a ∈ row, ∀ s s', P s → step s a = .ok s' → P s')
    (hfirst : P first) (h : row.foldlM step first = .ok last) : P last := by
  induction row generalizing first with
  | nil => rwa [← Except.ok.inj h]
  | cons a row ih =>
    rw [List.foldlM_cons] at h
    obtain ⟨next, hnext, hrest⟩ := exists_of_bind_eq_ok h
    exact ih (fun a' ha' => hstep a' (List.mem_cons_of_mem _ ha'))
      (hstep a List.mem_cons_self _ _ hfirst hnext) hrest

end Failing

/-! ## Faults -/

section Faults

variable {x : Except ε α} {cause : ε} {first rest : List (Option ε)}

/-- What something has failed with, if it has failed. -/
def cause? : Except ε α → Option ε
  | .ok _ => none
  | .error cause => some cause

theorem cause?_eq_some_iff : cause? x = some cause ↔ x = .error cause := by
  cases x <;> simp [cause?]

theorem cause?_eq_none_iff : cause? x = none ↔ ∃ a, x = .ok a := by
  cases x <;> simp [cause?]

/-- A part that cannot fail adds no fault. -/
theorem cause?_bind_pure {f : α → β} : cause? (x >>= fun a => pure (f a)) = cause? x := by
  cases x <;> rfl

theorem cause?_map {f : α → β} : cause? (x.map f) = cause? x := by
  cases x <;> rfl

/-- Of two parts the first one that fails tells the fault. -/
theorem cause?_bind_unit {x : Except ε Unit} {y : Except ε α} :
    cause? (x >>= fun _ => y) = (cause? x).or (cause? y) := by
  cases x <;> rfl

/-- The first fault that was found, where each of several checks may have found one. -/
def firstFault (faults : List (Option ε)) : Option ε := faults.findSome? id

theorem firstFault_append :
    firstFault (first ++ rest) = (firstFault first).or (firstFault rest) :=
  List.findSome?_append

theorem firstFault_eq_none_iff : firstFault first = none ↔ ∀ fault ∈ first, fault = none :=
  List.findSome?_eq_none_iff

end Faults

section State

variable {s s' : σ}

/-- What runs behind a run that has ended. -/
theorem run_bind_of_run {x : StateM σ α} {a : α} {f : α → StateM σ β} (h : x.run s = (a, s')) :
    (x >>= f).run s = (f a).run s' := by
  rw [StateT.run_bind, h]
  rfl

/-- What runs behind a run that has succeeded. -/
theorem run_bind_of_ok {x : ExceptT ε (StateM σ) α} {a : α} {f : α → ExceptT ε (StateM σ) β}
    (h : x.run.run s = (.ok a, s')) : (x >>= f).run.run s = (f a).run.run s' := by
  rw [ExceptT.run_bind, StateT.run_bind, h]
  rfl

/-- Nothing runs behind a run that has failed. -/
theorem run_bind_of_error {x : ExceptT ε (StateM σ) α} {cause : ε}
    {f : α → ExceptT ε (StateM σ) β} (h : x.run.run s = (.error cause, s')) :
    (x >>= f).run.run s = (.error cause, s') := by
  rw [ExceptT.run_bind, StateT.run_bind, h]
  rfl

/-- A run that succeeds has parts that do. -/
theorem exists_of_run_bind_eq_ok {x : ExceptT ε (StateM σ) α} {f : α → ExceptT ε (StateM σ) β}
    {b : β} (h : (x >>= f).run.run s = (.ok b, s')) :
    ∃ a next, x.run.run s = (.ok a, next) ∧ (f a).run.run next = (.ok b, s') := by
  rcases hx : x.run.run s with ⟨outcome, next⟩
  cases outcome with
  | error cause =>
    rw [run_bind_of_error hx] at h
    cases h
  | ok a =>
    rw [run_bind_of_ok hx] at h
    exact ⟨a, next, rfl, h⟩

end State

end RecordFilter
