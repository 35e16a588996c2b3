import Mathlib
import RecordFilter.Text.EditDistance

/-!
# The distance is the least number of edits

An edit inserts, deletes or replaces one character anywhere in a text. Edits may be made in any
order and undo each other, so their number is compared with something that has no order: an
*alignment* runs over both texts at once and pays for every character that it does not keep. Any
row of edits gives an alignment that costs no more (`Alignment.edit`), any alignment gives as many
edits as it costs (`Alignment.edits`), and `distance` is the cost of the cheapest alignment by the
recursion that its rows satisfy (`distance_cons_cons`).
-/

namespace RecordFilter.Text

/-! ## Edits -/

/-- One text becomes another when a character is inserted, deleted or replaced. -/
inductive Edit : List Char → List Char → Prop where
  | insert (front : List Char) (c : Char) (back : List Char) :
    Edit (front ++ back) (front ++ c :: back)
  | delete (front : List Char) (c : Char) (back : List Char) :
    Edit (front ++ c :: back) (front ++ back)
  | replace (front : List Char) (c d : Char) (back : List Char) :
    Edit (front ++ c :: back) (front ++ d :: back)

/-- One text becomes another in a number of edits, made one after the other. -/
inductive Edits : Nat → List Char → List Char → Prop where
  | refl (s : List Char) : Edits 0 s s
  | step {n : Nat} {s t u : List Char} (h : Edits n s t) (edit : Edit t u) : Edits (n + 1) s u

variable {s t u : List Char} {m n : Nat}

theorem Edit.cons (c : Char) (h : Edit s t) : Edit (c :: s) (c :: t) := by
  cases h with
  | insert front d back => exact .insert (c :: front) d back
  | delete front d back => exact .delete (c :: front) d back
  | replace front d e back => exact .replace (c :: front) d e back

theorem Edits.cons (c : Char) (h : Edits n s t) : Edits n (c :: s) (c :: t) := by
  induction h with
  | refl s => exact .refl (c :: s)
  | step _ edit ih => exact ih.step (edit.cons c)

/-! ## Alignments -/

/-- One text stands over another, character for character or gap, at a cost: that of every
character that does not stand over itself. -/
inductive Alignment : List Char → List Char → Nat → Prop where
  | nil : Alignment [] [] 0
  | keep (c : Char) {s t : List Char} {n : Nat} (h : Alignment s t n) :
    Alignment (c :: s) (c :: t) n
  | replace (c d : Char) {s t : List Char} {n : Nat} (h : Alignment s t n) :
    Alignment (c :: s) (d :: t) (n + 1)
  | insert (d : Char) {s t : List Char} {n : Nat} (h : Alignment s t n) :
    Alignment s (d :: t) (n + 1)
  | delete (c : Char) {s t : List Char} {n : Nat} (h : Alignment s t n) :
    Alignment (c :: s) t (n + 1)

namespace Alignment

theorem self (s : List Char) : Alignment s s 0 := by
  induction s with
  | nil => exact .nil
  | cons c s ih => exact ih.keep c

/-- What an alignment costs can be paid in edits. -/
theorem edits (h : Alignment s t n) : Edits n s t := by
  induction h with
  | nil => exact .refl []
  | keep c _ ih => exact ih.cons c
  | @replace c d s t n _ ih => exact (ih.cons c).step (.replace [] c d t)
  | @insert d s t n _ ih => exact ih.step (.insert [] d t)
  | @delete c s t n _ ih => exact (ih.cons c).step (.delete [] c t)

theorem append {s' t' : List Char} (h : Alignment s t m) (h' : Alignment s' t' n) :
    Alignment (s ++ s') (t ++ t') (m + n) := by
  induction h with
  | nil => rwa [Nat.zero_add]
  | keep c _ ih => exact ih.keep c
  | replace c d _ ih =>
    rw [Nat.add_right_comm]
    exact ih.replace c d
  | insert d _ ih =>
    rw [Nat.add_right_comm]
    exact ih.insert d
  | delete c _ ih =>
    rw [Nat.add_right_comm]
    exact ih.delete c

/-- Where the lower text is cut, the upper one can be cut as well. -/
theorem exists_split {a b : List Char} (h : Alignment s (a ++ b) n) :
    ∃ s₁ s₂ m₁ m₂, s = s₁ ++ s₂ ∧ n = m₁ + m₂ ∧ Alignment s₁ a m₁ ∧ Alignment s₂ b m₂ := by
  generalize ht : a ++ b = t at h
  induction h generalizing a with
  | nil =>
    obtain ⟨rfl, rfl⟩ := List.append_eq_nil_iff.mp ht
    exact ⟨[], [], 0, 0, rfl, rfl, .nil, .nil⟩
  | @keep c s t n h ih =>
    rcases List.append_eq_cons_iff.mp ht with ⟨rfl, rfl⟩ | ⟨a, rfl, rfl⟩
    · exact ⟨[], c :: s, 0, n, rfl, (Nat.zero_add n).symm, .nil, h.keep c⟩
    · obtain ⟨s₁, s₂, m₁, m₂, rfl, rfl, h₁, h₂⟩ := ih rfl
      exact ⟨c :: s₁, s₂, m₁, m₂, rfl, rfl, h₁.keep c, h₂⟩
  | @replace c d s t n h ih =>
    rcases List.append_eq_cons_iff.mp ht with ⟨rfl, rfl⟩ | ⟨a, rfl, rfl⟩
    · exact ⟨[], c :: s, 0, n + 1, rfl, (Nat.zero_add _).symm, .nil, h.replace c d⟩
    · obtain ⟨s₁, s₂, m₁, m₂, rfl, rfl, h₁, h₂⟩ := ih rfl
      exact ⟨c :: s₁, s₂, m₁ + 1, m₂, rfl, Nat.add_right_comm .., h₁.replace c d, h₂⟩
  | @insert d s t n h ih =>
    rcases List.append_eq_cons_iff.mp ht with ⟨rfl, rfl⟩ | ⟨a, rfl, rfl⟩
    · exact ⟨[], s, 0, n + 1, rfl, (Nat.zero_add _).symm, .nil, h.insert d⟩
    · obtain ⟨s₁, s₂, m₁, m₂, rfl, rfl, h₁, h₂⟩ := ih rfl
      exact ⟨s₁, s₂, m₁ + 1, m₂, rfl, Nat.add_right_comm .., h₁.insert d, h₂⟩
  | @delete c s t n h ih =>
    obtain ⟨s₁, s₂, m₁, m₂, rfl, rfl, h₁, h₂⟩ := ih ht
    exact ⟨c :: s₁, s₂, m₁ + 1, m₂, rfl, Nat.add_right_comm .., h₁.delete c, h₂⟩

/-- What is longer above than below has to be deleted. -/
theorem length_le (h : Alignment s t n) : s.length ≤ t.length + n := by
  induction h <;> simp only [List.length_nil, List.length_cons] <;> omega

theorem deletes (s : List Char) : Alignment s [] s.length := by
  induction s with
  | nil => exact .nil
  | cons c s ih => exact ih.delete c

/-- An edit of the lower text costs at most one more. -/
theorem edit (h : Alignment s t n) (edit : Edit t u) : ∃ k ≤ n + 1, Alignment s u k := by
  cases edit with
  | insert front c back =>
    obtain ⟨s₁, s₂, m₁, m₂, rfl, rfl, h₁, h₂⟩ := h.exists_split
    exact ⟨m₁ + (m₂ + 1), by omega, h₁.append (h₂.insert c)⟩
  | delete front c back =>
    -- what stood over the character is deleted
    obtain ⟨s₁, rest, m₁, m, rfl, rfl, h₁, h⟩ := h.exists_split
    obtain ⟨s₂, s₃, m₂, m₃, rfl, rfl, h₂, h₃⟩ := exists_split (a := [c]) h
    have hlength := h₂.length_le
    rw [List.length_singleton] at hlength
    exact ⟨m₁ + (s₂.length + m₃), by omega, h₁.append ((deletes s₂).append h₃)⟩
  | replace front c d back =>
    obtain ⟨s₁, rest, m₁, m, rfl, rfl, h₁, h⟩ := h.exists_split
    obtain ⟨s₂, s₃, m₂, m₃, rfl, rfl, h₂, h₃⟩ := exists_split (a := [c]) h
    have hlength := h₂.length_le
    rw [List.length_singleton] at hlength
    -- what stood over the character is deleted but for one, which is replaced
    cases s₂ with
    | nil => exact ⟨m₁ + (1 + m₃), by omega, h₁.append ((Alignment.nil.insert d).append h₃)⟩
    | cons e s₂ =>
      rw [List.length_cons] at hlength
      exact ⟨m₁ + (s₂.length + 1 + m₃), by omega,
        h₁.append (((deletes s₂).replace e d).append h₃)⟩

/-- A row of edits gives an alignment that costs no more than there are edits. -/
theorem exists_of_edits (h : Edits n s t) : ∃ k ≤ n, Alignment s t k := by
  induction h with
  | refl s => exact ⟨0, Nat.le_refl 0, self s⟩
  | step _ edit ih =>
    obtain ⟨k, hk, hs⟩ := ih
    obtain ⟨l, hl, hu⟩ := hs.edit edit
    exact ⟨l, by omega, hu⟩

end Alignment

/-! ## The recursion of the distance -/

/-- The row for the end of a text is the end of the row. -/
theorem tail_distanceRow (s : List Char) (x : Char) (t : List Char) :
    (distanceRow s (x :: t)).tail = distanceRow s t := by
  induction s with
  | nil => rfl
  | cons c s ih =>
    show nextRow c t (distanceRow s (x :: t)).tail = nextRow c t (distanceRow s t)
    rw [ih]

@[simp] theorem distance_nil (t : List Char) : distance [] t = t.length := by
  cases t <;> rfl

theorem distance_cons_nil (c : Char) (s : List Char) :
    distance (c :: s) [] = distance s [] + 1 := rfl

theorem distance_cons_cons (c : Char) (s : List Char) (x : Char) (t : List Char) :
    distance (c :: s) (x :: t)
      = min (distance s t + if c = x then 0 else 1)
          (min (distance s (x :: t)) (distance (c :: s) t) + 1) := by
  rw [distance, distance, distance, distance, ← tail_distanceRow s x t,
    ← tail_distanceRow (c :: s) x t]
  rfl

/-- The distance is paid by an alignment. -/
theorem alignment_distance (s t : List Char) : Alignment s t (distance s t) := by
  induction s generalizing t with
  | nil =>
    induction t with
    | nil => exact .nil
    | cons x t ih =>
      rw [distance_nil] at ih ⊢
      exact ih.insert x
  | cons c s ih =>
    induction t with
    | nil => exact (ih []).delete c
    | cons x t iht =>
      have hover : Alignment (c :: s) (x :: t) (distance s t + if c = x then 0 else 1) := by
        split
        · next hc => exact hc ▸ (ih t).keep c
        · exact (ih t).replace c x
      have hgap : Alignment (c :: s) (x :: t)
          (min (distance s (x :: t)) (distance (c :: s) t) + 1) := by
        rcases min_choice (distance s (x :: t)) (distance (c :: s) t) with h | h
        · rw [h]
          exact (ih (x :: t)).delete c
        · rw [h]
          exact iht.insert x
      rw [distance_cons_cons]
      rcases min_choice (distance s t + if c = x then 0 else 1)
        (min (distance s (x :: t)) (distance (c :: s) t) + 1) with h | h
      · rwa [h]
      · rwa [h]

theorem distance_delete_le (c : Char) (s t : List Char) :
    distance (c :: s) t ≤ distance s t + 1 := by
  cases t with
  | nil => rw [distance_cons_nil]
  | cons x t =>
    rw [distance_cons_cons]
    omega

theorem distance_insert_le (s : List Char) (x : Char) (t : List Char) :
    distance s (x :: t) ≤ distance s t + 1 := by
  cases s with
  | nil => simp
  | cons c s =>
    rw [distance_cons_cons]
    omega

/-- No alignment costs less than the distance. -/
theorem distance_le (h : Alignment s t n) : distance s t ≤ n := by
  induction h with
  | nil => simp
  | @keep c s t n _ ih =>
    rw [distance_cons_cons, if_pos rfl]
    omega
  | @replace c d s t n _ ih =>
    rw [distance_cons_cons]
    split <;> omega
  | @insert d s t n _ ih =>
    have hinsert := distance_insert_le s d t
    omega
  | @delete c s t n _ ih =>
    have hdelete := distance_delete_le c s t
    omega

/-- **The distance is the least number of edits** that turn one text into the other. -/
theorem isLeast_distance (s t : List Char) : IsLeast {n | Edits n s t} (distance s t) := by
  constructor
  · exact (alignment_distance s t).edits
  · intro n hn
    obtain ⟨k, hk, hs⟩ := Alignment.exists_of_edits hn
    exact (distance_le hs).trans hk

end RecordFilter.Text
