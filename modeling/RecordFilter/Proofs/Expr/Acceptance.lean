import RecordFilter.Proofs.Expr.Reader

/-!
# What the reader accepts

A cursor accepts at an index if the tokens from where it stands up to there are an expression and
the input ends there. `read_ok_iff` says that the reader answers with a tree exactly then, that
there is no more than one such index, that the cursor is left on it, and that the tree is the only
one which these tokens spell. What stands in front of the cursor or behind the end of the input
does not count.

The index is where the walk of the machine stops, so the proof joins the two halves of
`Reader`: what the reader answers with is spelled by the tokens that it has walked over
(`exists_accepts_of_read`), and the tokens of a tree walk it over that tree
(`read_eq_of_spelledBy`).
-/

namespace RecordFilter

namespace Cursor

/-! ## The tokens up to an index -/

/-- The tokens from where a cursor stands up to an index. -/
def upTo (cursor : Cursor) (j : Nat) : List Token :=
  cursor.remaining.take (j - cursor.index)

section UpTo

variable {cursor : Cursor} {j : Nat} {token : Token} {front rest : List Token}

theorem length_upTo (hstart : cursor.index ≤ j) (htoken : cursor.tokens[j]? = some token) :
    cursor.index + (cursor.upTo j).length = j := by
  obtain ⟨hlength, -⟩ := List.getElem?_eq_some_iff.mp htoken
  rw [upTo, remaining, List.length_take, List.length_drop]
  omega

/-- A token behind the cursor splits what remains. -/
theorem exists_remaining_eq (hstart : cursor.index ≤ j)
    (htoken : cursor.tokens[j]? = some token) :
    ∃ rest, cursor.remaining = cursor.upTo j ++ token :: rest := by
  obtain ⟨hlength, hget⟩ := List.getElem?_eq_some_iff.mp htoken
  refine ⟨cursor.tokens.drop (j + 1), ?_⟩
  have hdrop : cursor.remaining.drop (j - cursor.index) = cursor.tokens.drop j := by
    rw [remaining, List.drop_drop]
    congr 1
    omega
  rw [← hget, ← List.drop_eq_getElem_cons hlength, ← hdrop, upTo, List.take_append_drop]

theorem upTo_of_remaining (h : cursor.remaining = front ++ rest) :
    cursor.upTo (cursor.index + front.length) = front := by
  rw [upTo, Nat.add_sub_cancel_left, h, List.take_left]

theorem getElem?_of_remaining (h : cursor.remaining = front ++ token :: rest) :
    cursor.tokens[cursor.index + front.length]? = some token := by
  have hget : cursor.remaining[front.length]? = some token := by
    rw [h, List.getElem?_append_right (Nat.le_refl _), Nat.sub_self]
    rfl
  rwa [remaining, List.getElem?_drop] at hget

end UpTo

/-! ## Reading as walking -/

section Walks

open Reader (Walks)

variable {cursor : Cursor} {s : Reader.State} {token : Token} {front rest : List Token}

/-- Where the machine stops is where the cursor is left. -/
theorem read_of_walks {result : Except ExprError Expr}
    (hremaining : cursor.remaining = front ++ rest) (hwalk : Walks .initial front s)
    (hstop : Reader.run cursor.endPosition s rest = ⟨result, rest⟩) :
    cursor.read = (result, cursor.moveTo (cursor.index + front.length)) := by
  have hrun : Reader.run cursor.endPosition .initial cursor.remaining = ⟨result, rest⟩ := by
    rw [hremaining, hwalk.run, hstop]
  have hlength : cursor.remaining.length - rest.length = front.length := by
    rw [hremaining, List.length_append, Nat.add_sub_cancel]
  simp only [read, hrun, hlength]

/-- A cursor is read as far as its tokens walk the machine. -/
theorem read_cases (cursor : Cursor) :
    ∃ front s, Walks .initial front s ∧
      ((cursor.remaining = front
          ∧ cursor.read = (.error (.unexpectedEndOfInput cursor.endPosition),
            cursor.moveTo (cursor.index + front.length)))
        ∨ ∃ token rest, cursor.remaining = front ++ token :: rest ∧
          ((∃ e, Reader.step s token = .ok (.finished e)
              ∧ cursor.read = (.ok e, cursor.moveTo (cursor.index + front.length)))
            ∨ ∃ error, Reader.step s token = .error error
              ∧ cursor.read
                = (.error error, cursor.moveTo (cursor.index + front.length)))) := by
  obtain ⟨front, s, hwalk, hstop⟩ :=
    Reader.run_cases cursor.endPosition .initial cursor.remaining
  refine ⟨front, s, hwalk, ?_⟩
  rcases hstop with ⟨hremaining, -⟩ | ⟨token, rest, hremaining, ⟨e, hstep, -⟩ | ⟨error, hstep, -⟩⟩
  · have hall : cursor.remaining = front ++ [] := by rw [hremaining, List.append_nil]
    exact Or.inl ⟨hremaining, read_of_walks hall hwalk rfl⟩
  · refine Or.inr ⟨token, rest, hremaining, Or.inl ⟨e, hstep, read_of_walks hremaining hwalk ?_⟩⟩
    rw [Reader.run, hstep]
  · refine Or.inr ⟨token, rest, hremaining,
      Or.inr ⟨error, hstep, read_of_walks hremaining hwalk ?_⟩⟩
    rw [Reader.run, hstep]

end Walks

/-! ## Acceptance -/

/-- The tokens up to an index are an expression, and the input ends there. -/
structure Accepts (cursor : Cursor) (j : Nat) : Prop where
  start_le : cursor.index ≤ j
  ended : ∃ token, cursor.tokens[j]? = some token ∧ token.kind = .endOfInput
  expression : IsExpression (cursor.upTo j)

variable {cursor : Cursor} {e : Expr} {j : Nat}

theorem accepts_of_remaining {token : Token} {front rest : List Token}
    (hremaining : cursor.remaining = front ++ token :: rest) (hkind : token.kind = .endOfInput)
    (hexpression : IsExpression front) : cursor.Accepts (cursor.index + front.length) := by
  refine ⟨Nat.le_add_right _ _, ⟨token, getElem?_of_remaining hremaining, hkind⟩, ?_⟩
  rwa [upTo_of_remaining hremaining]

/-- Soundness: what the reader answers with is spelled by an expression that it accepts. -/
theorem exists_accepts_of_read (h : cursor.read.1 = .ok e) :
    ∃ j, cursor.Accepts j ∧ e.SpelledBy (cursor.upTo j) := by
  obtain ⟨front, s, hwalk, ⟨-, hread⟩ | ⟨token, rest, hremaining, hstop⟩⟩ := cursor.read_cases
  · rw [hread] at h
    cases h
  rcases hstop with ⟨e', hstep, hread⟩ | ⟨error, -, hread⟩
  · rw [hread] at h
    obtain rfl : e' = e := Except.ok.inj h
    obtain ⟨henclosing, hkind, last, hdue, rfl⟩ := Reader.step_eq_finished_iff.mp hstep
    obtain ⟨hexpression, hspelled⟩ := hwalk.isExpression henclosing hdue
    refine ⟨_, accepts_of_remaining hremaining hkind hexpression, ?_⟩
    rwa [upTo_of_remaining hremaining]
  · rw [hread] at h
    cases h

/-- Completeness: a tree that is spelled up to the end of the input is what the reader answers
with. -/
theorem read_eq_of_spelledBy (h : cursor.Accepts j) (he : e.SpelledBy (cursor.upTo j)) :
    cursor.read = (.ok e, cursor.moveTo j) := by
  obtain ⟨hstart, ⟨token, htoken, hkind⟩, hexpression⟩ := h
  -- a tree is nested as deep as its tokens are, so it fits because these do
  have hdepth : e.depth ≤ maxNesting := by
    have hnested := hexpression.nested
    rwa [(he.opened []).2, List.length_nil, Nat.zero_add] at hnested
  obtain ⟨s, hwalk, before, last, rfl, hclose⟩ :=
    Reader.exists_walks he [] [] (by rwa [List.length_nil, Nat.zero_add])
  have hstep : Reader.step ⟨[], before, .connective last⟩ token = .ok (.finished e) :=
    Reader.step_eq_finished_iff.mpr ⟨rfl, hkind, last, rfl, hclose.symm⟩
  obtain ⟨rest, hremaining⟩ := exists_remaining_eq hstart htoken
  have hread := read_of_walks hremaining hwalk
    (show Reader.run _ _ (token :: rest) = ⟨.ok e, token :: rest⟩ by rw [Reader.run, hstep])
  rwa [length_upTo hstart htoken] at hread

/-- Behind one end of the input no expression comes to another. -/
theorem Accepts.le {j' : Nat} (h : cursor.Accepts j) (h' : cursor.Accepts j') : j' ≤ j := by
  obtain ⟨hstart, ⟨token, htoken, hkind⟩, -⟩ := h
  by_contra hbehind
  have hmem : token ∈ cursor.upTo j' := by
    refine List.mem_of_getElem? (i := j - cursor.index) ?_
    rw [upTo, List.getElem?_take_of_lt (by omega), remaining, List.getElem?_drop,
      Nat.add_sub_cancel' hstart, htoken]
  exact h'.expression.derives.kind_ne_endOfInput token hmem hkind

/-- The reader accepts its grammar and nothing else. It answers with a tree if and only if the
input ends behind an expression. There is one index where it does; the cursor is left on it, and
the tree is the only one that the tokens in front of it spell. -/
theorem read_ok_iff (cursor : Cursor) :
    ((∃ e, cursor.read.1 = .ok e) ↔ ∃ j, cursor.Accepts j)
      ∧ ∀ j, cursor.Accepts j →
        (∀ j', cursor.Accepts j' → j' = j)
          ∧ ∃ e, cursor.read = (.ok e, cursor.moveTo j)
            ∧ ∀ e' : Expr, e'.SpelledBy (cursor.upTo j) ↔ e' = e := by
  -- at every index that it accepts the answer is known
  have hread : ∀ j, cursor.Accepts j →
      ∃ e : Expr, e.SpelledBy (cursor.upTo j)
        ∧ cursor.read = (.ok e, cursor.moveTo j) := by
    intro j hj
    obtain ⟨e, he, -⟩ := isExpression_iff.mp hj.expression
    exact ⟨e, he, read_eq_of_spelledBy hj he⟩
  refine ⟨⟨fun ⟨e, he⟩ => ?_, fun ⟨j, hj⟩ => ?_⟩, fun j hj => ?_⟩
  · obtain ⟨j, hj, -⟩ := exists_accepts_of_read he
    exact ⟨j, hj⟩
  · obtain ⟨e, -, he⟩ := hread j hj
    exact ⟨e, by rw [he]⟩
  · obtain ⟨e, he, heq⟩ := hread j hj
    refine ⟨fun j' hj' => ?_, e, heq, fun e' => ⟨fun he' => ?_, fun he' => ?_⟩⟩
    · exact Nat.le_antisymm (hj.le hj') (hj'.le hj)
    · have heq' := read_eq_of_spelledBy hj he'
      exact Except.ok.inj (Prod.mk.inj (heq'.symm.trans heq)).1
    · rw [he']
      exact he

/-- A cursor behind a stray parenthesis, with another one behind the end of the input. -/
theorem read_ok_between_strays :
    let cursor : Cursor := ⟨[⟨.rightParen, ")", ⟨1, 1⟩⟩, ⟨.identifier, "a", ⟨1, 2⟩⟩,
      ⟨.equals, "=", ⟨1, 3⟩⟩, ⟨.string, "'b'", ⟨1, 4⟩⟩, ⟨.endOfInput, "", ⟨1, 7⟩⟩,
      ⟨.rightParen, ")", ⟨1, 8⟩⟩], 1⟩
    cursor.Accepts 4 ∧ ∃ e, cursor.read = (.ok e, cursor.moveTo 4)
      ∧ ∀ e' : Expr, e'.SpelledBy (cursor.upTo 4) ↔ e' = e := by
  intro cursor
  have haccepts : cursor.Accepts 4 := by
    refine ⟨by decide, ⟨_, rfl, rfl⟩, ?_, by decide, ?_⟩
    · exact .single (.condition rfl (by decide) (Or.inl rfl))
    · intro token ht hkind
      have hkinds : ∀ token ∈ cursor.upTo 4, token.kind ≠ .number := by decide
      exact absurd hkind (hkinds token ht)
  exact ⟨haccepts, ((read_ok_iff cursor).2 4 haccepts).2⟩

end Cursor
end RecordFilter
