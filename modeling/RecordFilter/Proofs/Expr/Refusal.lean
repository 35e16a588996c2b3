import RecordFilter.Proofs.Expr.Acceptance

/-!
# Where the reader refuses, and what it says

Tokens are viable if they can be extended to some that the reader accepts. The reader has the
correct prefix property: what it has walked over is viable, and the token that it stops at is the
first that is not. `refusedAt_of_read` says this for every cursor whose reading fails, with the
complaint that belongs to the token:

* the place of a token, and how deep it is, are read off the tokens in front of it
  (`OperandDue`, `LiteralDue`, `openParens`), and `blame` is the complaint at that place;
* at the end of the input the complaint is about the innermost open parenthesis if closing
  parentheses are all that is missing (`Closable`), and about the end otherwise;
* without any token left it points at the last token of the list.

Nothing behind the token has a say, so the complaint and its place are the same for all cursors
that agree up to there.
-/

namespace RecordFilter

/-! ## Places and complaints -/

/-- Tokens that can be extended to some that the reader accepts. -/
def Viable (tokens : List Token) : Prop :=
  ∃ others e, (Cursor.mk (tokens ++ others) 0).read.1 = .ok e

/-- Tokens behind which an operand is due. -/
def OperandDue (front : List Token) : Prop :=
  ∀ last ∈ front.getLast?, last.kind = .leftParen ∨ last.kind = .and ∨ last.kind = .or

/-- Tokens behind which a literal is due. -/
def LiteralDue (front : List Token) : Prop :=
  ∃ last ∈ front.getLast?, last.kind ∈ comparisonKinds

/-- A parenthesis that opens where an operand is due, with as many open as there may be. -/
def TooDeep (front : List Token) (token : Token) : Prop :=
  token.kind = .leftParen ∧ OperandDue front ∧ (openParens front).length = maxNesting

/-- A number where a literal is due that no finite double is nearest to. -/
def OutOfReach (front : List Token) (token : Token) : Prop :=
  token.kind = .number ∧ LiteralDue front ∧ Binary64.ofText? token.literal.toList = none

instance (front : List Token) : Decidable (OperandDue front) :=
  inferInstanceAs (Decidable (∀ last ∈ front.getLast?, _))

instance (front : List Token) : Decidable (LiteralDue front) :=
  inferInstanceAs (Decidable (∃ last ∈ front.getLast?, _))

instance (front : List Token) (token : Token) : Decidable (TooDeep front token) :=
  inferInstanceAs (Decidable (_ ∧ _))

instance (front : List Token) (token : Token) : Decidable (OutOfReach front token) :=
  inferInstanceAs (Decidable (_ ∧ _))

/-- The complaint about a token that cannot stand behind others. -/
def blame (front : List Token) (token : Token) : ExprError :=
  if TooDeep front token then .nestingTooDeep maxNesting token.position
  else if OutOfReach front token then .invalidNumber token.literal token.position
  else .unexpectedToken token none

/-- Tokens that closing parentheses, at least one of them, make an expression. -/
def Closable (front : List Token) : Prop :=
  ∃ closers, closers ≠ [] ∧ (∀ token ∈ closers, token.kind = .rightParen)
    ∧ IsExpression (front ++ closers)

/-- Reading stops at an index with an error, and both are the right ones. -/
structure Cursor.RefusedAt (cursor : Cursor) (k : Nat) (error : ExprError) : Prop where
  start_le : cursor.index ≤ k
  stopped : cursor.read = (.error error, cursor.moveTo k)
  /-- Up to there nothing is wrong. -/
  viable : Viable (cursor.upTo k)
  /-- A token in the way. -/
  atToken : ∀ token, cursor.tokens[k]? = some token → token.kind ≠ .endOfInput →
    ¬ Viable (cursor.upTo (k + 1)) ∧ error = blame (cursor.upTo k) token
  /-- The end of the input. -/
  atEnd : ∀ token, cursor.tokens[k]? = some token → token.kind = .endOfInput →
    (Closable (cursor.upTo k) → ∃ opening outer, openParens (cursor.upTo k) = opening :: outer
      ∧ error = .unclosedParenthesis opening.position)
    ∧ (¬ Closable (cursor.upTo k) → error = .unexpectedEndOfInput token.position)
  /-- No token at all. -/
  beyond : cursor.tokens[k]? = none →
    error = .unexpectedEndOfInput ((cursor.tokens.getLast?.map Token.position).getD ⟨1, 1⟩)
  /-- Other tokens that agree up to there are refused in the same way. -/
  decided : ∀ token, cursor.tokens[k]? = some token → ∀ other : Cursor,
    other.upTo (other.index + (k + 1 - cursor.index)) = cursor.upTo (k + 1) →
      other.read = (.error error, other.moveTo (other.index + (k - cursor.index)))

/-! ## What is due -/

namespace Reader

variable {s : State} {token : Token} {front : List Token} {error : ExprError}

/-- What the last token that was read says about what is due. -/
def Due.Follows : Due → Option Token → Prop
  | .operand, last? =>
    ∀ token ∈ last?, token.kind = .leftParen ∨ token.kind = .and ∨ token.kind = .or
  | .comparison _, last? => ∃ token ∈ last?, token.kind = .identifier
  | .literal _ _, last? => ∃ token ∈ last?, token.kind ∈ comparisonKinds
  | .connective _, last? =>
    ∃ token ∈ last?, token.kind = .string ∨ token.kind = .number ∨ token.kind = .rightParen

theorem Moves.follows {s' : State} (h : Moves s token s') : s'.due.Follows (some token) := by
  cases h with
  | opening hkind _ =>
    intro last hlast
    obtain rfl := Option.mem_some_iff.mp hlast
    exact Or.inl hkind
  | identifier hkind => exact ⟨token, rfl, hkind⟩
  | comparison hitem => exact ⟨token, rfl, Comparison.exists_ofKind?_iff.mp ⟨_, hitem⟩⟩
  | literal hvalue =>
    rcases faithful_of_literalValue hvalue with ⟨hkind, -⟩ | ⟨hkind, -⟩
    · exact ⟨token, rfl, Or.inl hkind⟩
    · exact ⟨token, rfl, Or.inr (Or.inl hkind)⟩
  | connective hitem =>
    intro last hlast
    obtain rfl := Option.mem_some_iff.mp hlast
    exact Or.inr (Connective.exists_ofKind?_iff.mp ⟨_, hitem⟩)
  | closing hkind => exact ⟨token, rfl, Or.inr (Or.inr hkind)⟩

theorem Walks.follows (h : Walks .initial front s) : s.due.Follows front.getLast? := by
  -- only the last move matters
  rcases List.eq_nil_or_concat front with rfl | ⟨before, last, rfl⟩
  · cases h with
    | nil =>
      intro token htoken
      cases htoken
  · rw [List.concat_eq_append] at h ⊢
    obtain ⟨s₁, -, hlast⟩ := h.split
    cases hlast with
    | cons hmove hnil =>
      cases hnil with
      | nil =>
        rw [List.getLast?_concat]
        exact hmove.follows

/-- A parenthesis closes behind an operand only. -/
theorem Moves.due_of_rightParen {s' : State} (h : Moves s token s')
    (hkind : token.kind = .rightParen) : ∃ operand, s.due = .connective operand := by
  cases h with
  | opening hopening _ =>
    rw [hkind] at hopening
    cases hopening
  | identifier hidentifier =>
    rw [hkind] at hidentifier
    cases hidentifier
  | comparison hitem =>
    have hmem := Comparison.exists_ofKind?_iff.mp ⟨_, hitem⟩
    rw [hkind] at hmem
    exact absurd hmem (by decide)
  | literal hvalue =>
    rcases faithful_of_literalValue hvalue with ⟨hliteral, -⟩ | ⟨hliteral, -⟩
    · rw [hkind] at hliteral
      cases hliteral
    · rw [hkind] at hliteral
      cases hliteral
  | connective hitem => exact ⟨_, rfl⟩
  | closing _ => exact ⟨_, rfl⟩

/-! ## What has been walked over is viable -/

/-- From every state the operand that is due can be read. -/
theorem exists_walks_operand (s : State) :
    ∃ others operand before, Walks s others ⟨s.enclosing, before, .connective operand⟩ := by
  have hliteral : ∀ enclosing before identifier comparison, ∃ others operand before',
      Walks ⟨enclosing, before, .literal identifier comparison⟩ others
        ⟨enclosing, before', .connective operand⟩ := by
    intro enclosing before identifier comparison
    exact ⟨[⟨.string, "", .start⟩], _, before, .single (.literal rfl)⟩
  have hcomparison : ∀ enclosing before identifier, ∃ others operand before',
      Walks ⟨enclosing, before, .comparison identifier⟩ others
        ⟨enclosing, before', .connective operand⟩ := by
    intro enclosing before identifier
    obtain ⟨others, operand, before', hwalk⟩ :=
      hliteral enclosing before identifier ⟨.equals, ⟨.equals, "", .start⟩⟩
    exact ⟨_, operand, before', .cons (.comparison rfl) hwalk⟩
  obtain ⟨enclosing, before, due⟩ := s
  cases due with
  | operand =>
    obtain ⟨others, operand, before', hwalk⟩ :=
      hcomparison enclosing before ⟨.identifier, "", .start⟩
    exact ⟨_, operand, before', .cons (.identifier rfl) hwalk⟩
  | comparison identifier => exact hcomparison enclosing before identifier
  | literal identifier comparison => exact hliteral enclosing before identifier comparison
  | connective operand => exact ⟨[], operand, before, .nil _⟩

/-- Behind an operand the parentheses that wait can be closed. -/
theorem exists_walks_closers (enclosing : List Enclosure) (before : List Joined)
    (operand : Operand) :
    ∃ closers before' operand', closers.length = enclosing.length
      ∧ (∀ token ∈ closers, token.kind = .rightParen)
      ∧ Walks ⟨enclosing, before, .connective operand⟩ closers
          ⟨[], before', .connective operand'⟩ := by
  induction enclosing generalizing before operand with
  | nil => exact ⟨[], before, operand, rfl, by simp, .nil _⟩
  | cons enclosure outer ih =>
    obtain ⟨closers, before', operand', hlength, hclosers, hwalk⟩ :=
      ih enclosure.before (.group (close before operand))
    refine ⟨⟨.rightParen, "", .start⟩ :: closers, before', operand', ?_, ?_,
      .cons (.closing rfl) hwalk⟩
    · rw [List.length_cons, List.length_cons, hlength]
    · intro token htoken
      rcases List.mem_cons.mp htoken with rfl | htoken
      · rfl
      · exact hclosers token htoken

theorem Walks.viable (h : Walks .initial front s) : Viable front := by
  -- finish the operand that is due, then close what waits, then end the input
  obtain ⟨others, operand, before, hothers⟩ := exists_walks_operand s
  obtain ⟨closers, before', operand', -, -, hclosers⟩ :=
    exists_walks_closers s.enclosing before operand
  have hend : step ⟨[], before', .connective operand'⟩ ⟨.endOfInput, "", .start⟩
      = .ok (.finished (close before' operand')) :=
    step_eq_finished_iff.mpr ⟨rfl, rfl, operand', rfl, rfl⟩
  refine ⟨others ++ closers ++ [⟨.endOfInput, "", .start⟩], close before' operand', ?_⟩
  have hremaining : ∀ last : Token, (Cursor.mk (front ++ (others ++ closers ++ [last])) 0).remaining
      = (front ++ (others ++ closers)) ++ [last] := by
    intro last
    rw [Cursor.remaining_mk_zero, List.append_assoc, List.append_assoc, List.append_assoc]
  rw [Cursor.read_of_walks (hremaining _) (h.append (hothers.append hclosers))]
  rw [Reader.run, hend]

end Reader

namespace Cursor

open Reader (Walks)

variable {cursor : Cursor} {s : Reader.State} {token : Token} {front rest : List Token}
  {error : ExprError}

/-- A token that the machine refuses is refused whatever is behind it. -/
theorem read_of_refused (hremaining : cursor.remaining = front ++ token :: rest)
    (hwalk : Walks .initial front s) (hstep : Reader.step s token = .error error) :
    cursor.read = (.error error, cursor.moveTo (cursor.index + front.length)) :=
  read_of_walks hremaining hwalk (by rw [Reader.run, hstep])

theorem not_viable_of_refused (hwalk : Walks .initial front s)
    (hstep : Reader.step s token = .error error) : ¬ Viable (front ++ [token]) := by
  intro ⟨others, e, hread⟩
  have hremaining : (Cursor.mk (front ++ [token] ++ others) 0).remaining
      = front ++ token :: others := by
    rw [remaining_mk_zero, List.append_assoc, List.singleton_append]
  rw [read_of_refused hremaining hwalk hstep] at hread
  cases hread

end Cursor

/-! ## The complaint about a token -/

section Blame

variable {s : Reader.State} {token last : Token} {front : List Token} {error : ExprError}

theorem ExprError.unexpected_of_ne (h : token.kind ≠ .endOfInput) :
    unexpected token = .unexpectedToken token none := if_neg h

theorem ExprError.unexpected_of_eq (h : token.kind = .endOfInput) :
    unexpected token = .unexpectedEndOfInput token.position := if_pos h

theorem not_operandDue (hlast : last ∈ front.getLast?)
    (hkind : last.kind ∉ [.leftParen, .and, .or]) : ¬ OperandDue front := by
  intro hdue
  apply hkind
  simpa using hdue last hlast

theorem not_literalDue (hlast : last ∈ front.getLast?) (hkind : last.kind ∉ comparisonKinds) :
    ¬ LiteralDue front := by
  intro ⟨other, hother, hmem⟩
  obtain rfl := Option.mem_unique hlast hother
  exact hkind hmem

theorem not_literalDue_of_operandDue (h : OperandDue front) : ¬ LiteralDue front := by
  intro ⟨last, hlast, hmem⟩
  rcases h last hlast with hkind | hkind | hkind
  all_goals
    rw [hkind] at hmem
    exact absurd hmem (by decide)

theorem blame_of_tooDeep (h : TooDeep front token) :
    blame front token = .nestingTooDeep maxNesting token.position := if_pos h

theorem blame_of_outOfReach (h : OutOfReach front token) :
    blame front token = .invalidNumber token.literal token.position := by
  have hdeep : ¬ TooDeep front token := by
    intro hdeep
    exact not_literalDue_of_operandDue hdeep.2.1 h.2.1
  rw [blame, if_neg hdeep, if_pos h]

theorem blame_of_neither (hdeep : ¬ TooDeep front token) (hreach : ¬ OutOfReach front token) :
    blame front token = .unexpectedToken token none := by
  rw [blame, if_neg hdeep, if_neg hreach]

/-- A token in the way is blamed for where it stands. -/
theorem eq_blame_of_refuses (hwalk : Reader.Walks .initial front s)
    (h : Reader.Refuses s token error) (hend : token.kind ≠ .endOfInput) :
    error = blame front token := by
  have hfollows := hwalk.follows
  obtain ⟨-, hopenings, -⟩ := hwalk.of_initial
  have hnested := hwalk.length_enclosing (Nat.zero_le _)
  -- the state knows what is due, and so does the last token that led to it
  cases h with
  | tooDeep hkind hdepth =>
    have hlength : (openParens front).length = maxNesting := by
      rw [← hopenings, Reader.State.length_openings]
      exact Nat.le_antisymm hnested hdepth
    rw [blame_of_tooDeep ⟨hkind, hfollows, hlength⟩]
  -- where an operand is due no literal is, so only a parenthesis could have been too deep
  | noOperand hopening =>
    rw [ExprError.unexpected_of_ne hend, blame_of_neither]
    · exact fun hdeep => hopening hdeep.1
    · exact fun hreach => not_literalDue_of_operandDue hfollows hreach.2.1
  | noComparison =>
    obtain ⟨last, hlast, hkind⟩ := hfollows
    rw [ExprError.unexpected_of_ne hend, blame_of_neither]
    · exact fun hdeep => not_operandDue hlast (by rw [hkind]; decide) hdeep.2.1
    · exact fun hreach => not_literalDue hlast (by rw [hkind]; decide) hreach.2.1
  | outOfReach hkind hvalue => rw [blame_of_outOfReach ⟨hkind, hfollows, hvalue⟩]
  | noLiteral hkind =>
    rw [ExprError.unexpected_of_ne hend, blame_of_neither]
    · exact fun hdeep => not_literalDue_of_operandDue hdeep.2.1 hfollows
    · exact fun hreach => hkind hreach.1
  | unclosed hkind => exact absurd hkind hend
  | noConnective _ =>
    obtain ⟨last, hlast, hkind⟩ := hfollows
    rw [ExprError.unexpected_of_ne hend, blame_of_neither]
    · refine fun hdeep => not_operandDue hlast ?_ hdeep.2.1
      rcases hkind with hkind | hkind | hkind <;> rw [hkind] <;> decide
    · refine fun hreach => not_literalDue hlast ?_ hreach.2.1
      rcases hkind with hkind | hkind | hkind <;> rw [hkind] <;> decide

end Blame

/-! ## The complaint about the end -/

section End

open Reader (Walks)

variable {s : Reader.State} {token : Token} {front : List Token} {error : ExprError}

/-- Only behind an operand closing parentheses can be all that is missing. -/
theorem due_of_closable (hwalk : Walks .initial front s) (h : Closable front) :
    ∃ operand, s.due = .connective operand := by
  obtain ⟨closers, hne, hclosers, hexpression⟩ := h
  obtain ⟨e, he, hdepth⟩ := isExpression_iff.mp hexpression
  obtain ⟨s', hall, -⟩ :=
    Reader.exists_walks he [] [] (by rwa [List.length_nil, Nat.zero_add])
  -- the walk over the whole expression passes through the state, and goes on with a closer
  obtain ⟨s₁, hfront, hback⟩ := hall.split
  obtain rfl := hwalk.unique hfront
  cases hback with
  | nil => exact absurd rfl hne
  | cons hmove _ => exact hmove.due_of_rightParen (hclosers _ (List.mem_cons_self ..))

/-- Behind an operand they are, if a parenthesis waits. -/
theorem closable_of_due {operand : Operand} (hwalk : Walks .initial front s)
    (hdue : s.due = .connective operand) (henclosing : s.enclosing ≠ []) : Closable front := by
  obtain ⟨enclosing, before, due⟩ := s
  obtain rfl : due = .connective operand := hdue
  obtain ⟨closers, before', operand', hlength, hclosers, hback⟩ :=
    Reader.exists_walks_closers enclosing before operand
  -- there are as many closers as parentheses that wait, and one at least waits
  refine ⟨closers, ?_, hclosers, ((hwalk.append hback).isExpression rfl rfl).1⟩
  rintro rfl
  exact henclosing (List.length_eq_zero_iff.mp hlength.symm)

/-- The end of the input is blamed on the innermost open parenthesis if closing it and the others
is all that is missing. -/
theorem closable_cases_of_refuses (hwalk : Walks .initial front s)
    (h : Reader.Refuses s token error) (hend : token.kind = .endOfInput) :
    (Closable front ∧ ∃ opening outer, openParens front = opening :: outer
        ∧ error = .unclosedParenthesis opening.position)
      ∨ (¬ Closable front ∧ error = .unexpectedEndOfInput token.position) := by
  obtain ⟨-, hopenings, -⟩ := hwalk.of_initial
  -- in the middle of an operand more than closing parentheses is missing
  have hdue : (∀ operand, s.due ≠ .connective operand) → ¬ Closable front := by
    intro hs hclosable
    obtain ⟨operand, hoperand⟩ := due_of_closable hwalk hclosable
    exact hs operand hoperand
  cases h with
  | tooDeep hkind _ =>
    rw [hend] at hkind
    cases hkind
  | noOperand _ => exact Or.inr ⟨hdue (by simp), ExprError.unexpected_of_eq hend⟩
  | noComparison => exact Or.inr ⟨hdue (by simp), ExprError.unexpected_of_eq hend⟩
  | outOfReach hkind _ =>
    rw [hend] at hkind
    cases hkind
  | noLiteral _ => exact Or.inr ⟨hdue (by simp), ExprError.unexpected_of_eq hend⟩
  | unclosed _ =>
    exact Or.inl ⟨closable_of_due hwalk rfl (by simp), _, _, hopenings.symm, rfl⟩
  | noConnective hkind => exact absurd hend hkind

end End

/-! ## Refusal -/

namespace Cursor

section Refusal

open Reader (Walks)

variable {cursor : Cursor} {s : Reader.State} {token : Token} {front rest : List Token}
  {error : ExprError}

/-- Reading stops at the token that the machine refuses. -/
theorem refusedAt_of_refused (hremaining : cursor.remaining = front ++ token :: rest)
    (hwalk : Walks .initial front s) (hstep : Reader.step s token = .error error) :
    cursor.RefusedAt (cursor.index + front.length) error := by
  -- the token at that index, and the tokens up to it and with it
  have htoken : ∀ other, cursor.tokens[cursor.index + front.length]? = some other →
      token = other := by
    intro other hother
    rw [getElem?_of_remaining hremaining] at hother
    exact Option.some.inj hother
  have hupTo := upTo_of_remaining hremaining
  have hsucc : cursor.upTo (cursor.index + front.length + 1) = front ++ [token] := by
    have hsplit : cursor.remaining = (front ++ [token]) ++ rest := by
      rw [hremaining, List.append_assoc, List.singleton_append]
    have hall := upTo_of_remaining hsplit
    rwa [List.length_append, List.length_singleton] at hall
  have hrefuses := Reader.refuses_of_step hstep
  constructor
  · exact Nat.le_add_right _ _
  · exact read_of_refused hremaining hwalk hstep
  · rw [hupTo]
    exact hwalk.viable
  · intro other hother hkind
    obtain rfl := htoken other hother
    rw [hsucc, hupTo]
    exact ⟨not_viable_of_refused hwalk hstep, eq_blame_of_refuses hwalk hrefuses hkind⟩
  · intro other hother hkind
    obtain rfl := htoken other hother
    rw [hupTo]
    rcases closable_cases_of_refuses hwalk hrefuses hkind with ⟨hclosable, h⟩ | ⟨hclosable, h⟩
    · exact ⟨fun _ => h, fun hnot => absurd hclosable hnot⟩
    · exact ⟨fun hyes => absurd hyes hclosable, fun _ => h⟩
  · intro hnone
    rw [getElem?_of_remaining hremaining] at hnone
    cases hnone
  · -- the other cursor has the same walk in front of it, and the step looks at no more
    intro _ _ other hother
    have hlength : cursor.index + front.length + 1 - cursor.index = front.length + 1 := by omega
    have hback : cursor.index + front.length - cursor.index = front.length := by omega
    rw [hsucc, hlength, upTo, Nat.add_sub_cancel_left] at hother
    have hsplit : other.remaining = front ++ token :: other.remaining.drop (front.length + 1) := by
      rw [← List.singleton_append, ← List.append_assoc, ← hother, List.take_append_drop]
    rw [hback]
    exact read_of_refused hsplit hwalk hstep

/-- Reading that runs out of tokens stops behind the last one. -/
theorem refusedAt_of_end (hremaining : cursor.remaining = front) (hwalk : Walks .initial front s)
    (hread : cursor.read = (.error (.unexpectedEndOfInput cursor.endPosition),
      cursor.moveTo (cursor.index + front.length))) :
    cursor.RefusedAt (cursor.index + front.length)
      (.unexpectedEndOfInput cursor.endPosition) := by
  have hnone : cursor.tokens[cursor.index + front.length]? = none := by
    rw [← hremaining, remaining, List.length_drop, List.getElem?_eq_none_iff]
    omega
  have hupTo : cursor.upTo (cursor.index + front.length) = front := by
    rw [upTo, Nat.add_sub_cancel_left, hremaining, List.take_length]
  constructor
  · exact Nat.le_add_right _ _
  · exact hread
  · rw [hupTo]
    exact hwalk.viable
  · intro other hother
    rw [hnone] at hother
    cases hother
  · intro other hother
    rw [hnone] at hother
    cases hother
  · intro _
    unfold endPosition last?
    cases cursor.tokens.getLast? with
    | none => rfl
    | some last => rfl
  · intro other hother
    rw [hnone] at hother
    cases hother

end Refusal

/-- The correct prefix property. Reading that fails stops at the first token that cannot go on,
with the complaint that belongs there, whatever comes behind it. -/
theorem refusedAt_of_read (cursor : Cursor) (error : ExprError) (h : cursor.read.1 = .error error) :
    ∃ k, cursor.RefusedAt k error := by
  obtain ⟨front, s, hwalk, ⟨hremaining, hread⟩ | ⟨token, rest, hremaining, hstop⟩⟩ :=
    cursor.read_cases
  · rw [hread] at h
    obtain rfl := Except.error.inj h
    exact ⟨_, refusedAt_of_end hremaining hwalk hread⟩
  · rcases hstop with ⟨e, -, hread⟩ | ⟨error', hstep, hread⟩
    · rw [hread] at h
      cases h
    · rw [hread] at h
      obtain rfl : error' = error := Except.error.inj h
      exact ⟨_, refusedAt_of_refused hremaining hwalk hstep⟩

/-- A cursor behind a stray parenthesis, in front of one that is not closed. -/
theorem refusedAt_unclosed :
    let cursor : Cursor := ⟨[⟨.rightParen, ")", ⟨1, 1⟩⟩, ⟨.leftParen, "(", ⟨1, 2⟩⟩,
      ⟨.identifier, "a", ⟨1, 3⟩⟩, ⟨.equals, "=", ⟨1, 4⟩⟩, ⟨.string, "'b'", ⟨1, 5⟩⟩,
      ⟨.endOfInput, "", ⟨1, 8⟩⟩], 1⟩
    cursor.read.1 = .error (.unclosedParenthesis ⟨1, 2⟩)
      ∧ ∃ k, cursor.RefusedAt k (.unclosedParenthesis ⟨1, 2⟩) :=
  ⟨rfl, refusedAt_of_read _ _ rfl⟩

end Cursor

end RecordFilter
