import RecordFilter.Proofs.Expr.Grammar

/-!
# The reader as a machine

The reader looks at one token at a time. This module says once what a token can do to it, and
derives from that what whole rows of tokens do:

* `Moves` lists everything that a token can do to a state, so that no later proof takes a step
  apart; `Walks` is a row of such moves, and a run walks as far as it can (`run_cases`);
* the tokens of a tree walk the reader over that tree (`exists_walks`);
* what a state holds is spelled by the tokens that led to it (`State.SpelledBy`), and the
  parentheses that wait in it are those that the tokens leave open. Every move keeps both.
-/

namespace RecordFilter
namespace Reader

/-! ## Moves -/

/-- Everything that a token can do to a state, short of ending the run. -/
inductive Moves : State → Token → State → Prop where
  | opening {enclosing : List Enclosure} {before : List Joined} {token : Token}
    (hkind : token.kind = .leftParen) (hdepth : enclosing.length < maxNesting) :
    Moves ⟨enclosing, before, .operand⟩ token ⟨⟨token, before⟩ :: enclosing, [], .operand⟩
  | identifier {enclosing : List Enclosure} {before : List Joined} {token : Token}
    (hkind : token.kind = .identifier) :
    Moves ⟨enclosing, before, .operand⟩ token ⟨enclosing, before, .comparison token⟩
  | comparison {enclosing : List Enclosure} {before : List Joined} {token identifier : Token}
    {item : Comparison} (hitem : Comparison.ofKind? token.kind = some item) :
    Moves ⟨enclosing, before, .comparison identifier⟩ token
      ⟨enclosing, before, .literal identifier ⟨item, token⟩⟩
  | literal {enclosing : List Enclosure} {before : List Joined} {token identifier : Token}
    {comparison : Sourced Comparison} {value : Value} (hvalue : literalValue token = .ok value) :
    Moves ⟨enclosing, before, .literal identifier comparison⟩ token
      ⟨enclosing, before,
        .connective (.leaf ⟨identifier.literal, identifier, comparison, ⟨value, token⟩⟩)⟩
  | connective {enclosing : List Enclosure} {before : List Joined} {token : Token}
    {operand : Operand} {item : Connective} (hitem : Connective.ofKind? token.kind = some item) :
    Moves ⟨enclosing, before, .connective operand⟩ token
      ⟨enclosing, (operand, ⟨item, token⟩) :: before, .operand⟩
  | closing {enclosure : Enclosure} {outer : List Enclosure} {before : List Joined}
    {token : Token} {operand : Operand} (hkind : token.kind = .rightParen) :
    Moves ⟨enclosure :: outer, before, .connective operand⟩ token
      ⟨outer, enclosure.before, .connective (.group (close before operand))⟩

/-- The machine makes every move. -/
theorem step_of_moves {s s' : State} {token : Token} (h : Moves s token s') :
    step s token = .ok (.next s') := by
  cases h with
  | opening hkind hdepth => simp only [step, stepOperand, hkind, if_pos hdepth]
  | identifier hkind => simp only [step, stepOperand, hkind]
  | comparison hitem => simp only [step, stepComparison, hitem]
  | literal hvalue => simp only [step, stepLiteral, hvalue]
  | connective hitem => simp only [step, stepConnective, hitem]
  | closing hkind => simp only [step, stepConnective, hkind, Connective.ofKind?]

/-- It makes no other step that does not end the run. -/
theorem moves_of_step {s s' : State} {token : Token} (h : step s token = .ok (.next s')) :
    Moves s token s' := by
  obtain ⟨enclosing, before, due⟩ := s
  cases due with
  | operand =>
    simp only [step, stepOperand] at h
    split at h
    · next hkind =>
      split at h
      · next hdepth =>
        cases h
        exact .opening hkind hdepth
      · cases h
    · next hkind =>
      cases h
      exact .identifier hkind
    · cases h
  | comparison identifier =>
    simp only [step, stepComparison] at h
    split at h
    · next item hitem =>
      cases h
      exact .comparison hitem
    · cases h
  | literal identifier comparison =>
    simp only [step, stepLiteral] at h
    split at h
    · next value hvalue =>
      cases h
      exact .literal hvalue
    · cases h
  -- behind an operand a connective comes first, then parentheses and the end of the input
  | connective operand =>
    simp only [step, stepConnective] at h
    split at h
    · next item hitem =>
      cases h
      exact .connective hitem
    · split at h
      · cases h
      · next hkind =>
        cases h
        exact .closing hkind
      · cases h
      · cases h

/-- A run ends well in front of the end of the input, behind an operand of the outermost chain. -/
theorem step_eq_finished_iff {s : State} {token : Token} {e : Expr} :
    step s token = .ok (.finished e) ↔
      s.enclosing = [] ∧ token.kind = .endOfInput
        ∧ ∃ operand, s.due = .connective operand ∧ e = close s.before operand := by
  obtain ⟨enclosing, before, due⟩ := s
  constructor
  · intro h
    cases due with
    | operand =>
      simp only [step, stepOperand] at h
      split at h
      · split at h <;> cases h
      · cases h
      · cases h
    | comparison identifier =>
      simp only [step, stepComparison] at h
      split at h <;> cases h
    | literal identifier comparison =>
      simp only [step, stepLiteral] at h
      split at h <;> cases h
    | connective operand =>
      simp only [step, stepConnective] at h
      split at h
      · cases h
      · split at h
        · next hkind =>
          cases h
          exact ⟨rfl, hkind, operand, rfl, rfl⟩
        · cases h
        · cases h
        · cases h
  · rintro ⟨henclosing, hkind, operand, hdue, rfl⟩
    obtain rfl : enclosing = [] := henclosing
    obtain rfl : due = .connective operand := hdue
    simp only [step, stepConnective, hkind, Connective.ofKind?]

/-- Everything that a run can end badly on, and what it complains about. -/
inductive Refuses : State → Token → ExprError → Prop where
  | tooDeep {enclosing : List Enclosure} {before : List Joined} {token : Token}
    (hkind : token.kind = .leftParen) (hdepth : maxNesting ≤ enclosing.length) :
    Refuses ⟨enclosing, before, .operand⟩ token (.nestingTooDeep maxNesting token.position)
  | noOperand {enclosing : List Enclosure} {before : List Joined} {token : Token}
    (hopening : token.kind ≠ .leftParen) :
    Refuses ⟨enclosing, before, .operand⟩ token (.unexpected token)
  | noComparison {enclosing : List Enclosure} {before : List Joined} {token identifier : Token} :
    Refuses ⟨enclosing, before, .comparison identifier⟩ token (.unexpected token)
  | outOfReach {enclosing : List Enclosure} {before : List Joined} {token identifier : Token}
    {comparison : Sourced Comparison} (hkind : token.kind = .number)
    (hvalue : Binary64.ofText? token.literal.toList = none) :
    Refuses ⟨enclosing, before, .literal identifier comparison⟩ token
      (.invalidNumber token.literal token.position)
  | noLiteral {enclosing : List Enclosure} {before : List Joined} {token identifier : Token}
    {comparison : Sourced Comparison} (hkind : token.kind ≠ .number) :
    Refuses ⟨enclosing, before, .literal identifier comparison⟩ token (.unexpected token)
  | unclosed {enclosure : Enclosure} {outer : List Enclosure} {before : List Joined}
    {token : Token} {operand : Operand} (hkind : token.kind = .endOfInput) :
    Refuses ⟨enclosure :: outer, before, .connective operand⟩ token
      (.unclosedParenthesis enclosure.opening.position)
  | noConnective {enclosing : List Enclosure} {before : List Joined} {token : Token}
    {operand : Operand} (hkind : token.kind ≠ .endOfInput) :
    Refuses ⟨enclosing, before, .connective operand⟩ token (.unexpected token)

/-- A token without a value is refused as a literal. -/
theorem refuses_of_literalValue {token identifier : Token} {enclosing : List Enclosure}
    {before : List Joined} {comparison : Sourced Comparison} {error : ExprError}
    (h : literalValue token = .error error) :
    Refuses ⟨enclosing, before, .literal identifier comparison⟩ token error := by
  unfold literalValue at h
  split at h
  · cases h
  · next hkind =>
    split at h
    · cases h
    · next hvalue =>
      cases h
      exact .outOfReach hkind hvalue
  · next hnumber =>
    cases h
    exact .noLiteral hnumber

/-- Whatever a run ends badly on is on the list. -/
theorem refuses_of_step {s : State} {token : Token} {error : ExprError}
    (h : step s token = .error error) : Refuses s token error := by
  obtain ⟨enclosing, before, due⟩ := s
  cases due with
  | operand =>
    simp only [step, stepOperand] at h
    split at h
    · next hkind =>
      split at h
      · cases h
      · next hdepth =>
        cases h
        exact .tooDeep hkind (Nat.le_of_not_lt hdepth)
    · cases h
    · next hopening _ =>
      cases h
      exact .noOperand hopening
  | comparison identifier =>
    simp only [step, stepComparison] at h
    split at h
    · cases h
    · cases h
      exact .noComparison
  | literal identifier comparison =>
    simp only [step, stepLiteral] at h
    split at h
    · cases h
    · next error' hvalue =>
      cases h
      exact refuses_of_literalValue hvalue
  | connective operand =>
    simp only [step, stepConnective] at h
    split at h
    · cases h
    · split at h
      · cases h
      · cases h
      · next hkind =>
        cases h
        exact .unclosed hkind
      · next waiting _ _ hfinished _ hunclosed =>
        cases h
        refine .noConnective fun hkind => ?_
        -- at the end of the input either nothing waits, or the innermost parenthesis does
        cases waiting with
        | nil => exact hfinished rfl hkind
        | cons enclosure outer => exact hunclosed enclosure outer rfl hkind

/-- The state that a token leads to is determined. -/
theorem Moves.unique {s s₁ s₂ : State} {token : Token} (h₁ : Moves s token s₁)
    (h₂ : Moves s token s₂) : s₁ = s₂ := by
  have hstep := (step_of_moves h₁).symm.trans (step_of_moves h₂)
  exact Step.next.inj (Except.ok.inj hstep)

/-! ## Walks -/

/-- A row of tokens that leads from one state to another. -/
inductive Walks : State → List Token → State → Prop where
  | nil (s : State) : Walks s [] s
  | cons {s s₁ s₂ : State} {token : Token} {rest : List Token} (hmove : Moves s token s₁)
    (hrest : Walks s₁ rest s₂) : Walks s (token :: rest) s₂

namespace Walks

variable {s s₁ s₂ : State} {token : Token} {front back rest : List Token}

theorem single (h : Moves s token s₁) : Walks s [token] s₁ := .cons h (.nil s₁)

/-- Two walks one behind the other. -/
theorem append (h₁ : Walks s front s₁) (h₂ : Walks s₁ back s₂) : Walks s (front ++ back) s₂ := by
  induction h₁ with
  | nil => exact h₂
  | cons hmove _ ih => exact .cons hmove (ih h₂)

/-- A walk can be cut anywhere. -/
theorem split (h : Walks s (front ++ back) s₂) : ∃ s₁, Walks s front s₁ ∧ Walks s₁ back s₂ := by
  induction front generalizing s with
  | nil => exact ⟨s, .nil s, h⟩
  | cons token front ih =>
    cases h with
    | cons hmove hrest =>
      obtain ⟨s₁, hfront, hback⟩ := ih hrest
      exact ⟨s₁, .cons hmove hfront, hback⟩

/-- A row of tokens walks the machine to one state only. -/
theorem unique (h₁ : Walks s front s₁) (h₂ : Walks s front s₂) : s₁ = s₂ := by
  induction h₁ with
  | nil =>
    cases h₂
    rfl
  | cons hmove _ ih =>
    cases h₂ with
    | cons hmove' hrest' =>
      obtain rfl := hmove.unique hmove'
      exact ih hrest'

/-- Tokens that walk the machine are read without further ado. -/
theorem run (h : Walks s front s₁) (atEnd : Position) (rest : List Token) :
    Reader.run atEnd s (front ++ rest) = Reader.run atEnd s₁ rest := by
  induction h with
  | nil => rfl
  | cons hmove _ ih =>
    rw [List.cons_append, Reader.run, step_of_moves hmove]
    exact ih

end Walks

/-- A run walks as far as it can. Then there is no token left, or the next one completes the
expression or cannot stand there. -/
theorem run_cases (atEnd : Position) (s : State) (tokens : List Token) :
    ∃ front s', Walks s front s' ∧
      ((tokens = front ∧ run atEnd s tokens = ⟨.error (.unexpectedEndOfInput atEnd), []⟩)
        ∨ ∃ token rest, tokens = front ++ token :: rest ∧
          ((∃ e, step s' token = .ok (.finished e) ∧ run atEnd s tokens = ⟨.ok e, token :: rest⟩)
            ∨ ∃ error, step s' token = .error error
              ∧ run atEnd s tokens = ⟨.error error, token :: rest⟩)) := by
  induction tokens generalizing s with
  | nil => exact ⟨[], s, .nil s, Or.inl ⟨rfl, rfl⟩⟩
  | cons token rest ih =>
    rcases hstep : step s token with error | (s₁ | e)
    · refine ⟨[], s, .nil s, Or.inr ⟨token, rest, rfl, Or.inr ⟨error, hstep, ?_⟩⟩⟩
      rw [run, hstep]
    -- only here does the run go on, from the state that the token leads to
    · have hmove := moves_of_step hstep
      have hrun : run atEnd s (token :: rest) = run atEnd s₁ rest := (Walks.single hmove).run ..
      obtain ⟨front, s', hwalk, hend⟩ := ih s₁
      refine ⟨token :: front, s', .cons hmove hwalk, ?_⟩
      rw [hrun]
      rcases hend with ⟨rfl, hend⟩ | ⟨next, others, rfl, hend⟩
      · exact Or.inl ⟨rfl, hend⟩
      · exact Or.inr ⟨next, others, rfl, hend⟩
    · refine ⟨[], s, .nil s, Or.inr ⟨token, rest, rfl, Or.inl ⟨e, hstep, ?_⟩⟩⟩
      rw [run, hstep]

/-! ## The tokens of a tree walk over it -/

/-- A chain in front of which joined operands stand, the latest first. -/
def joinAll (before : List Joined) (e : Expr) : Expr :=
  before.foldl (fun rest joined => .join joined.1 joined.2 rest) e

theorem close_eq_joinAll (before : List Joined) (last : Operand) :
    close before last = joinAll before (.single last) := rfl

/-- The state that the reader is in behind a tree. Behind a chain it has the last operand in hand
and the others with what stood before. -/
def Behind (enclosing : List Enclosure) (before : List Joined) :
    {l : Level} → Tree (Sourced Connective) Condition l → State → Prop
  | .operand, operand, s => s = ⟨enclosing, before, .connective operand⟩
  | .chain, e, s => ∃ before' last, s = ⟨enclosing, before', .connective last⟩
    ∧ close before' last = joinAll before e

/-- The literal of a condition is the value of its token. -/
theorem literalValue_of_faithful {c : Condition} (h : c.Faithful) :
    literalValue c.literal.token = .ok c.literal.item := by
  rcases h.literal with ⟨hkind, hvalue⟩ | ⟨hkind, value, htext, hvalue⟩
  · simp only [literalValue, hkind]
    exact congrArg _ hvalue.symm
  · simp only [literalValue, hkind, htext]
    exact congrArg _ hvalue.symm

/-- The three tokens of a condition. -/
theorem walks_condition {c : Condition} (h : c.Faithful) (enclosing : List Enclosure)
    (before : List Joined) :
    Walks ⟨enclosing, before, .operand⟩ c.tokens ⟨enclosing, before, .connective (.leaf c)⟩ := by
  have hvalue := literalValue_of_faithful h
  obtain ⟨hkind, hname, hitem, -⟩ := h
  obtain ⟨name, identifier, ⟨item, comparison⟩, ⟨value, literal⟩⟩ := c
  obtain rfl : name = identifier.literal := hname
  exact .cons (.identifier hkind) (.cons (.comparison hitem) (.single (.literal hvalue)))

/-- The tokens of a tree lead the reader behind the tree, if it is not nested too deep there. -/
theorem exists_walks {l : Level} {t : Tree (Sourced Connective) Condition l} {tokens : List Token}
    (h : t.SpelledBy tokens) (enclosing : List Enclosure) (before : List Joined)
    (hdepth : enclosing.length + t.depth ≤ maxNesting) :
    ∃ s, Walks ⟨enclosing, before, .operand⟩ tokens s ∧ Behind enclosing before t s := by
  -- on the tree: a group is walked inside its own parenthesis with nothing before it, the rest of
  -- a chain behind the operand that it is joined to
  induction t generalizing tokens enclosing before with
  | leaf c =>
    obtain ⟨rfl, hc⟩ := Tree.spelledBy_leaf_iff.mp h
    exact ⟨_, walks_condition hc enclosing before, rfl⟩
  | group inner ih =>
    obtain ⟨opening, within, closing, rfl, hopening, hclosing, hinner⟩ :=
      Tree.spelledBy_group_iff.mp h
    -- one level of nesting pays for the parenthesis
    simp only [Tree.depth] at hdepth
    obtain ⟨s, hwalk, before', last, rfl, hclose⟩ :=
      ih hinner (⟨opening, before⟩ :: enclosing) [] (by rw [List.length_cons]; omega)
    have hgroup : close before' last = inner := hclose
    have hroom : enclosing.length < maxNesting := by omega
    refine ⟨_, .cons (.opening hopening hroom) (hwalk.append (.single (.closing hclosing))), ?_⟩
    rw [hgroup]
    rfl
  | single operand ih =>
    obtain ⟨s, hwalk, rfl⟩ := ih (Tree.spelledBy_single_iff.mp h) enclosing before hdepth
    exact ⟨_, hwalk, before, operand, rfl, close_eq_joinAll before operand⟩
  | join operand joint rest ihOperand ihRest =>
    obtain ⟨front, back, rfl, hoperand, hjoint, hrest⟩ := Tree.spelledBy_join_iff.mp h
    simp only [Tree.depth] at hdepth
    obtain ⟨s, hfront, rfl⟩ := ihOperand hoperand enclosing before (by omega)
    obtain ⟨s', hback, before', last, rfl, hclose⟩ :=
      ihRest hrest enclosing ((operand, joint) :: before) (by omega)
    exact ⟨_, hfront.append (.cons (.connective hjoint) hback), before', last, rfl, hclose⟩

/-! ## What a state holds -/

/-- What stands before in a chain, the latest first, is spelled by these tokens. -/
inductive BeforeSpelledBy : List Joined → List Token → Prop where
  | nil : BeforeSpelledBy [] []
  | cons {before : List Joined} {operand : Operand} {joint : Sourced Connective}
    {front tokens : List Token} (hbefore : BeforeSpelledBy before front)
    (hoperand : operand.SpelledBy tokens) (hjoint : joint.Faithful) :
    BeforeSpelledBy ((operand, joint) :: before) (front ++ (tokens ++ [joint.token]))

/-- The chains that wait, innermost first, are spelled by these tokens. -/
inductive EnclosingSpelledBy : List Enclosure → List Token → Prop where
  | nil : EnclosingSpelledBy [] []
  | cons {outer : List Enclosure} {enclosure : Enclosure} {front tokens : List Token}
    (houter : EnclosingSpelledBy outer front) (hbefore : BeforeSpelledBy enclosure.before tokens)
    (hopening : enclosure.opening.kind = .leftParen) :
    EnclosingSpelledBy (enclosure :: outer) (front ++ (tokens ++ [enclosure.opening]))

/-- What has been read of the operand in hand is spelled by these tokens. -/
def Due.SpelledBy : Due → List Token → Prop
  | .operand, tokens => tokens = []
  | .comparison identifier, tokens => identifier.kind = .identifier ∧ tokens = [identifier]
  | .literal identifier operator, tokens => identifier.kind = .identifier
    ∧ Comparison.ofKind? operator.token.kind = some operator.item
    ∧ tokens = [identifier, operator.token]
  | .connective last, tokens => last.SpelledBy tokens

/-- What a state holds is spelled by these tokens. -/
def State.SpelledBy (s : State) (tokens : List Token) : Prop :=
  ∃ outer before operand, tokens = outer ++ (before ++ operand)
    ∧ EnclosingSpelledBy s.enclosing outer ∧ BeforeSpelledBy s.before before
    ∧ s.due.SpelledBy operand

theorem State.initial_spelledBy : State.initial.SpelledBy [] :=
  ⟨[], [], [], rfl, .nil, .nil, rfl⟩

/-- Closing a chain joins what stands before to what is in hand. -/
theorem BeforeSpelledBy.joinAll {before : List Joined} {front : List Token}
    (hbefore : BeforeSpelledBy before front) : ∀ {e : Expr} {tokens : List Token},
      e.SpelledBy tokens → (Reader.joinAll before e).SpelledBy (front ++ tokens) := by
  induction hbefore with
  | nil => exact fun h => h
  | @cons before operand joint front middle _ hoperand hjoint ih =>
    -- the latest operand is joined first, and the longer chain goes on with the others
    intro e tokens h
    have hjoin : Tree.SpelledBy (.join operand joint e) (middle ++ joint.token :: tokens) :=
      Tree.spelledBy_join_iff.mpr ⟨middle, tokens, rfl, hoperand, hjoint, h⟩
    have hall := ih hjoin
    rwa [List.append_assoc, List.append_assoc, List.singleton_append]

/-- What stands before in a chain, with a last operand, spells the whole chain. -/
theorem BeforeSpelledBy.close {before : List Joined} {front tokens : List Token} {last : Operand}
    (hbefore : BeforeSpelledBy before front) (hlast : last.SpelledBy tokens) :
    (Reader.close before last).SpelledBy (front ++ tokens) :=
  hbefore.joinAll (Tree.spelledBy_single_iff.mpr hlast)

/-- A value is the text of its token, or the double that its numeral is nearest to. -/
theorem faithful_of_literalValue {token : Token} {value : Value}
    (h : literalValue token = .ok value) :
    (token.kind = .string ∧ value = .string token.literal)
      ∨ (token.kind = .number ∧ ∃ number,
          Binary64.ofText? token.literal.toList = some number ∧ value = .number number) := by
  unfold literalValue at h
  split at h
  · next hkind =>
    cases h
    exact Or.inl ⟨hkind, rfl⟩
  · next hkind =>
    split at h
    · next number hnumber =>
      cases h
      exact Or.inr ⟨hkind, number, hnumber, rfl⟩
    · cases h
  · cases h

/-- A move adds its token to what the state holds, and nothing else. -/
theorem Moves.spelledBy {s s' : State} {token : Token} {front : List Token}
    (h : Moves s token s') (hs : s.SpelledBy front) : s'.SpelledBy (front ++ [token]) := by
  obtain ⟨outer, before, operand, rfl, houter, hbefore, hdue⟩ := hs
  cases h with
  | opening hkind hdepth =>
    obtain rfl : operand = [] := hdue
    refine ⟨_, [], [], ?_, .cons houter hbefore hkind, .nil, rfl⟩
    simp only [List.append_assoc, List.append_nil]
  | identifier hkind =>
    obtain rfl : operand = [] := hdue
    refine ⟨outer, before, [token], ?_, houter, hbefore, hkind, rfl⟩
    simp only [List.append_assoc, List.nil_append]
  | comparison hitem =>
    obtain ⟨hkind, rfl⟩ := hdue
    refine ⟨outer, before, _, ?_, houter, hbefore, hkind, hitem, rfl⟩
    simp only [List.append_assoc, List.cons_append, List.nil_append]
  | literal hvalue =>
    obtain ⟨hkind, hitem, rfl⟩ := hdue
    refine ⟨outer, before, _, ?_, houter, hbefore,
      Tree.spelledBy_leaf_iff.mpr ⟨rfl, hkind, rfl, hitem, faithful_of_literalValue hvalue⟩⟩
    simp only [Condition.tokens, List.append_assoc, List.cons_append, List.nil_append]
  | connective hitem =>
    refine ⟨outer, _, [], ?_, houter, .cons hbefore hdue hitem, rfl⟩
    simp only [List.append_assoc, List.append_nil]
  | closing hkind =>
    -- the chain that waited gets the group as its operand; its tokens were kept with the opening
    cases houter with
    | @cons _ _ outer' within houter' hbefore' hopening =>
      refine ⟨outer', within, _, ?_, houter', hbefore',
        Tree.spelledBy_group_iff.mpr ⟨_, _, token, rfl, hopening, hkind, hbefore.close hdue⟩⟩
      simp only [List.append_assoc, List.cons_append, List.nil_append]

/-- What is held behind a row of tokens is what was held before, and the tokens. -/
theorem Walks.spelledBy {s s' : State} {front tokens : List Token} (h : Walks s tokens s')
    (hs : s.SpelledBy front) : s'.SpelledBy (front ++ tokens) := by
  induction h generalizing front with
  | nil => rwa [List.append_nil]
  | @cons _ _ _ token rest hmove _ ih =>
    have hrest := ih (hmove.spelledBy hs)
    rwa [List.append_assoc, List.singleton_append] at hrest

/-! ## The parentheses that wait -/

/-- The parentheses that wait in a state, innermost first. -/
def State.openings (s : State) : List Token :=
  s.enclosing.map Enclosure.opening

/-- As many parentheses wait as there are chains that wait. -/
theorem State.length_openings (s : State) : s.openings.length = s.enclosing.length :=
  List.length_map ..

/-- A token moves the parentheses that wait as it moves those that are open. -/
theorem Moves.openings {s s' : State} {token : Token} (h : Moves s token s') :
    s'.openings = openAfter s.openings token := by
  cases h with
  | opening hkind hdepth =>
    rw [openAfter_of_leftParen _ hkind]
    rfl
  | identifier hkind =>
    rw [openAfter_of_noParen _ (by rw [hkind]; decide) (by rw [hkind]; decide)]
    rfl
  | comparison hitem =>
    obtain ⟨hleft, hright⟩ :=
      noParen_of_mem_comparisonKinds (Comparison.exists_ofKind?_iff.mp ⟨_, hitem⟩)
    rw [openAfter_of_noParen _ hleft hright]
    rfl
  | literal hvalue =>
    have hkind : token.kind ≠ .leftParen ∧ token.kind ≠ .rightParen := by
      rcases faithful_of_literalValue hvalue with ⟨hk, -⟩ | ⟨hk, -⟩ <;> rw [hk] <;> decide
    rw [openAfter_of_noParen _ hkind.1 hkind.2]
    rfl
  | connective hitem =>
    have hkind : token.kind ≠ .leftParen ∧ token.kind ≠ .rightParen := by
      rcases Connective.exists_ofKind?_iff.mp ⟨_, hitem⟩ with hk | hk <;> rw [hk] <;> decide
    rw [openAfter_of_noParen _ hkind.1 hkind.2]
    rfl
  | closing hkind =>
    rw [openAfter_of_rightParen _ hkind]
    rfl

/-- The parentheses that wait are those that the tokens leave open. -/
theorem Walks.openings {s s' : State} {tokens : List Token} (h : Walks s tokens s') :
    s'.openings = tokens.foldl openAfter s.openings := by
  induction h with
  | nil => rfl
  | cons hmove _ ih => rw [ih, hmove.openings, List.foldl_cons]

/-- No move nests chains too deep. -/
theorem Moves.nested {s s' : State} {token : Token} (h : Moves s token s')
    (hs : s.enclosing.length ≤ maxNesting) : s'.enclosing.length ≤ maxNesting := by
  cases h with
  | opening hkind hdepth => exact hdepth
  | closing hkind => exact Nat.le_of_succ_le hs
  | _ => exact hs

/-- No state on the way waits for more parentheses than there may be. -/
theorem Walks.nested {s s' : State} {tokens : List Token} (h : Walks s tokens s')
    (hs : s.enclosing.length ≤ maxNesting) : deepest s.openings tokens ≤ maxNesting := by
  induction h with
  | nil s =>
    rw [deepest, s.length_openings]
    exact hs
  | @cons s _ _ token rest hmove _ ih =>
    -- the bound holds in the state at hand and, by induction, in all that follow
    rw [deepest, s.length_openings, ← hmove.openings]
    exact Nat.max_le.mpr ⟨hs, ih (hmove.nested hs)⟩

/-- So no walk does, by induction. -/
theorem Walks.length_enclosing {s s' : State} {tokens : List Token} (h : Walks s tokens s')
    (hs : s.enclosing.length ≤ maxNesting) : s'.enclosing.length ≤ maxNesting := by
  induction h with
  | nil => exact hs
  | cons hmove _ ih => exact ih (hmove.nested hs)

/-- What the reader holds behind tokens that it has read from the start. -/
theorem Walks.of_initial {s : State} {tokens : List Token} (h : Walks .initial tokens s) :
    s.SpelledBy tokens ∧ s.openings = openParens tokens ∧ deepest [] tokens ≤ maxNesting :=
  ⟨h.spelledBy State.initial_spelledBy, h.openings, h.nested (Nat.zero_le _)⟩

/-- The last chain of a state is spelled by all of its tokens, if none waits for it. -/
theorem State.SpelledBy.close {s : State} {tokens : List Token} {last : Operand}
    (h : s.SpelledBy tokens) (henclosing : s.enclosing = []) (hdue : s.due = .connective last) :
    (Reader.close s.before last).SpelledBy tokens := by
  obtain ⟨outer, before, operand, rfl, houter, hbefore, hoperand⟩ := h
  rw [henclosing] at houter
  rw [hdue] at hoperand
  cases houter with
  | nil => exact hbefore.close hoperand

/-- Behind an operand of the outermost chain, what has been read is an expression. -/
theorem Walks.isExpression {s : State} {tokens : List Token} {last : Operand}
    (h : Walks .initial tokens s) (henclosing : s.enclosing = [])
    (hdue : s.due = .connective last) :
    IsExpression tokens ∧ (Reader.close s.before last).SpelledBy tokens := by
  obtain ⟨hs, -, hnested⟩ := h.of_initial
  have hspelled := hs.close henclosing hdue
  exact ⟨⟨hspelled.derives, hnested, hspelled.finite⟩, hspelled⟩

end Reader
end RecordFilter
