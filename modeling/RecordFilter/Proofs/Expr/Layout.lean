import RecordFilter.Expr.Reader
import RecordFilter.Proofs.Expr.Shape
import RecordFilter.Proofs.Token.Scan

/-!
# Reading the same tokens twice

Two rows of tokens are *alike* if they agree in kind and, but for connectives, in their texts;
where the tokens stand may differ. The reader is run on both, and the two runs are kept in
relation: their states hold the same but for places and the spelling of connectives, and the
parentheses that wait in them are tokens of the same index (`State.Alike`). A step keeps the
relation (`step_alike`), so that the runs end alike (`run_alike`): with expressions that are the
same but for that, or with complaints of the same form about tokens of the same index.
-/

namespace RecordFilter

/-- Tokens that agree in kind and in their texts, unless they are connectives. -/
structure Token.Alike (a b : Token) : Prop where
  kind : b.kind = a.kind
  literal : a.kind ≠ .and → a.kind ≠ .or → b.literal = a.literal

instance (a b : Token) : Decidable (a.Alike b) :=
  decidable_of_iff (b.kind = a.kind ∧ (a.kind ≠ .and → a.kind ≠ .or → b.literal = a.literal))
    ⟨fun h => ⟨h.1, h.2⟩, fun h => ⟨h.kind, h.literal⟩⟩

/-- Tokens that are alike and no connectives have the same text, and are the same but for where
they stand. -/
theorem Token.Alike.eq_of_kind {a b : Token} {kind : TokenKind} (h : a.Alike b)
    (hkind : a.kind = kind) (hand : kind ≠ .and) (hor : kind ≠ .or) :
    b.literal = a.literal ∧ b.unplaced = a.unplaced := by
  subst hkind
  have hliteral := h.literal hand hor
  exact ⟨hliteral, by rw [unplaced, unplaced, h.kind, hliteral]⟩

/-- Two complaints of the same form about two tokens. -/
inductive SameComplaint (a b : Token) : ExprError → ExprError → Prop where
  | unexpected : SameComplaint a b (.unexpectedToken a none) (.unexpectedToken b none)
  | ended : SameComplaint a b (.unexpectedEndOfInput a.position) (.unexpectedEndOfInput b.position)
  | unclosed : SameComplaint a b (.unclosedParenthesis a.position) (.unclosedParenthesis b.position)
  | tooDeep (limit : Nat) :
    SameComplaint a b (.nestingTooDeep limit a.position) (.nestingTooDeep limit b.position)
  | outOfReach (literal : String) :
    SameComplaint a b (.invalidNumber literal a.position) (.invalidNumber literal b.position)

/-- An operand without the places of its tokens and the spelling of its connectives. -/
def Operand.unplaced (operand : Operand) : Operand :=
  Tree.map Sourced.unspelled Condition.unplaced operand

theorem Expr.describe_unplaced (e : Expr) : e.unplaced.describe = e.describe :=
  Tree.render_map _ _ _ _ e

namespace Reader

/-- An operand with its connective, without places and the spelling of connectives. -/
def Joined.unplaced (joined : Joined) : Joined :=
  (Operand.unplaced joined.1, joined.2.unspelled)

theorem unplaced_close (before : List Joined) (last : Operand) :
    (close before last).unplaced
      = close (before.map Joined.unplaced) (Operand.unplaced last) := by
  have hfold (e : Expr) : Expr.unplaced
        (before.foldl (fun rest joined => .join joined.1 joined.2 rest) e)
      = (before.map Joined.unplaced).foldl (fun rest joined => .join joined.1 joined.2 rest)
          e.unplaced := by
    induction before generalizing e with
    | nil => rfl
    | cons joined before ih => exact ih (.join joined.1 joined.2 e)
  exact hfold (.single last)

section Alike

/-! ## States that are alike -/

variable (related : Token → Token → Prop)

/-- What is due is the same but for places and the spelling of connectives. -/
inductive Due.Alike : Due → Due → Prop where
  | operand : Due.Alike .operand .operand
  | comparison {identifier identifier' : Token} (h : identifier'.unplaced = identifier.unplaced) :
    Due.Alike (.comparison identifier) (.comparison identifier')
  | literal {identifier identifier' comparison comparison' : Token} (item : Comparison)
    (h : identifier'.unplaced = identifier.unplaced)
    (hcomparison : comparison'.unplaced = comparison.unplaced) :
    Due.Alike (.literal identifier ⟨item, comparison⟩) (.literal identifier' ⟨item, comparison'⟩)
  | connective {operand operand' : Operand}
    (h : Operand.unplaced operand' = Operand.unplaced operand) :
    Due.Alike (.connective operand) (.connective operand')

/-- Two parentheses that wait, with the same in front of them. -/
structure Enclosure.Alike (a b : Enclosure) : Prop where
  opening : related a.opening b.opening
  before : b.before.map Joined.unplaced = a.before.map Joined.unplaced

/-- States that hold the same but for places and the spelling of connectives. The parentheses that
wait in them are related. -/
structure State.Alike (s t : State) : Prop where
  enclosing : List.Forall₂ (Enclosure.Alike related) s.enclosing t.enclosing
  before : t.before.map Joined.unplaced = s.before.map Joined.unplaced
  due : Due.Alike s.due t.due

/-- Complaints of the same form about related tokens. -/
def Complaint (error error' : ExprError) : Prop :=
  ∃ a b, related a b ∧ SameComplaint a b error error'

/-- Steps that lead to states that are alike, to expressions that are, or to the same complaint. -/
inductive Step.Alike : Except ExprError Step → Except ExprError Step → Prop where
  | next {s t : State} (h : s.Alike related t) : Step.Alike (.ok (.next s)) (.ok (.next t))
  | finished {e e' : Expr} (h : e'.unplaced = e.unplaced) :
    Step.Alike (.ok (.finished e)) (.ok (.finished e'))
  | refused {error error' : ExprError} (h : Complaint related error error') :
    Step.Alike (.error error) (.error error')

variable {related} {a b : Token} {s t : State}

/-! ## One step -/

/-- A token that cannot stand where it stands. -/
theorem complaint_unexpected (hrelated : related a b) (h : a.Alike b) :
    Complaint related (.unexpected a) (.unexpected b) := by
  refine ⟨a, b, hrelated, ?_⟩
  unfold ExprError.unexpected
  rw [h.kind]
  split
  · exact .ended
  · exact .unexpected

theorem unplaced_close_eq {before before' : List Joined} {last last' : Operand}
    (hbefore : before'.map Joined.unplaced = before.map Joined.unplaced)
    (hlast : Operand.unplaced last' = Operand.unplaced last) :
    (close before' last').unplaced = (close before last).unplaced := by
  rw [unplaced_close, unplaced_close, hbefore, hlast]

/-- A literal has the same value twice, or none. -/
theorem literalValue_alike (hrelated : related a b) (h : a.Alike b) :
    (∃ value, literalValue a = .ok value ∧ literalValue b = .ok value
        ∧ b.unplaced = a.unplaced)
      ∨ ∃ error error', literalValue a = .error error ∧ literalValue b = .error error'
        ∧ Complaint related error error' := by
  unfold literalValue
  rw [h.kind]
  split
  · next hkind =>
    obtain ⟨hliteral, hunplaced⟩ := h.eq_of_kind hkind (by decide) (by decide)
    exact .inl ⟨_, rfl, by rw [hliteral], hunplaced⟩
  · next hkind =>
    obtain ⟨hliteral, hunplaced⟩ := h.eq_of_kind hkind (by decide) (by decide)
    rw [hliteral]
    split
    · exact .inl ⟨_, rfl, rfl, hunplaced⟩
    · exact .inr ⟨_, _, rfl, rfl, a, b, hrelated, .outOfReach _⟩
  · exact .inr ⟨_, _, rfl, rfl, complaint_unexpected hrelated h⟩

/-- A token does the same to states that are alike. -/
theorem step_alike (hs : s.Alike related t) (hrelated : related a b) (h : a.Alike b) :
    Step.Alike related (step s a) (step t b) := by
  obtain ⟨enclosing, before, due⟩ := s
  obtain ⟨enclosing', before', due'⟩ := t
  obtain ⟨henclosing, hbefore, hdue⟩ := hs
  have hunexpected : Step.Alike related (.error (.unexpected a)) (.error (.unexpected b)) :=
    .refused (complaint_unexpected hrelated h)
  cases hdue with
  | operand =>
    simp only [step, stepOperand, h.kind]
    split
    · next hkind =>
      rw [← henclosing.length_eq]
      split
      · exact .next ⟨.cons ⟨hrelated, hbefore⟩ henclosing, rfl, .operand⟩
      · exact .refused ⟨a, b, hrelated, .tooDeep _⟩
    · next hkind =>
      obtain ⟨-, hunplaced⟩ := h.eq_of_kind hkind (by decide) (by decide)
      exact .next ⟨henclosing, hbefore, .comparison hunplaced⟩
    · exact hunexpected
  | comparison hidentifier =>
    simp only [step, stepComparison, h.kind]
    split
    · next item hitem =>
      obtain ⟨-, hunplaced⟩ := h.eq_of_kind rfl (fun hkind => by rw [hkind] at hitem; cases hitem)
        (fun hkind => by rw [hkind] at hitem; cases hitem)
      exact .next ⟨henclosing, hbefore, .literal item hidentifier hunplaced⟩
    · exact hunexpected
  | @literal identifier identifier' _ _ item hidentifier hcomparison =>
    simp only [step, stepLiteral]
    rcases literalValue_alike hrelated h with
      ⟨value, ha, hb, hunplaced⟩ | ⟨error, error', ha, hb, hcomplaint⟩
    · rw [ha, hb]
      refine .next ⟨henclosing, hbefore, .connective ?_⟩
      have hname : identifier'.literal = identifier.literal := by
        show identifier'.unplaced.literal = identifier.unplaced.literal
        rw [hidentifier]
      simp only [Operand.unplaced, Tree.map, Condition.unplaced, Condition.operator,
        Condition.value, hname, hidentifier, hcomparison, hunplaced]
    · rw [ha, hb]
      exact .refused hcomplaint
  | connective hoperand =>
    simp only [step, stepConnective, h.kind]
    split
    · next item hitem =>
      refine .next ⟨henclosing, ?_, .operand⟩
      simp only [List.map_cons, hbefore, Joined.unplaced, hoperand, Sourced.unspelled, h.kind]
    -- a parenthesis closes the innermost chain that waits, the end of the input the outermost one
    · generalize a.kind = kind
      cases henclosing with
      | nil =>
        cases kind with
        | endOfInput => exact .finished (unplaced_close_eq hbefore hoperand)
        | _ => exact hunexpected
      | cons henclosure houter =>
        cases kind with
        | rightParen =>
          have hgroup := congrArg Tree.group (unplaced_close_eq hbefore hoperand)
          exact .next ⟨houter, henclosure.before, .connective hgroup⟩
        | endOfInput => exact .refused ⟨_, _, henclosure.opening, .unclosed⟩
        | _ => exact hunexpected

/-! ## Runs -/

/-- Runs that end with expressions that are the same but for places and the spelling of
connectives, or with the same complaint about related tokens. -/
inductive Result.Alike (related : Token → Token → Prop) :
    Except ExprError Expr → Except ExprError Expr → Prop where
  | read {e e' : Expr} (h : e'.unplaced = e.unplaced) : Result.Alike related (.ok e) (.ok e')
  | refused {error error' : ExprError} (h : Complaint related error error') :
    Result.Alike related (.error error) (.error error')

/-- Related tokens are read alike. -/
theorem run_alike (hrelated : ∀ a b, related a b → a.Alike b) {last last' : Token}
    (hlast : related last last') {tokens tokens' : List Token}
    (htokens : List.Forall₂ related tokens tokens') (hs : s.Alike related t) :
    Result.Alike related (run last.position s tokens).result
      (run last'.position t tokens').result := by
  induction htokens generalizing s t with
  | nil => exact .refused ⟨last, last', hlast, .ended⟩
  | @cons a b tokens tokens' hab _ ih =>
    have hstep := step_alike hs hab (hrelated a b hab)
    rw [run, run]
    generalize step s a = first at hstep
    generalize step t b = second at hstep
    cases hstep with
    | next hs => exact ih hs
    | finished he => exact .read he
    | refused hcomplaint => exact .refused hcomplaint

end Alike

end Reader

/-! ## Texts -/

/-- A text that has tokens is read by a run over those that are no blanks. -/
theorem Expr.exists_ofText_eq_run {text : String} {tokens : List Token}
    (h : tokenize text = .ok tokens) :
    ∃ others last, withoutWhitespace tokens = others ++ [last] ∧
      Expr.ofText text
        = (Reader.run last.position .initial (withoutWhitespace tokens)).result := by
  obtain ⟨hmunched, -⟩ := (tokenize_eq_ok_iff text tokens).mp h
  obtain ⟨others, last, hblanks, -⟩ := hmunched.exists_withoutWhitespace
  refine ⟨others, last, hblanks, ?_⟩
  have hend : (Cursor.ofTokens tokens true).endPosition = last.position := by
    have hlast : (Cursor.ofTokens tokens true).last? = some last := by
      show (withoutWhitespace tokens).getLast? = some last
      rw [hblanks, List.getLast?_concat]
    rw [Cursor.endPosition, hlast]
  rw [Expr.ofText, Cursor.ofText, h]
  show (Reader.run (Cursor.ofTokens tokens true).endPosition .initial _).result = _
  rw [hend]
  rfl

section Texts

variable {a b : String} {as bs : List Token}

/-- The tokens that stand at the same index of two lists. -/
def SameIndex (as bs : List Token) (a b : Token) : Prop :=
  ∃ k : Nat, as[k]? = some a ∧ bs[k]? = some b

theorem SameIndex.alike {a b : Token} (h : List.Forall₂ Token.Alike as bs)
    (hindex : SameIndex as bs a b) : a.Alike b := by
  obtain ⟨k, ha, hb⟩ := hindex
  obtain ⟨hk, rfl⟩ := List.getElem?_eq_some_iff.mp ha
  obtain ⟨hk', rfl⟩ := List.getElem?_eq_some_iff.mp hb
  exact h.get hk hk'

theorem forall₂_sameIndex (h : as.length = bs.length) : List.Forall₂ (SameIndex as bs) as bs :=
  List.forall₂_iff_get.mpr ⟨h, fun k hk hk' =>
    ⟨k, List.getElem?_eq_getElem hk, List.getElem?_eq_getElem hk'⟩⟩

/-- Two texts whose tokens are alike but for blanks are read alike, or there is the same complaint
about the tokens of one index. -/
theorem Expr.ofText_alike (ha : tokenize a = .ok as) (hb : tokenize b = .ok bs)
    (h : List.Forall₂ Token.Alike (withoutWhitespace as) (withoutWhitespace bs)) :
    Reader.Result.Alike (SameIndex (withoutWhitespace as) (withoutWhitespace bs))
      (Expr.ofText a) (Expr.ofText b) := by
  obtain ⟨front, last, hfront, hreadA⟩ := Expr.exists_ofText_eq_run ha
  obtain ⟨front', last', hfront', hreadB⟩ := Expr.exists_ofText_eq_run hb
  have hlength : front.length = front'.length := by
    have hlengths := h.length_eq
    rw [hfront, hfront', List.length_append, List.length_append] at hlengths
    exact Nat.add_right_cancel hlengths
  have hlast : SameIndex (withoutWhitespace as) (withoutWhitespace bs) last last' := by
    refine ⟨front.length, ?_, ?_⟩
    · rw [hfront, List.getElem?_concat_length]
    · rw [hfront', hlength, List.getElem?_concat_length]
  rw [hreadA, hreadB]
  exact Reader.run_alike (fun a b => SameIndex.alike h) hlast (forall₂_sameIndex h.length_eq)
    ⟨.nil, rfl, .operand⟩

end Texts

end RecordFilter
