import RecordFilter.Proofs.Expr.Composition
import RecordFilter.Proofs.Number.Numeral

/-!
# Equal expressions

Two expressions that were read are equal if and only if they were read from the same tokens at
the same places, blanks apart; only parentheses may stand elsewhere (`equal_iff_sameTokens`).

Two facts carry this. What was read holds no number that differs from itself, so that equality of
expressions is equality of trees (`Expr.eqv_iff_eq`). And a text is read as the one tree that its
tokens spell (`Expr.ofText_eq_ok_iff`), so a tree is determined by what it shows of its tokens,
including parentheses that no node is for.
-/

namespace RecordFilter

/-! ## Tokens that spell an expression -/

/-- The tokens that an expression is made of: no blanks, and not the end of the input. -/
def essentialTokens (tokens : List Token) : List Token :=
  tokens.filter fun token => token.kind ≠ .whitespace ∧ token.kind ≠ .endOfInput

/-- Two tokens have one kind and one text, and if they are no parentheses, one place. -/
structure Token.SameAs (token other : Token) : Prop where
  kind : token.kind = other.kind
  literal : token.literal = other.literal
  position : token.kind ≠ .leftParen → token.kind ≠ .rightParen → token.position = other.position

instance (token other : Token) : Decidable (token.SameAs other) :=
  decidable_of_iff
    (token.kind = other.kind ∧ token.literal = other.literal
      ∧ (token.kind ≠ .leftParen → token.kind ≠ .rightParen → token.position = other.position))
    ⟨fun ⟨hkind, hliteral, hposition⟩ => ⟨hkind, hliteral, hposition⟩,
      fun h => ⟨h.kind, h.literal, h.position⟩⟩

/-- In front of the end of the input, the essential tokens are those that are no blanks. -/
theorem essentialTokens_ended {tokens : List Token} {last : Token}
    (hlast : last.kind = .endOfInput) (htokens : ∀ token ∈ tokens, token.kind ≠ .endOfInput) :
    essentialTokens (tokens ++ [last]) = withoutWhitespace tokens := by
  have hnone : essentialTokens [last] = [] := by simp [essentialTokens, hlast]
  have hfront : essentialTokens tokens = withoutWhitespace tokens :=
    List.filter_congr fun token ht => Bool.eq_iff_iff.mpr (by simp [htokens token ht])
  rw [essentialTokens, List.filter_append]
  show essentialTokens tokens ++ essentialTokens [last] = _
  rw [hnone, hfront, List.append_nil]

/-- A parenthesis has one text. -/
theorem eq_of_hasShape_paren {kind : TokenKind} {text text' : List Char}
    (hkind : kind = .leftParen ∨ kind = .rightParen) (h : HasShape kind text)
    (h' : HasShape kind text') : text = text' := by
  rcases hkind with rfl | rfl
  · exact Eq.trans h (Eq.symm h')
  · exact Eq.trans h (Eq.symm h')

/-- Tokens are the same if a tree shows the same of them. -/
theorem Token.sameAs_iff {token other : Token} (h : HasShape token.kind token.literal.toList)
    (h' : HasShape other.kind other.literal.toList) :
    token.SameAs other ↔ token.mark = other.mark := by
  by_cases hparen : token.kind = .leftParen ∨ token.kind = .rightParen
  · have hkinds : token.mark = other.mark ↔ token.kind = other.kind := by
      rcases hparen with hk | hk
      · rw [mark_eq_opening_iff.mpr hk, eq_comm, mark_eq_opening_iff, hk, eq_comm]
      · rw [mark_eq_closing_iff.mpr hk, eq_comm, mark_eq_closing_iff, hk, eq_comm]
    rw [hkinds]
    refine ⟨SameAs.kind, fun hkind => ⟨hkind, ?_, fun hl hr => ?_⟩⟩
    · rw [← hkind] at h'
      exact String.toList_inj.mp (eq_of_hasShape_paren hparen h h')
    · exact absurd hparen (not_or.mpr ⟨hl, hr⟩)
  · obtain ⟨hl, hr⟩ := not_or.mp hparen
    rw [mark_eq_token_iff.mpr ⟨rfl, hl, hr⟩, eq_comm, mark_eq_token_iff]
    constructor
    · rintro ⟨hkind, hliteral, hposition⟩
      obtain ⟨kind, literal, position⟩ := token
      obtain rfl : kind = other.kind := hkind
      obtain rfl : literal = other.literal := hliteral
      obtain rfl : position = other.position := hposition hl hr
      exact ⟨rfl, hl, hr⟩
    · rintro ⟨rfl, -, -⟩
      exact ⟨rfl, rfl, fun _ _ => rfl⟩

/-- Rows of tokens are the same if a tree shows the same of them. -/
theorem forall₂_sameAs_iff {tokens others : List Token}
    (h : ∀ token ∈ tokens, HasShape token.kind token.literal.toList)
    (h' : ∀ token ∈ others, HasShape token.kind token.literal.toList) :
    List.Forall₂ Token.SameAs tokens others ↔ tokens.map Token.mark = others.map Token.mark := by
  induction tokens generalizing others with
  | nil => cases others <;> simp
  | cons token tokens ih =>
    cases others with
    | nil => simp
    | cons other others =>
      obtain ⟨htoken, htokens⟩ := List.forall_mem_cons.mp h
      obtain ⟨hother, hothers⟩ := List.forall_mem_cons.mp h'
      rw [List.forall₂_cons, List.map_cons, List.map_cons, List.cons.injEq,
        Token.sameAs_iff htoken hother, ih htokens hothers]

/-! ## Equality of trees -/

/-- Trees are equal if equal leaves and connectives are the same. -/
theorem Tree.eqv_iff_eq {ω α : Type} {l : Level} {sameConnective : ω → ω → Bool}
    {sameLeaf : α → α → Bool} {s t : Tree ω α l}
    (hconnective : ∀ c d, sameConnective c d = true ↔ c = d)
    (hleaf : ∀ x ∈ s.leaves, ∀ y ∈ t.leaves, sameLeaf x y = true ↔ x = y) :
    s.eqv sameConnective sameLeaf t = true ↔ s = t := by
  induction s with
  | leaf x =>
    cases t with
    | leaf y =>
      rw [eqv, hleaf x (List.mem_singleton_self x) y (List.mem_singleton_self y), leaf.injEq]
    | group inner => simp [eqv]
  | group inner ih =>
    cases t with
    | leaf y => simp [eqv]
    | group inner' => rw [eqv, ih hleaf, group.injEq]
  | single operand ih =>
    cases t with
    | single operand' => rw [eqv, ih hleaf, single.injEq]
    | join operand' connective rest => simp [eqv]
  | join operand connective rest ihOperand ihRest =>
    cases t with
    | single operand' => simp [eqv]
    | join operand' connective' rest' =>
      have hoperand := ihOperand fun x hx y hy =>
        hleaf x (List.mem_append_left _ hx) y (List.mem_append_left _ hy)
      have hrest := ihRest fun x hx y hy =>
        hleaf x (List.mem_append_right _ hx) y (List.mem_append_right _ hy)
      rw [eqv, Bool.and_eq_true, Bool.and_eq_true, hoperand, hconnective, hrest, join.injEq,
        and_assoc]

/-- A copy is put together from the parts that the tree is made of. -/
theorem Tree.copyParts_eq {ω α : Type} :
    {l : Level} → (t : Tree ω α l) → match l, t with
      | .operand, operand => operand.copyParts = (operand, [])
      | .chain, e => e.copy = e
  | _, leaf content => rfl
  | _, group inner => by
    have hinner : inner.copy = inner := copyParts_eq inner
    show (group inner.copy, []) = _
    rw [hinner]
  | _, single operand => by
    have hoperand : operand.copyParts = (operand, []) := copyParts_eq operand
    show chain operand.copyParts.1 operand.copyParts.2 = _
    rw [hoperand, chain_nil]
  | _, join operand connective rest => by
    have hoperand : operand.copyParts = (operand, []) := copyParts_eq operand
    have hrest : rest.copy = rest := copyParts_eq rest
    show chain operand.copyParts.1 ((connective, rest.copyParts.1) :: rest.copyParts.2) = _
    rw [chain_cons, hoperand]
    exact congrArg (join operand connective) hrest

theorem Tree.copy_eq {ω α : Type} (e : Tree ω α .chain) : e.copy = e := copyParts_eq e

/-! ## Equality of conditions -/

theorem Binary64.eqv_self {x : Binary64} (h : x.isNaN = false) : x.eqv x = true := by
  simp [eqv, compare?, h]

namespace Condition.Faithful

variable {c d : Condition}

/-- The value of a condition is a function of the token it was read from. -/
theorem value_eq (h : c.Faithful) (h' : d.Faithful) (htoken : c.literal.token = d.literal.token) :
    c.value = d.value := by
  rcases h.literal with ⟨hkind, hvalue⟩ | ⟨hkind, x, hx, hvalue⟩
  · rcases h'.literal with ⟨-, hvalue'⟩ | ⟨hkind', -⟩
    · rw [hvalue, hvalue', htoken]
    · rw [htoken, hkind'] at hkind
      cases hkind
  · rcases h'.literal with ⟨hkind', -⟩ | ⟨-, y, hy, hvalue'⟩
    · rw [htoken, hkind'] at hkind
      cases hkind
    · rw [htoken, hy] at hx
      rw [hvalue, hvalue', Option.some.inj hx]

/-- No condition that was read holds a number that differs from itself. -/
theorem eqv_self (h : c.Faithful) : c.eqv c = true := by
  have hvalue : c.value.eqv c.value = true := by
    rcases h.literal with ⟨-, hvalue⟩ | ⟨-, x, hx, hvalue⟩
    · simp [hvalue, Value.eqv]
    · rw [hvalue]
      exact Binary64.eqv_self (Binary64.isNaN_of_ofText? hx)
  simp [eqv, hvalue]

theorem eqv_iff_eq (h : c.Faithful) (h' : d.Faithful) : c.eqv d = true ↔ c = d := by
  constructor
  · intro heqv
    simp only [eqv, Bool.and_eq_true, beq_iff_eq] at heqv
    obtain ⟨⟨⟨⟨hname, hidentifier⟩, hcomparison⟩, htoken⟩, -⟩ := heqv
    have hvalue := h.value_eq h' htoken
    obtain ⟨name, identifier, comparison, ⟨value, token⟩⟩ := c
    obtain ⟨name', identifier', comparison', ⟨value', token'⟩⟩ := d
    simp_all [Condition.value]
  · rintro rfl
    exact h.eqv_self

end Condition.Faithful

/-! ## Expressions that were read -/

section Read

variable {A B text : String} {a b e : Expr} {as bs tokens : List Token}

/-- A text is read as the tree that its tokens spell, if that is not nested too deep. -/
theorem Expr.ofText_eq_ok_iff (h : tokenize text = .ok tokens) :
    Expr.ofText text = .ok e ↔ e.SpelledBy (essentialTokens tokens) ∧ e.depth ≤ maxNesting := by
  obtain ⟨hmunched, -⟩ := munchedFrom_of_tokensFrom _ h
  obtain ⟨front, last, rfl, hlast, hfront⟩ := hmunched.ended
  rw [essentialTokens_ended hlast hfront]
  constructor
  · intro hread
    obtain ⟨-, -, hdepth, -⟩ := exists_spelledBy_of_ofText hread
    exact ⟨spelledBy_of_ofText hread h hlast hfront, hdepth⟩
  · rintro ⟨hspelled, hdepth⟩
    exact ofText_eq_of_tokenize h hlast hspelled hdepth

/-- A text that is read as an expression is cut into tokens. -/
theorem Expr.exists_tokenize_of_ofText (h : Expr.ofText text = .ok e) :
    ∃ tokens, tokenize text = .ok tokens := by
  rw [Expr.ofText, Cursor.ofText] at h
  cases htokenize : tokenize text with
  | error error =>
    rw [htokenize] at h
    cases h
  | ok tokens => exact ⟨tokens, rfl⟩

theorem Expr.faithful_of_ofText (h : Expr.ofText text = .ok e) : ∀ c ∈ e.leaves, c.Faithful := by
  obtain ⟨tokens, hspelled, -⟩ := exists_spelledBy_of_ofText h
  exact fun c hc => (hspelled.leaves c hc).1

/-- Expressions that were read count as equal only if they are. -/
theorem Expr.eqv_iff_eq (hA : Expr.ofText A = .ok a) (hB : Expr.ofText B = .ok b) :
    a.eqv b = true ↔ a = b :=
  Tree.eqv_iff_eq (fun _ _ => beq_iff_eq) fun c hc d hd =>
    (faithful_of_ofText hA c hc).eqv_iff_eq (faithful_of_ofText hB d hd)

/-- A tree that was read is determined by what it shows of its tokens. -/
theorem Expr.eq_iff_marks (hA : Expr.ofText A = .ok a) (hB : Expr.ofText B = .ok b)
    (has : tokenize A = .ok as) (hbs : tokenize B = .ok bs) :
    a = b ↔ (essentialTokens as).map Token.mark = (essentialTokens bs).map Token.mark := by
  obtain ⟨hspelledA, -⟩ := (ofText_eq_ok_iff has).mp hA
  obtain ⟨hspelledB, hdepthB⟩ := (ofText_eq_ok_iff hbs).mp hB
  constructor
  · rintro rfl
    rw [hspelledA.marks, hspelledB.marks]
  · intro hmarks
    -- then the tokens of the first text spell the second tree as well, and reading finds one tree
    have hspelled : b.SpelledBy (essentialTokens as) :=
      ⟨hmarks.trans hspelledB.marks, hspelledB.faithful⟩
    have hread : Expr.ofText A = .ok b := (ofText_eq_ok_iff has).mpr ⟨hspelled, hdepthB⟩
    exact Except.ok.inj (hA.symm.trans hread)

theorem hasShape_of_mem_essentialTokens (h : tokenize text = .ok tokens) :
    ∀ token ∈ essentialTokens tokens, HasShape token.kind token.literal.toList := fun token ht =>
  (munchedFrom_of_tokensFrom _ h).1.shaped token (List.mem_of_mem_filter ht)

/-- Expressions that were read are equal if their tokens are the same. -/
theorem Expr.eq_iff_sameTokens (hA : Expr.ofText A = .ok a) (hB : Expr.ofText B = .ok b)
    (has : tokenize A = .ok as) (hbs : tokenize B = .ok bs) :
    a = b ↔ List.Forall₂ Token.SameAs (essentialTokens as) (essentialTokens bs) := by
  rw [eq_iff_marks hA hB has hbs, forall₂_sameAs_iff (hasShape_of_mem_essentialTokens has)
    (hasShape_of_mem_essentialTokens hbs)]

end Read

/-- What some text is read as. -/
def Expr.IsRead (e : Expr) : Prop :=
  ∃ text, Expr.ofText text = .ok e

/-- **Equal expressions are those with the same tokens.** Two expressions that were read are equal
if and only if their texts are cut into the same tokens, one by one, in kind, text and place;
blanks do not count, nor where a parenthesis stands. Equality is an equivalence of expressions that
were read, equal ones are printed alike and have equal conditions, and a copy is equal to what it
was made from. -/
theorem equal_iff_sameTokens :
    (∀ A B : String, ∀ a b : Expr, Expr.ofText A = .ok a → Expr.ofText B = .ok b →
        ∃ as bs, tokenize A = .ok as ∧ tokenize B = .ok bs
          ∧ (a.eqv b = true
            ↔ List.Forall₂ Token.SameAs (essentialTokens as) (essentialTokens bs)))
      ∧ Equivalence (fun a b : { e : Expr // e.IsRead } => a.1.eqv b.1 = true)
      ∧ (∀ a b : Expr, a.IsRead → b.IsRead → a.eqv b = true →
        a.describe = b.describe ∧ a.conditions = b.conditions
          ∧ List.Forall₂ (fun c d => c.eqv d = true) a.conditions b.conditions)
      ∧ ∀ e : Expr, e.IsRead → Expr.eqv e.copy e = true := by
  have heq : ∀ a b : Expr, a.IsRead → b.IsRead → (a.eqv b = true ↔ a = b) :=
    fun _ _ ⟨_, hA⟩ ⟨_, hB⟩ => Expr.eqv_iff_eq hA hB
  refine ⟨fun A B a b hA hB => ?_, ⟨fun a => ?_, fun {a b} h => ?_, fun {a b c} h h' => ?_⟩,
    fun a b ha hb h => ?_, fun e he => ?_⟩
  · obtain ⟨as, has⟩ := Expr.exists_tokenize_of_ofText hA
    obtain ⟨bs, hbs⟩ := Expr.exists_tokenize_of_ofText hB
    refine ⟨as, bs, has, hbs, ?_⟩
    rw [Expr.eqv_iff_eq hA hB, Expr.eq_iff_sameTokens hA hB has hbs]
  · exact (heq a a a.2 a.2).mpr rfl
  · exact (heq b a b.2 a.2).mpr ((heq a b a.2 b.2).mp h).symm
  · exact (heq a c a.2 c.2).mpr (((heq a b a.2 b.2).mp h).trans ((heq b c b.2 c.2).mp h'))
  · obtain rfl := (heq a b ha hb).mp h
    obtain ⟨text, hread⟩ := ha
    refine ⟨rfl, rfl, List.forall₂_same.mpr fun c hc => ?_⟩
    exact (Expr.faithful_of_ofText hread c hc).eqv_self
  · rw [Tree.copy_eq]
    exact (heq e e he he).mpr rfl

/-- A closing parenthesis may stand elsewhere, but a connective behind it may not. -/
theorem equal_iff_sameTokens_moved :
    ∃ a b c : Expr, Expr.ofText "(a = 1 ) or b < '2'" = .ok a
      ∧ Expr.ofText "(a = 1)  or b < '2'" = .ok b ∧ Expr.ofText "(a = 1) or b < '2'" = .ok c
      ∧ a.eqv b = true ∧ a.describe = b.describe ∧ ¬ a.eqv c = true
      ∧ Expr.eqv a.copy a = true := by
  have hread : ∀ text, cause? (Expr.ofText text) = none → ∃ e, Expr.ofText text = .ok e := fun _ =>
    cause?_eq_none_iff.mp
  obtain ⟨a, ha⟩ := hread "(a = 1 ) or b < '2'" (by decide +kernel)
  obtain ⟨b, hb⟩ := hread "(a = 1)  or b < '2'" (by decide +kernel)
  obtain ⟨c, hc⟩ := hread "(a = 1) or b < '2'" (by decide +kernel)
  obtain ⟨hequal, -, hprinted, hcopy⟩ := equal_iff_sameTokens
  obtain ⟨as, bs, has, hbs, hab⟩ := hequal _ _ a b ha hb
  obtain ⟨as', cs, has', hcs, hac⟩ := hequal _ _ a c ha hc
  have hsame : ∀ A B : String, ∀ as bs : List Token, tokenize A = .ok as → tokenize B = .ok bs →
      (List.Forall₂ Token.SameAs (essentialTokens as) (essentialTokens bs)
        ↔ List.Forall₂ Token.SameAs (essentialTokens (tokenize A).toOption.get!)
          (essentialTokens (tokenize B).toOption.get!)) := by
    intro A B as bs hA hB
    rw [hA, hB]
    rfl
  have heqv : a.eqv b = true := hab.mpr ((hsame _ _ as bs has hbs).mpr (by decide +kernel))
  refine ⟨a, b, c, ha, hb, hc, heqv, (hprinted a b ⟨_, ha⟩ ⟨_, hb⟩ heqv).1, fun h => ?_,
    hcopy a ⟨_, ha⟩⟩
  exact absurd ((hsame _ _ as' cs has' hcs).mp (hac.mp h)) (by decide +kernel)

end RecordFilter
