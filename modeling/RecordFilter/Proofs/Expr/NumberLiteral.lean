import RecordFilter.Proofs.Expr.Refusal
import RecordFilter.Proofs.Expr.RoundTrip
import RecordFilter.Proofs.Number.Numeral

/-!
# Number tokens as literals

What becomes of a number token where a literal is due: it is refused exactly if no numeral within
reach is its text, and otherwise the condition holds the double that is nearest to the numeral. A
number token of the lexer always is a numeral, so only its size is in question.

The place is described by the tokens in front: they begin an expression, and the last of them is a
comparison. A reader that has walked over them waits for the literal of a condition
(`exists_walks_literal`), so its next step is known, and whatever tree it builds from there on has
that condition among its leaves (`exists_condition_of_read`).
-/

namespace RecordFilter

open Binary64 (reach RoundsTo)

/-! ## Places of literals -/

/-- Tokens that an expression begins with. -/
def BeginsExpression (front : List Token) : Prop :=
  ∃ others, IsExpression (front ++ others)

/-- Tokens behind which the literal of a condition is due. -/
structure LiteralPlace (front : List Token) : Prop where
  begins : BeginsExpression front
  due : LiteralDue front

theorem BeginsExpression.kind_ne_endOfInput {front : List Token} (h : BeginsExpression front) :
    ∀ token ∈ front, token.kind ≠ .endOfInput := by
  obtain ⟨others, hexpression⟩ := h
  exact fun token ht => hexpression.derives.kind_ne_endOfInput token (List.mem_append_left _ ht)

namespace Reader

variable {s : State} {front : List Token}

/-- The reader walks over whatever an expression begins with. -/
theorem exists_walks_of_begins (h : BeginsExpression front) : ∃ s, Walks .initial front s := by
  obtain ⟨others, hexpression⟩ := h
  obtain ⟨e, he, hdepth⟩ := isExpression_iff.mp hexpression
  obtain ⟨s, hwalk, -⟩ := exists_walks he [] [] (by rwa [List.length_nil, Nat.zero_add])
  obtain ⟨s₁, hfront, -⟩ := hwalk.split
  exact ⟨s₁, hfront⟩

/-- Whatever it walks over begins an expression. -/
theorem Walks.begins (h : Walks .initial front s) : BeginsExpression front := by
  obtain ⟨others, operand, before, hothers⟩ := exists_walks_operand s
  obtain ⟨closers, before', operand', -, -, hclosers⟩ :=
    exists_walks_closers s.enclosing before operand
  exact ⟨others ++ closers, ((h.append (hothers.append hclosers)).isExpression rfl rfl).1⟩

/-- Where a literal is due the reader waits for it. -/
theorem exists_walks_literal (h : LiteralPlace front) :
    ∃ enclosing before identifier comparison,
      Walks .initial front ⟨enclosing, before, .literal identifier comparison⟩ := by
  obtain ⟨s, hwalk⟩ := exists_walks_of_begins h.begins
  have hfollows := hwalk.follows
  obtain ⟨enclosing, before, due⟩ := s
  cases due with
  | literal identifier comparison => exact ⟨enclosing, before, identifier, comparison, hwalk⟩
  -- behind a comparison nothing else is due
  | operand => exact absurd h.due (not_literalDue_of_operandDue hfollows)
  | comparison identifier =>
    obtain ⟨last, hlast, hkind⟩ := hfollows
    exact absurd h.due (not_literalDue hlast (by rw [hkind]; decide))
  | connective operand =>
    obtain ⟨last, hlast, hkind⟩ := hfollows
    refine absurd h.due (not_literalDue hlast ?_)
    rcases hkind with hkind | hkind | hkind <;> rw [hkind] <;> decide

end Reader

/-! ## What the reader does there -/

/-- Every number token of a tree is the literal of one of its conditions. -/
theorem Tree.SpelledBy.exists_leaf_of_number {l : Level} {t : Tree (Sourced Connective) Condition l}
    {tokens : List Token} (h : t.SpelledBy tokens) {token : Token} (ht : token ∈ tokens)
    (hnumber : token.kind = .number) :
    ∃ c ∈ t.leaves, c.Faithful ∧ c.literal.token = token := by
  induction t generalizing tokens with
  | leaf c =>
    obtain ⟨rfl, hc⟩ := spelledBy_leaf_iff.mp h
    refine ⟨c, List.mem_singleton_self c, hc, ?_⟩
    simp only [Condition.tokens, List.mem_cons, List.not_mem_nil, or_false] at ht
    rcases ht with rfl | rfl | rfl
    · rw [hc.identifier] at hnumber
      cases hnumber
    · have hmem := hc.comparison_kind
      rw [hnumber] at hmem
      exact absurd hmem (by decide)
    · rfl
  | group inner ih =>
    obtain ⟨opening, within, closing, rfl, hopening, hclosing, hinner⟩ := spelledBy_group_iff.mp h
    simp only [List.mem_cons, List.mem_append, List.not_mem_nil, or_false] at ht
    rcases ht with rfl | ht | rfl
    · rw [hopening] at hnumber
      cases hnumber
    · exact ih hinner ht
    · rw [hclosing] at hnumber
      cases hnumber
  | single operand ih => exact ih (spelledBy_single_iff.mp h) ht
  | join operand joint rest ihOperand ihRest =>
    obtain ⟨front, back, rfl, hoperand, hjoint, hrest⟩ := spelledBy_join_iff.mp h
    rcases List.mem_append.mp ht with ht | ht
    · obtain ⟨c, hc, hfound⟩ := ihOperand hoperand ht
      exact ⟨c, List.mem_append_left _ hc, hfound⟩
    · rcases List.mem_cons.mp ht with rfl | ht
      · rcases hjoint.kind with hk | hk <;> rw [hk] at hnumber <;> cases hnumber
      · obtain ⟨c, hc, hfound⟩ := ihRest hrest ht
        exact ⟨c, List.mem_append_right _ hc, hfound⟩

theorem ExprError.unexpected_ne_invalidNumber (token : Token) (literal : String)
    (position : Position) : unexpected token ≠ .invalidNumber literal position := by
  unfold unexpected
  split_ifs <;> exact nofun

namespace Cursor

variable {cursor : Cursor} {front rest : List Token} {token : Token} {e : Expr}

/-- A number that is not within reach is refused where a literal is due. -/
theorem read_of_outOfReach (hremaining : cursor.remaining = front ++ token :: rest)
    (hnumber : token.kind = .number) (hplace : LiteralPlace front)
    (hnone : Binary64.ofText? token.literal.toList = none) :
    cursor.read = (.error (.invalidNumber token.literal token.position),
      cursor.moveTo (cursor.index + front.length)) := by
  obtain ⟨enclosing, before, identifier, comparison, hwalk⟩ := Reader.exists_walks_literal hplace
  refine read_of_refused hremaining hwalk ?_
  simp only [Reader.step, Reader.stepLiteral, Reader.literalValue, hnumber, hnone]

/-- Only a number that is not within reach is refused as a number. -/
theorem ofText?_eq_none_of_read {literal : String} {position : Position}
    (h : cursor.read.1 = .error (.invalidNumber literal position)) :
    Binary64.ofText? literal.toList = none := by
  obtain ⟨front, s, hwalk, ⟨-, hread⟩ | ⟨token, rest, -, hstop⟩⟩ := cursor.read_cases
  · rw [hread] at h
    cases h
  rcases hstop with ⟨e, -, hread⟩ | ⟨error, hstep, hread⟩
  · rw [hread] at h
    cases h
  · rw [hread] at h
    have herror : error = .invalidNumber literal position := Except.error.inj h
    have hrefuses := Reader.refuses_of_step hstep
    generalize hother : error = other at hrefuses
    cases hrefuses with
    | outOfReach hkind hvalue =>
      rw [herror] at hother
      rwa [(ExprError.invalidNumber.inj hother).1]
    | tooDeep _ _ => cases hother.symm.trans herror
    | unclosed _ => cases hother.symm.trans herror
    | _ => exact absurd (hother.symm.trans herror) (ExprError.unexpected_ne_invalidNumber _ _ _)

/-- Behind a number within reach the expression can go on. -/
theorem begins_of_withinReach (hnumber : token.kind = .number) (hplace : LiteralPlace front)
    {x : Binary64} (hsome : Binary64.ofText? token.literal.toList = some x) :
    BeginsExpression (front ++ [token]) := by
  obtain ⟨enclosing, before, identifier, comparison, hwalk⟩ := Reader.exists_walks_literal hplace
  have hvalue : Reader.literalValue token = .ok (.number x) := by
    simp only [Reader.literalValue, hnumber, hsome]
  exact (hwalk.append (.single (.literal hvalue))).begins

/-- A tree that was read has the tokens behind which an expression can go on. -/
theorem mem_upTo {j : Nat} (hremaining : cursor.remaining = front ++ token :: rest)
    (hbegins : BeginsExpression (front ++ [token])) (haccepts : cursor.Accepts j) :
    token ∈ cursor.upTo j := by
  obtain ⟨hstart, ⟨last, hlast, hend⟩, -⟩ := haccepts
  have hsplit : cursor.remaining = (front ++ [token]) ++ rest := by
    rw [hremaining, List.append_assoc, List.singleton_append]
  have hlast : cursor.remaining[j - cursor.index]? = some last := by
    rw [remaining, List.getElem?_drop, Nat.add_sub_cancel' hstart]
    exact hlast
  -- the input does not end within these tokens
  have hfar : (front ++ [token]).length ≤ j - cursor.index := by
    by_contra hnear
    rw [hsplit, List.getElem?_append_left (by omega)] at hlast
    exact hbegins.kind_ne_endOfInput last (List.mem_of_getElem? hlast) hend
  rw [upTo, hsplit, List.take_append, List.take_of_length_le hfar]
  simp

/-- A tree that was read has a condition with the number in its place. -/
theorem exists_condition_of_read (hread : cursor.read.1 = .ok e)
    (hremaining : cursor.remaining = front ++ token :: rest) (hnumber : token.kind = .number)
    (hplace : LiteralPlace front) {x : Binary64}
    (hsome : Binary64.ofText? token.literal.toList = some x) :
    ∃ c ∈ e.conditions, c.literal = ⟨.number x, token⟩ := by
  obtain ⟨j, haccepts, hspelled⟩ := exists_accepts_of_read hread
  have hbegins := begins_of_withinReach hnumber hplace hsome
  obtain ⟨c, hc, hfaithful, htoken⟩ :=
    hspelled.exists_leaf_of_number (mem_upTo hremaining hbegins haccepts) hnumber
  refine ⟨c, hc, ?_⟩
  rcases hfaithful.literal with ⟨hstring, -⟩ | ⟨-, value, hvalue, hitem⟩
  · rw [htoken, hnumber] at hstring
    cases hstring
  · rw [htoken, hsome] at hvalue
    have hitem : c.literal.item = .number value := hitem
    obtain rfl := Option.some.inj hvalue
    rw [← htoken, ← hitem]

/-- A number in a tree that was read is the double nearest to the numeral that its token spells. -/
theorem roundsTo_of_read (hread : cursor.read.1 = .ok e) {c : Condition} (hc : c ∈ e.conditions)
    {x : Binary64} (hvalue : c.value = .number x) :
    ∃ n, Numeral.Spells c.literal.token.literal.toList n ∧ RoundsTo n.value x
      ∧ x.negative = n.negative := by
  obtain ⟨j, -, hspelled⟩ := exists_accepts_of_read hread
  obtain ⟨hfaithful, -⟩ := hspelled.leaves c hc
  rcases hfaithful.literal with ⟨-, hstring⟩ | ⟨-, number, hnumber, hitem⟩
  · rw [hstring] at hvalue
    cases hvalue
  · rw [hitem] at hvalue
    rw [← Value.number.inj hvalue]
    exact Binary64.ofText?_eq_some_iff.mp hnumber

end Cursor

/-! ## Texts and tokens -/

section Text

variable {text : String} {tokens front rest : List Token} {token : Token}

theorem Expr.ofText_of_tokenize (h : tokenize text = .ok tokens) :
    Expr.ofText text = (Cursor.ofTokens tokens true).read.1 := by
  rw [Expr.ofText, Cursor.ofText, h]

/-- The number tokens of a text are numerals. -/
theorem isNumeral_of_tokenize (h : tokenize text = .ok tokens)
    (hmem : token ∈ withoutWhitespace tokens) (hnumber : token.kind = .number) :
    IsNumeral token.literal.toList := by
  obtain ⟨hmunched, -⟩ := munchedFrom_of_tokensFrom _ h
  have hshape := hmunched.shaped token (List.mem_of_mem_filter hmem)
  rwa [hnumber] at hshape

/-- A number token of a text is refused exactly if its digits are out of reach. -/
theorem Expr.ofText_eq_invalidNumber_iff (h : tokenize text = .ok tokens)
    (hsplit : withoutWhitespace tokens = front ++ token :: rest) (hnumber : token.kind = .number)
    (hplace : LiteralPlace front) :
    Expr.ofText text = .error (.invalidNumber token.literal token.position)
      ↔ reach ≤ decimalValue token.literal.toList := by
  have hnumeral : IsNumeral token.literal.toList :=
    isNumeral_of_tokenize h (by rw [hsplit]; simp) hnumber
  rw [Expr.ofText_of_tokenize h, ← hnumeral.ofText?_eq_none_iff]
  constructor
  · exact Cursor.ofText?_eq_none_of_read
  · intro hnone
    have hremaining : (Cursor.ofTokens tokens true).remaining = front ++ token :: rest := hsplit
    rw [Cursor.read_of_outOfReach hremaining hnumber hplace hnone]

/-- Otherwise the condition holds the double that is nearest to its digits. -/
theorem Expr.exists_number_of_reach (h : tokenize text = .ok tokens)
    (hsplit : withoutWhitespace tokens = front ++ token :: rest) (hnumber : token.kind = .number)
    (hplace : LiteralPlace front) (hreach : decimalValue token.literal.toList < reach) :
    ∃ x : Binary64, RoundsTo (decimalValue token.literal.toList) x ∧ x.negative = false
      ∧ BeginsExpression (front ++ [token])
      ∧ ∀ e, Expr.ofText text = .ok e → ∃ c ∈ e.conditions, c.literal = ⟨.number x, token⟩ := by
  have hnumeral : IsNumeral token.literal.toList :=
    isNumeral_of_tokenize h (by rw [hsplit]; simp) hnumber
  have hsome := hnumeral.ofText?_eq_none_iff.not.mpr (not_le.mpr hreach)
  obtain ⟨x, hx⟩ := Option.ne_none_iff_exists'.mp hsome
  obtain ⟨hrounds, hsign⟩ := hnumeral.ofText?_eq_some_iff.mp hx
  refine ⟨x, hrounds, hsign, Cursor.begins_of_withinReach hnumber hplace hx, fun e he => ?_⟩
  rw [Expr.ofText_of_tokenize h] at he
  exact Cursor.exists_condition_of_read he hsplit hnumber hplace hx

end Text

/-- **Number literals are usable unless they are too large.** Where a literal is due, a number
token of a text is refused exactly if what its digits are worth is out of reach, and the condition
holds the nearest double otherwise. A number token of any other text is refused exactly if no
numeral within reach is spelled by it, so none of the words for infinity and for no number is a
literal, and every number in a tree that was read is a finite double. -/
theorem number_literals :
    (∀ (text : String) (tokens front rest : List Token) (token : Token),
      tokenize text = .ok tokens → withoutWhitespace tokens = front ++ token :: rest →
      token.kind = .number → LiteralPlace front →
        (Expr.ofText text = .error (.invalidNumber token.literal token.position)
            ↔ reach ≤ decimalValue token.literal.toList)
          ∧ (decimalValue token.literal.toList < reach → ∃ x : Binary64,
              RoundsTo (decimalValue token.literal.toList) x ∧ x.negative = false
                ∧ BeginsExpression (front ++ [token])
                ∧ ∀ e, Expr.ofText text = .ok e →
                    ∃ c ∈ e.conditions, c.literal = ⟨.number x, token⟩))
      ∧ (∀ (cursor : Cursor) (front rest : List Token) (token : Token),
        cursor.remaining = front ++ token :: rest → token.kind = .number → LiteralPlace front →
          (cursor.read.1 = .error (.invalidNumber token.literal token.position)
              ↔ ∀ n, Numeral.Spells token.literal.toList n → reach ≤ |n.value|)
            ∧ (IsSpecialWord token.literal.toList → cursor.read.1
                = .error (.invalidNumber token.literal token.position)))
      ∧ ∀ (cursor : Cursor) (e : Expr) (c : Condition) (x : Binary64), cursor.read.1 = .ok e →
        c ∈ e.conditions → c.value = .number x →
          x.isFinite = true ∧ ∃ n, Numeral.Spells c.literal.token.literal.toList n
            ∧ RoundsTo n.value x ∧ x.negative = n.negative := by
  refine ⟨fun text tokens front rest token h hsplit hnumber hplace => ⟨?_, ?_⟩,
    fun cursor front rest token hremaining hnumber hplace => ?_,
    fun cursor e c x hread hc hvalue => ?_⟩
  · exact Expr.ofText_eq_invalidNumber_iff h hsplit hnumber hplace
  · exact Expr.exists_number_of_reach h hsplit hnumber hplace
  · have hrefused : cursor.read.1 = .error (.invalidNumber token.literal token.position)
        ↔ ∀ n, Numeral.Spells token.literal.toList n → reach ≤ |n.value| := by
      rw [← Binary64.ofText?_eq_none_iff]
      constructor
      · exact Cursor.ofText?_eq_none_of_read
      · intro hnone
        rw [Cursor.read_of_outOfReach hremaining hnumber hplace hnone]
    exact ⟨hrefused, fun hword => hrefused.mpr fun n hn => absurd hn (hword.not_spells n)⟩
  · obtain ⟨n, hspells, hrounds, hsign⟩ := Cursor.roundsTo_of_read hread hc hvalue
    exact ⟨hrounds.finite, n, hspells, hrounds, hsign⟩

/-- A numeral with zeros on both ends, and a word for no number in the place of one. -/
theorem number_literals_zeros :
    let front : List Token := [⟨.identifier, "a", ⟨1, 1⟩⟩, ⟨.less, "<", ⟨1, 3⟩⟩]
    let word : Token := ⟨.number, "-NaN", ⟨1, 5⟩⟩
    LiteralPlace front
      ∧ (∃ x : Binary64, RoundsTo (71 / 10) x ∧ x.negative = false
        ∧ ∀ e, Expr.ofText "a < 007.10" = .ok e →
            ∃ c ∈ e.conditions, c.literal = ⟨.number x, ⟨.number, "007.10", ⟨1, 5⟩⟩⟩)
      ∧ (Cursor.mk (front ++ [word]) 0).read.1 = .error (.invalidNumber "-NaN" ⟨1, 5⟩) := by
  intro front word
  have hplace : LiteralPlace front := by
    refine ⟨⟨[⟨.string, "'b'", ⟨1, 5⟩⟩], ?_, by decide, ?_⟩, ?_⟩
    · exact .single (.condition rfl (by decide) (Or.inl rfl))
    · intro token ht hkind
      have hkinds : ∀ token ∈ front ++ [⟨.string, "'b'", ⟨1, 5⟩⟩], token.kind ≠ .number := by decide
      exact absurd hkind (hkinds token ht)
    · exact ⟨_, rfl, by decide⟩
  have htokens : tokenize "a < 007.10" = .ok [⟨.identifier, "a", ⟨1, 1⟩⟩,
      ⟨.whitespace, " ", ⟨1, 2⟩⟩, ⟨.less, "<", ⟨1, 3⟩⟩, ⟨.whitespace, " ", ⟨1, 4⟩⟩,
      ⟨.number, "007.10", ⟨1, 5⟩⟩, ⟨.endOfInput, "", ⟨1, 11⟩⟩] := by
    decide +kernel
  have hvalue : decimalValue "007.10".toList = 71 / 10 := by
    have hsplit : "007.10".toList = "007".toList ++ '.' :: "10".toList := by decide
    rw [hsplit, decimalValue_pointed (by decide)]
    have hwhole : Numeral.ofDigits "007".toList = 7 := by decide
    have hfraction : Numeral.ofDigits "10".toList = 10 := by decide
    have hlength : "10".toList.length = 2 := by decide
    rw [hwhole, hfraction, hlength]
    norm_num
  have hpower : (2 : ℚ) ^ 3 ≤ reach := Binary64.two_pow_le_reach (by decide)
  have hreach : (71 / 10 : ℚ) < reach := lt_of_lt_of_le (by norm_num) hpower
  obtain ⟨htext, hmade, -⟩ := number_literals
  obtain ⟨-, hholds⟩ := htext _ _ front [⟨.endOfInput, "", ⟨1, 11⟩⟩] ⟨.number, "007.10", ⟨1, 5⟩⟩
    htokens rfl rfl hplace
  rw [hvalue] at hholds
  obtain ⟨x, hrounds, hsign, -, hcondition⟩ := hholds hreach
  refine ⟨hplace, ⟨x, hrounds, hsign, hcondition⟩, ?_⟩
  refine (hmade (Cursor.mk (front ++ [word]) 0) front [] word rfl rfl hplace).2 ?_
  exact ⟨['-'], true, "NaN".toList, .minus, by decide, by decide⟩

end RecordFilter
