import RecordFilter.Proofs.Expr.Evaluation
import RecordFilter.Proofs.Expr.RoundTrip

/-!
# Texts of expressions in other texts

A text that is read as an expression can be put in parentheses and joined to another one, and the
result is read as the two trees joined (`exists_ofText_of_words`). What stands behind the text is
then a parenthesis or nothing, and no token goes on with a parenthesis, so the text is cut into
the same tokens as by itself, at other places.

`ofText_joined` says what that means for filters. Evaluation depends on places only through the
tests, so if these do not, the value and the tests that are run are put together from those of
the two parts.
-/

namespace RecordFilter

/-! ## Tokens apart from their places -/

/-- The tokens that an expression is read from, apart from their places. -/
def words (tokens : List Token) : List Token :=
  (withoutWhitespace tokens).map Token.unplaced

theorem Token.unplaced_eq_iff {token token' : Token} :
    token'.unplaced = token.unplaced
      ↔ token'.kind = token.kind ∧ token'.literal = token.literal := by
  simp [Token.unplaced]

theorem words_append (front back : List Token) :
    words (front ++ back) = words front ++ words back := by
  rw [words, withoutWhitespace_append, List.map_append]
  rfl

theorem words_singleton (token : Token) (h : token.kind ≠ .whitespace) :
    words [token] = [token.unplaced] := by
  rw [words, withoutWhitespace_singleton h]
  rfl

/-- A text in front of a rest is cut into tokens that are these words, wherever it stands. -/
def HasWords (text rest : List Char) (ws : List Token) : Prop :=
  ∀ position, ∃ tokens, CutInto position text rest tokens ∧ words tokens = ws

theorem HasWords.append {a b rest : List Char} {front back : List Token}
    (ha : HasWords a (b ++ rest) front) (hb : HasWords b rest back) :
    HasWords (a ++ b) rest (front ++ back) := by
  intro position
  obtain ⟨first, hfirst, rfl⟩ := ha position
  obtain ⟨second, hsecond, rfl⟩ := hb (position.after a)
  exact ⟨first ++ second, hfirst.append hsecond, words_append first second⟩

/-- A piece that could not have gone on is one word. -/
theorem HasWords.piece {kind : TokenKind} {text : String} {rest : List Char}
    (hend : kind ≠ .endOfInput) (hblank : kind ≠ .whitespace) (hshape : HasShape kind text.toList)
    (hends : EndsBefore kind text.toList rest) :
    HasWords text.toList rest [⟨kind, text, .start⟩] := fun position =>
  ⟨_, .token hend hshape hends, words_singleton ⟨kind, text, position⟩ hblank⟩

/-- A run of blanks in front of something else is no word. -/
theorem HasWords.blanks (text : String) {rest : List Char}
    (hshape : HasShape .whitespace text.toList)
    (hrest : ∀ c ∈ rest.head?, Text.isBlank c = false) : HasWords text.toList rest [] := by
  have hends : EndsBefore .whitespace text.toList rest := fun c hc hblank =>
    Bool.false_ne_true ((hrest c hc).symm.trans hblank)
  exact fun _ => ⟨_, .token (by decide) hshape hends, rfl⟩

theorem hasShape_blank : HasShape .whitespace " ".toList :=
  ⟨List.cons_ne_nil _ _, List.forall_mem_singleton.mpr (by decide)⟩

/-- A blank in front of a text that begins with something else is no word. -/
theorem HasWords.blank {rest : List Char} (h : Solid rest) : HasWords [' '] rest [] := by
  obtain ⟨c, hc, hdark⟩ := h
  refine HasWords.blanks " " hasShape_blank fun d hd => ?_
  obtain rfl := Option.mem_unique hc hd
  exact hdark

theorem HasWords.nil (rest : List Char) : HasWords [] rest [] := by
  refine fun position => ⟨[], ?_, rfl⟩
  unfold CutInto
  show tokensFrom position rest = (tokensFrom position rest).map id
  cases tokensFrom position rest <;> rfl

/-! ## Texts in front of a parenthesis -/

/-- What stands behind a text that is put into another one: a closing parenthesis, or nothing. -/
def Closes (rest : List Char) : Prop :=
  ∀ c ∈ rest.head?, c = ')'

theorem not_canGoOn_closing (kind : TokenKind) (text : List Char) : ¬ CanGoOn kind text ')' := by
  have hdigit : Lexeme.isDigit ')' = false := by decide
  have hblank : Text.isBlank ')' = false := by decide
  have hword : Lexeme.isWordChar ')' = false := by decide
  cases kind <;> simp [CanGoOn, hdigit, hblank, hword]

theorem Closes.standsApart {rest : List Char} (h : Closes rest) : StandsApart rest := by
  intro kind text c hc
  rw [h c hc]
  exact not_canGoOn_closing kind text

section Munched

variable {position : Position} {token last : Token} {tokens : List Token} {rest : List Char}

/-- A text in front of a closing parenthesis is cut into its tokens. -/
theorem MunchedFrom.hasWords (h : MunchedFrom position (tokens ++ [last])) (hrest : Closes rest) :
    HasWords (spelling tokens) rest (words tokens) := by
  induction tokens generalizing position with
  | nil => exact .nil rest
  | cons token tokens ih =>
    obtain ⟨hkind, hshape, -, htail⟩ := h.uncons
    have hends := h.endsBefore_spelling hrest.standsApart
    have htoken : HasWords token.literal.toList (spelling tokens ++ rest) (words [token]) := by
      refine fun position => ⟨_, .token hkind hshape hends, ?_⟩
      by_cases hblank : token.kind = .whitespace
      · simp [words, withoutWhitespace, hblank]
      · rw [words_singleton _ hblank]
        exact words_singleton ⟨token.kind, token.literal, position⟩ hblank
    rw [spelling_cons, ← List.singleton_append, words_append]
    exact htoken.append (ih htail)

/-- One more blank in front of a text does not change its words. Where the text begins with
blanks itself, there is one longer run of them. -/
theorem MunchedFrom.hasWords_spaced (h : MunchedFrom position (tokens ++ [last]))
    (hrest : Closes rest) : HasWords ([' '] ++ spelling tokens) rest (words tokens) := by
  cases tokens with
  | nil =>
    refine HasWords.blanks " " hasShape_blank fun c hc => ?_
    rw [hrest c hc]
    decide
  | cons token tokens =>
    obtain ⟨hkind, hshape, -, htail⟩ := h.uncons
    by_cases hblank : token.kind = .whitespace
    · have hends := h.endsBefore_spelling hrest.standsApart
      rw [hblank] at hshape hends
      have hrun : HasShape .whitespace (" " ++ token.literal).toList := by
        rw [String.toList_append]
        refine ⟨List.cons_ne_nil _ _, fun c hc => ?_⟩
        rcases List.mem_cons.mp hc with rfl | hc
        · decide
        · exact hshape.2 c hc
      have hlonger := HasWords.blanks _ hrun fun c hc => Bool.eq_false_iff.mpr (hends c hc)
      have hwords : words (token :: tokens) = words tokens := by
        simp [words, withoutWhitespace, hblank]
      rw [String.toList_append] at hlonger
      rw [hwords, spelling_cons, ← List.append_assoc]
      exact hlonger.append (htail.hasWords hrest)
    · have hsolid : Solid (spelling (token :: tokens)) := by
        rw [spelling_cons]
        exact (solid_of_hasShape hshape hkind hblank).append _
      have hall : HasWords (spelling (token :: tokens)) rest (words (token :: tokens)) :=
        h.hasWords hrest
      exact (HasWords.blank (hsolid.append rest)).append hall

end Munched

/-! ## Trees whose tokens are somewhere else -/

/-- A tree that is spelled by some tokens can be read from tokens that differ in their places
only. -/
theorem Tree.SpelledBy.exists_of_unplaced {l : Level} {t : Tree (Sourced Connective) Condition l}
    {tokens tokens' : List Token} (h : t.SpelledBy tokens)
    (hsame : tokens'.map Token.unplaced = tokens.map Token.unplaced) :
    ∃ t' : Tree (Sourced Connective) Condition l, t'.SpelledBy tokens'
      ∧ t'.map Sourced.item Condition.shape = t.map Sourced.item Condition.shape := by
  induction t generalizing tokens tokens' with
  | leaf c =>
    obtain ⟨rfl, hc⟩ := spelledBy_leaf_iff.mp h
    obtain ⟨a, _, rfl, ha, hsame⟩ := List.map_eq_cons_iff.mp hsame
    obtain ⟨b, _, rfl, hb, hsame⟩ := List.map_eq_cons_iff.mp hsame
    obtain ⟨d, _, rfl, hd, hsame⟩ := List.map_eq_cons_iff.mp hsame
    obtain rfl := List.map_eq_nil_iff.mp hsame
    obtain ⟨hak, hal⟩ := Token.unplaced_eq_iff.mp ha
    obtain ⟨hbk, -⟩ := Token.unplaced_eq_iff.mp hb
    obtain ⟨hdk, hdl⟩ := Token.unplaced_eq_iff.mp hd
    refine ⟨leaf ⟨c.name, a, ⟨c.operator, b⟩, ⟨c.value, d⟩⟩, ?_, ?_⟩
    · refine spelledBy_leaf_iff.mpr ⟨rfl, hak.trans hc.identifier, hc.name.trans hal.symm, ?_, ?_⟩
      · exact (congrArg Comparison.ofKind? hbk).trans hc.comparison
      · show (d.kind = _ ∧ _ = Value.string d.literal) ∨ (d.kind = _ ∧ ∃ value,
          Binary64.ofText? d.literal.toList = _ ∧ _)
        rw [hdk, hdl]
        exact hc.literal
    · simp only [map, Condition.shape, hdl]
      rfl
  | group inner ih =>
    obtain ⟨opening, within, closing, rfl, hopening, hclosing, hinner⟩ :=
      spelledBy_group_iff.mp h
    rw [List.map_cons, List.map_append, List.map_eq_cons_iff] at hsame
    obtain ⟨opening', behind, rfl, hopening', hbehind⟩ := hsame
    obtain ⟨within', last, rfl, hwithin, hlast⟩ := List.map_eq_append_iff.mp hbehind
    obtain ⟨closing', _, rfl, hclosing', hnothing⟩ := List.map_eq_cons_iff.mp hlast
    obtain rfl := List.map_eq_nil_iff.mp hnothing
    obtain ⟨hopeningKind, -⟩ := Token.unplaced_eq_iff.mp hopening'
    obtain ⟨hclosingKind, -⟩ := Token.unplaced_eq_iff.mp hclosing'
    obtain ⟨inner', hinner', hshape⟩ := ih hinner hwithin
    refine ⟨group inner', spelledBy_group_iff.mpr ⟨opening', within', closing', rfl,
      hopeningKind.trans hopening, hclosingKind.trans hclosing, hinner'⟩, ?_⟩
    rw [map, map, hshape]
  | single operand ih =>
    obtain ⟨operand', hoperand, hshape⟩ := ih (spelledBy_single_iff.mp h) hsame
    refine ⟨single operand', spelledBy_single_iff.mpr hoperand, ?_⟩
    rw [map, map, hshape]
  | join operand joint rest ihOperand ihRest =>
    obtain ⟨front, back, rfl, hoperand, hjoint, hrest⟩ := spelledBy_join_iff.mp h
    rw [List.map_append, List.map_cons, List.map_eq_append_iff] at hsame
    obtain ⟨front', behind, rfl, hfront, hbehind⟩ := hsame
    obtain ⟨token', back', rfl, htoken, hback⟩ := List.map_eq_cons_iff.mp hbehind
    obtain ⟨operand', hoperand', hshapeOperand⟩ := ihOperand hoperand hfront
    obtain ⟨rest', hrest', hshapeRest⟩ := ihRest hrest hback
    refine ⟨join operand' ⟨joint.item, token'⟩ rest', ?_, ?_⟩
    · refine spelledBy_join_iff.mpr ⟨front', back', rfl, hoperand', ?_, hrest'⟩
      exact (congrArg Connective.ofKind? (Token.unplaced_eq_iff.mp htoken).1).trans hjoint
    · rw [map, map, hshapeOperand, hshapeRest]

/-! ## Reading joined texts -/

/-- The only end of the input is where all tokens in front of it have been passed. -/
theorem eq_length_of_ended {front : List Token} {last token : Token} {j : Nat}
    (hfront : ∀ token ∈ front, token.kind ≠ .endOfInput)
    (htoken : (front ++ [last])[j]? = some token) (hend : token.kind = .endOfInput) :
    j = front.length := by
  obtain ⟨hlength, -⟩ := List.getElem?_eq_some_iff.mp htoken
  rw [List.length_append, List.length_singleton] at hlength
  by_contra hne
  have hlt : j < front.length := by omega
  rw [List.getElem?_append_left hlt] at htoken
  exact hfront token (List.mem_of_getElem? htoken) hend

/-- What was read from a text is spelled by its tokens in front of the end of the input. -/
theorem Expr.spelledBy_of_ofText {text : String} {tokens : List Token} {last : Token} {e : Expr}
    (h : Expr.ofText text = .ok e) (htokens : tokenize text = .ok (tokens ++ [last]))
    (hlast : last.kind = .endOfInput) (hothers : ∀ token ∈ tokens, token.kind ≠ .endOfInput) :
    e.SpelledBy (withoutWhitespace tokens) := by
  rw [Expr.ofText, Cursor.ofText, htokens] at h
  obtain ⟨j, ⟨-, ⟨token, htoken, hend⟩, -⟩, hspelled⟩ := Cursor.exists_accepts_of_read h
  have hcursor : (Cursor.ofTokens (tokens ++ [last]) true).remaining
      = withoutWhitespace tokens ++ [last] := withoutWhitespace_ended hlast
  have htoken : (withoutWhitespace tokens ++ [last])[j]? = some token := by
    rw [← hcursor]
    exact htoken
  have hothers : ∀ token ∈ withoutWhitespace tokens, token.kind ≠ .endOfInput := fun t ht =>
    hothers t (List.mem_of_mem_filter ht)
  obtain rfl := eq_length_of_ended hothers htoken hend
  have hfront := Cursor.upTo_of_remaining hcursor
  rw [show (Cursor.ofTokens (tokens ++ [last]) true).index = 0 from rfl, Nat.zero_add] at hfront
  rwa [hfront] at hspelled

/-- A text that is read as an expression is cut into tokens, and these spell the expression. -/
theorem Expr.exists_munched_of_ofText {text : String} {e : Expr} (h : Expr.ofText text = .ok e) :
    ∃ tokens last, Munched (tokens ++ [last]) ∧ spelling tokens = text.toList
      ∧ e.SpelledBy (withoutWhitespace tokens) := by
  cases htokenize : tokenize text with
  | error error =>
    rw [Expr.ofText, Cursor.ofText, htokenize] at h
    cases h
  | ok all =>
    obtain ⟨hmunched, hspelling⟩ := munchedFrom_of_tokensFrom _ htokenize
    obtain ⟨tokens, rfl, hsame, hothers⟩ := hmunched.exists_end
    exact ⟨tokens, _, hmunched, hsame.trans hspelling,
      spelledBy_of_ofText h htokenize rfl hothers⟩

/-- A text whose words spell a tree is read as a tree of the same shape. -/
theorem Expr.exists_ofText_of_hasWords {text : String} (tokens : List Token) {e : Expr}
    (htext : HasWords text.toList [] (tokens.map Token.unplaced)) (he : e.SpelledBy tokens)
    (hdepth : e.depth ≤ maxNesting) :
    ∃ e', Expr.ofText text = .ok e' ∧ e'.shape = e.shape := by
  obtain ⟨cut, hcut, hwords⟩ := htext .start
  obtain ⟨e', he', hshape⟩ := he.exists_of_unplaced hwords
  have hshape : Expr.shape e' = e.shape := hshape
  unfold CutInto at hcut
  rw [List.append_nil, tokensFrom] at hcut
  refine ⟨e', Expr.ofText_eq_of_tokenize hcut rfl he' ?_, hshape⟩
  rwa [Expr.depth_eq_of_shape hshape]

section Joined

variable {A B : String} {a b : Expr}

/-- A token for each piece that joined texts are put together with, at no place in particular. -/
def Token.leftParen : Token := ⟨.leftParen, "(", .start⟩

def Token.rightParen : Token := ⟨.rightParen, ")", .start⟩

def Connective.joint (op : Connective) : Sourced Connective := op.reread .start

theorem closes_cons (rest : List Char) : Closes (')' :: rest) := by
  intro c hc
  exact (Option.mem_some_iff.mp hc).symm

/-- A text in parentheses has its own words between theirs. -/
theorem hasWords_parens {tokens : List Token} {last : Token} (h : Munched (tokens ++ [last]))
    (rest : List Char) :
    HasWords (['('] ++ (spelling tokens ++ [')'])) rest
      ([Token.leftParen] ++ (words tokens ++ [Token.rightParen])) := by
  have hleft : HasShape .leftParen "(".toList := rfl
  have hright : HasShape .rightParen ")".toList := rfl
  have hopening : HasWords ['('] (spelling tokens ++ [')'] ++ rest) [Token.leftParen] :=
    .piece (by decide) (by decide) hleft (fun _ _ => id)
  have hclosing : HasWords [')'] rest [Token.rightParen] :=
    .piece (by decide) (by decide) hright (fun _ _ => id)
  exact hopening.append ((h.hasWords (closes_cons rest)).append hclosing)

/-- A connective between blanks is one word. -/
theorem hasWords_joint (op : Connective) {text rest : List Char} {ws : List Token}
    (h : HasWords ([' '] ++ text) rest ws) :
    HasWords ([' '] ++ (op.keyword.toList ++ ([' '] ++ text))) rest ([op.joint.token] ++ ws) := by
  have hshape := op.hasShape_keyword
  obtain ⟨hend, hblank⟩ := op.tokenKind_ne
  have hkeyword : HasWords op.keyword.toList ([' '] ++ text ++ rest) [op.joint.token] := by
    intro position
    refine ⟨_, .piece hend hblank hshape (delimits_cons (Or.inl rfl)), ?_⟩
    exact words_singleton ⟨op.tokenKind, op.keyword, position⟩ hblank
  have hsolid := ((solid_of_hasShape hshape hend hblank).append ([' '] ++ text)).append rest
  exact (HasWords.blank hsolid).append (hkeyword.append h)

/-- Two texts in parentheses with a connective between them are read as the two trees joined, and
the second one need not stand in parentheses. -/
theorem Expr.exists_ofText_joined (op : Connective) (hA : Expr.ofText A = .ok a)
    (hB : Expr.ofText B = .ok b) (ha : a.depth < maxNesting) (hb : b.depth < maxNesting) :
    (∃ e, Expr.ofText ("(" ++ A ++ ") " ++ op.keyword ++ " (" ++ B ++ ")") = .ok e
        ∧ e.shape = Expr.shape (.join (.group a) op.joint (.single (.group b))))
      ∧ ∃ e, Expr.ofText ("(" ++ A ++ ") " ++ op.keyword ++ " " ++ B) = .ok e
        ∧ e.shape = Expr.shape (.join (.group a) op.joint b) := by
  obtain ⟨tokensA, lastA, hmunchedA, hspellingA, hspelledA⟩ := exists_munched_of_ofText hA
  obtain ⟨tokensB, lastB, hmunchedB, hspellingB, hspelledB⟩ := exists_munched_of_ofText hB
  have hfaithful : op.joint.Faithful := op.faithful_reread .start
  have hgroup : ∀ {tokens : List Token} {e : Expr}, e.SpelledBy (withoutWhitespace tokens) →
      (Tree.group e).SpelledBy
        (Token.leftParen :: (withoutWhitespace tokens ++ [Token.rightParen])) := fun he =>
    Tree.spelledBy_group_iff.mpr ⟨_, _, _, rfl, rfl, rfl, he⟩
  have hleft := hasWords_parens hmunchedA
  have hplaces : Token.leftParen.unplaced = Token.leftParen
      ∧ Token.rightParen.unplaced = Token.rightParen
      ∧ op.joint.token.unplaced = op.joint.token := ⟨rfl, rfl, rfl⟩
  constructor
  · refine exists_ofText_of_hasWords ((Token.leftParen :: (withoutWhitespace tokensA
      ++ [Token.rightParen])) ++ op.joint.token :: (Token.leftParen :: (withoutWhitespace tokensB
      ++ [Token.rightParen]))) ?_ ?_ ?_
    · have hspaced : HasWords ([' '] ++ (['('] ++ (spelling tokensB ++ [')']))) [] _ :=
        (HasWords.blank ⟨'(', rfl, by decide⟩).append (hasWords_parens hmunchedB [])
      have hall := (hleft _).append (hasWords_joint op hspaced)
      rw [hspellingA, hspellingB] at hall
      simpa [words, hplaces] using hall
    · exact Tree.spelledBy_join_iff.mpr ⟨_, _, rfl, hgroup hspelledA, hfaithful,
        Tree.spelledBy_single_iff.mpr (hgroup hspelledB)⟩
    · simp only [Tree.depth]
      omega
  · refine exists_ofText_of_hasWords ((Token.leftParen :: (withoutWhitespace tokensA
      ++ [Token.rightParen])) ++ op.joint.token :: withoutWhitespace tokensB) ?_ ?_ ?_
    · have hspaced : HasWords ([' '] ++ spelling tokensB) [] _ :=
        hmunchedB.hasWords_spaced fun c hc => by cases hc
      have hall := (hleft _).append (hasWords_joint op hspaced)
      rw [hspellingA, hspellingB] at hall
      simpa [words, hplaces] using hall
    · exact Tree.spelledBy_join_iff.mpr ⟨_, _, rfl, hgroup hspelledA, hfaithful, hspelledB⟩
    · simp only [Tree.depth]
      omega

end Joined

/-! ## Filters that do not regard places -/

/-- A callback accepts conditions of these shapes whatever its state is, and binds each to a test
that depends on its shape only. -/
def Callback.Accepts {σ ε μ : Type} (bind : Callback σ ε μ) (test : Condition.Shape → μ → Bool)
    (shapes : List Condition.Shape) : Prop :=
  ∀ c : Condition, c.shape ∈ shapes → ∀ s, ∃ s', (bind c).run.run s = (.ok (test c.shape), s')

/-- An expression is compiled to this, whatever the state of the callback is. -/
def Expr.CompilesTo {σ ε μ : Type} (e : Expr) (bind : Callback σ ε μ) (compiled : Compiled μ) :
    Prop :=
  ∀ s, ∃ s', (e.compile bind).run.run s = (.ok compiled, s')

namespace Compiled

variable {μ : Type}

/-- The conditions whose tests are run when a compiled expression is evaluated on a model, one
after the other and apart from their places. -/
def calls (compiled : Compiled μ) (model : μ) : List Condition.Shape :=
  ((compiled.evaluateNoting model).run []).2.map fun bound => bound.condition.shape

/-- A compiled expression is two others joined: it has the value of both joined, and it runs the
tests of the first one and behind them those of the second one, unless the first one decides. -/
structure Joins (joined : Compiled μ) (op : Connective) (left right : Compiled μ) : Prop where
  value (model : μ) :
    joined.evaluate model = op.combine (left.evaluate model) (right.evaluate model)
  calls (model : μ) :
    joined.calls model
      = left.calls model ++ if op.decides (left.evaluate model) then [] else right.calls model

variable {joined left right : Compiled μ}

/-- A filter by both of two expressions is one behind the other. -/
theorem Joins.filter_and (h : joined.Joins .and left right) (models : List μ) :
    joined.filter models = right.filter (left.filter models) := by
  show List.filter _ _ = List.filter _ (List.filter _ _)
  rw [List.filter_filter]
  refine List.filter_congr fun model _ => ?_
  rw [h.value, Bool.and_comm]
  rfl

/-- A filter by either of two expressions keeps what one of them keeps. -/
theorem Joins.filter_or (h : joined.Joins .or left right) (models : List μ) :
    joined.filter models
      = models.filter fun model => left.evaluate model || right.evaluate model :=
  List.filter_congr fun model _ => h.value model

end Compiled

section Shape

variable {σ ε μ : Type} {bind : Callback σ ε μ} {test : Condition.Shape → μ → Bool} {e : Expr}

/-- An expression with the tests that its conditions have by their shapes. -/
def Expr.withTests (e : Expr) (test : Condition.Shape → μ → Bool) : Compiled μ :=
  Tree.map id (fun c => ⟨c, test c.shape⟩) e

theorem Expr.compilesTo_withTests
    (h : Callback.Accepts bind test (e.conditions.map Condition.shape)) :
    e.CompilesTo bind (e.withTests test) :=
  compile_of_accepts fun c hc => h c (List.mem_map_of_mem hc)

theorem Expr.evaluate_withTests (model : μ) :
    (e.withTests test).evaluate model = e.shape.value id fun shape => test shape model := by
  rw [Compiled.evaluate_eq_value, withTests, Expr.shape, Tree.value_map, Tree.value_map]
  rfl

theorem Expr.calls_withTests (model : μ) :
    (e.withTests test).calls model = e.shape.consulted id fun shape => test shape model := by
  rw [Compiled.calls, Compiled.evaluateNoting_run, withTests, Expr.shape, Tree.consulted_map,
    Tree.consulted_map, List.nil_append, List.map_map]
  rfl

/-- An expression is compiled to two others joined, if its shape is that of these joined, up to
parentheses that neither the value nor the tests depend on. -/
theorem Expr.joins_withTests {left right : Expr} {op : Connective}
    {rest : Tree Connective Condition.Shape .chain}
    (h : e.shape = .join (.group left.shape) op rest)
    (hrest : ∀ holds, rest.value id holds = right.shape.value id holds
      ∧ rest.consulted id holds = right.shape.consulted id holds) :
    (e.withTests test).Joins op (left.withTests test) (right.withTests test) := by
  constructor
  · intro model
    rw [evaluate_withTests, evaluate_withTests, evaluate_withTests, h, ← (hrest _).1]
    rfl
  · intro model
    rw [calls_withTests, calls_withTests, calls_withTests, evaluate_withTests, h, ← (hrest _).2]
    rfl

end Shape

/-- **Texts of filters compose.** Two texts that are read as expressions, in parentheses and with a
connective between them, are read as an expression with the conditions of both. Its value is that
of the two values joined; the tests that are run are those of the first one and, unless that one
decides, those of the second one. Nothing of this changes if the second text does not stand in
parentheses. So filtering by both is filtering by one and then by the other, and filtering by
either keeps what one of them keeps. -/
theorem ofText_joined (A B : String) (a b : Expr) (op : Connective) (hA : Expr.ofText A = .ok a)
    (hB : Expr.ofText B = .ok b) (ha : a.depth ≤ maxNesting - 1) (hb : b.depth ≤ maxNesting - 1) :
    ∃ e half : Expr,
      Expr.ofText ("(" ++ A ++ ") " ++ op.keyword ++ " (" ++ B ++ ")") = .ok e
        ∧ Expr.ofText ("(" ++ A ++ ") " ++ op.keyword ++ " " ++ B) = .ok half
        ∧ e.conditions.map Condition.shape
            = a.conditions.map Condition.shape ++ b.conditions.map Condition.shape
        ∧ ∀ (σ ε μ : Type) (bind : Callback σ ε μ) (test : Condition.Shape → μ → Bool),
            Callback.Accepts bind test (e.conditions.map Condition.shape) →
              ∃ left right joined halfJoined : Compiled μ,
                (a.CompilesTo bind left ∧ b.CompilesTo bind right
                  ∧ e.CompilesTo bind joined ∧ half.CompilesTo bind halfJoined)
                ∧ joined.Joins op left right
                ∧ (∀ model, halfJoined.evaluate model = joined.evaluate model
                    ∧ halfJoined.calls model = joined.calls model)
                ∧ ∀ records,
                    (op = .and → joined.filter records = right.filter (left.filter records))
                      ∧ (op = .or → joined.filter records
                          = records.filter fun r => left.evaluate r || right.evaluate r) := by
  have hmax : maxNesting - 1 < maxNesting := by decide
  obtain ⟨⟨e, he, heshape⟩, half, hhalf, hhalfshape⟩ :=
    Expr.exists_ofText_joined op hA hB (Nat.lt_of_le_of_lt ha hmax) (Nat.lt_of_le_of_lt hb hmax)
  -- parentheses around the second part are seen in the shape only
  have hconditions : ∀ d : Expr, d.conditions.map Condition.shape = d.shape.leaves := fun d => by
    rw [Expr.shape, Tree.leaves_map]
    rfl
  have hejoin : e.shape = .join (.group a.shape) op (.single (.group b.shape)) := heshape
  have hhalfjoin : half.shape = .join (.group a.shape) op b.shape := hhalfshape
  have hleaves : e.conditions.map Condition.shape
      = a.conditions.map Condition.shape ++ b.conditions.map Condition.shape := by
    rw [hconditions, hconditions, hconditions, hejoin]
    rfl
  have hhalfleaves : half.conditions.map Condition.shape = e.conditions.map Condition.shape := by
    rw [hconditions, hconditions, hhalfjoin, hejoin]
    rfl
  refine ⟨e, half, he, hhalf, hleaves, fun σ ε μ bind test haccepts => ?_⟩
  have hjoined : (e.withTests test).Joins op (a.withTests test) (b.withTests test) :=
    Expr.joins_withTests hejoin fun _ => ⟨rfl, rfl⟩
  have hhalfJoined : (half.withTests test).Joins op (a.withTests test) (b.withTests test) :=
    Expr.joins_withTests hhalfjoin fun _ => ⟨rfl, rfl⟩
  refine ⟨a.withTests test, b.withTests test, e.withTests test, half.withTests test,
    ⟨?_, ?_, ?_, ?_⟩, hjoined, fun model => ⟨?_, ?_⟩, fun records => ⟨?_, ?_⟩⟩
  · refine Expr.compilesTo_withTests fun c hc => haccepts c ?_
    rw [hleaves]
    exact List.mem_append_left _ hc
  · refine Expr.compilesTo_withTests fun c hc => haccepts c ?_
    rw [hleaves]
    exact List.mem_append_right _ hc
  · exact Expr.compilesTo_withTests haccepts
  · refine Expr.compilesTo_withTests ?_
    rwa [hhalfleaves]
  · rw [hhalfJoined.value, hjoined.value]
  · rw [hhalfJoined.calls, hjoined.calls]
  · rintro rfl
    exact hjoined.filter_and records
  · rintro rfl
    exact hjoined.filter_or records

/-- A text with blanks on both sides and one in parentheses, where tests look for the name of a
field in a list. -/
theorem ofText_joined_names :
    let bind : Callback Nat String (List String) := fun c => do
      modify (· + 1)
      return fun model => c.name ∈ model
    ∃ a b e half : Expr,
      Expr.ofText " a = 'x' or b = 'y' " = .ok a ∧ Expr.ofText " (c != 'z')" = .ok b
        ∧ a.depth ≤ maxNesting - 1 ∧ b.depth ≤ maxNesting - 1
        ∧ Expr.ofText ("(" ++ " a = 'x' or b = 'y' " ++ ") " ++ "and" ++ " (" ++ " (c != 'z')" ++ ")")
          = .ok e
        ∧ Expr.ofText ("(" ++ " a = 'x' or b = 'y' " ++ ") " ++ "and" ++ " " ++ " (c != 'z')")
          = .ok half
        ∧ ∃ left right joined : Compiled (List String),
          a.CompilesTo bind left ∧ b.CompilesTo bind right ∧ e.CompilesTo bind joined
            ∧ joined.Joins .and left right := by
  intro bind
  have hread : ∀ text, ∀ depth,
      (Expr.ofText text).toOption.map Tree.depth = some depth → depth ≤ 127 →
        ∃ e, Expr.ofText text = .ok e ∧ e.depth ≤ maxNesting - 1 := by
    intro text depth h hdepth
    cases he : Expr.ofText text with
    | error error =>
      rw [he] at h
      cases h
    | ok e =>
      rw [he] at h
      obtain rfl : e.depth = depth := Option.some.inj h
      exact ⟨e, rfl, hdepth⟩
  obtain ⟨a, hA, ha⟩ := hread " a = 'x' or b = 'y' " 0 (by decide +kernel) (by decide)
  obtain ⟨b, hB, hb⟩ := hread " (c != 'z')" 1 (by decide +kernel) (by decide)
  obtain ⟨e, half, he, hhalf, -, hfilter⟩ := ofText_joined _ _ a b .and hA hB ha hb
  have haccepts : Callback.Accepts bind (fun shape model => decide (shape.name ∈ model))
      (e.conditions.map Condition.shape) := fun _ _ s => ⟨s + 1, rfl⟩
  obtain ⟨left, right, joined, -, ⟨hleft, hright, hjoined, -⟩, hjoins, -⟩ :=
    hfilter _ _ _ bind _ haccepts
  exact ⟨a, b, e, half, hA, hB, ha, hb, he, hhalf, left, right, joined, hleft, hright, hjoined,
    hjoins⟩

end RecordFilter
