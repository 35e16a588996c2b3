import RecordFilter.Proofs.Token.Lexeme
import RecordFilter.Token.Scan

/-!
# Texts and their tokens

Which lists of tokens a text can be cut into. A list is *munched* if it ends in the one token for
the end of the input, every text has the shape of its kind, no token could have gone on with the
character behind it, and every token stands where the texts before it end. The main statement,
`tokenize_eq_ok_iff`, says that `tokenize` is a bijection between the texts that it accepts and
the munched lists: a text has the tokens that are munched and spell it, and no others.

Everything is proved from one step: `tokensFrom_append` cuts a token off a text, and
`exists_of_tokensFrom_cons` says that nothing else is ever cut off.
-/

namespace RecordFilter

/-! ## Munched lists -/

/-- The text that tokens were made from. -/
def spelling (tokens : List Token) : List Char :=
  tokens.flatMap fun token => token.literal.toList

@[simp] theorem spelling_nil : spelling [] = [] := rfl

@[simp] theorem spelling_cons (token : Token) (tokens : List Token) :
    spelling (token :: tokens) = token.literal.toList ++ spelling tokens := rfl

/-- The lists of tokens that a text starting at a place can be cut into. -/
structure MunchedFrom (position : Position) (tokens : List Token) : Prop where
  /-- There is one token for the end of the input, and it is the last one. -/
  ended : ∃ others last, tokens = others ++ [last] ∧ last.kind = .endOfInput
    ∧ ∀ token ∈ others, token.kind ≠ .endOfInput
  /-- Every other token has a text. -/
  nonempty : ∀ token ∈ tokens, token.kind ≠ .endOfInput → token.literal.toList ≠ []
  /-- Every text has the shape of its kind. -/
  shaped : ∀ token ∈ tokens, HasShape token.kind token.literal.toList
  /-- No token could have gone on with the character behind it. -/
  maximal : tokens.IsChain fun token next =>
    EndsBefore token.kind token.literal.toList next.literal.toList
  /-- Every token stands where the texts before it end. -/
  placed : ∀ before token after, tokens = before ++ token :: after →
    token.position = position.after (spelling before)

/-- The lists of tokens that a text can be cut into. -/
abbrev Munched (tokens : List Token) : Prop := MunchedFrom .start tokens

/-- A text that no token in front of it goes on with. -/
def StandsApart (rest : List Char) : Prop :=
  ∀ kind text, EndsBefore kind text rest

theorem standsApart_nil : StandsApart [] := by
  intro kind text c hc
  cases hc

namespace MunchedFrom

variable {position : Position} {token next : Token} {tokens : List Token}

theorem ne_nil (h : MunchedFrom position tokens) : tokens ≠ [] := by
  obtain ⟨others, last, rfl, -, -⟩ := h.ended
  exact List.append_ne_nil_of_right_ne_nil _ (List.cons_ne_nil _ _)

/-- The token for the end of the input has no text and stands behind all the others. -/
theorem exists_end (h : MunchedFrom position tokens) :
    ∃ others, tokens = others ++ [⟨.endOfInput, "", position.after (spelling others)⟩]
      ∧ spelling others = spelling tokens ∧ ∀ token ∈ others, token.kind ≠ .endOfInput := by
  obtain ⟨others, last, rfl, hkind, hothers⟩ := h.ended
  have hshape := h.shaped last (List.mem_append_right _ (List.mem_singleton_self _))
  have hplace := h.placed others last [] rfl
  obtain ⟨kind, literal, place⟩ := last
  obtain rfl : kind = .endOfInput := hkind
  obtain rfl : literal = "" := String.toList_eq_nil_iff.mp hshape
  obtain rfl : place = position.after (spelling others) := hplace
  exact ⟨others, rfl, by simp [spelling], hothers⟩

theorem singleton_iff :
    MunchedFrom position [token] ↔ token = ⟨.endOfInput, "", position⟩ := by
  constructor
  · intro h
    obtain ⟨others, hsplit, -, -⟩ := h.exists_end
    have hsplit' : [] ++ [token] = others ++ [_] := hsplit
    obtain ⟨rfl, hlast⟩ := List.append_inj' hsplit' rfl
    exact List.singleton_inj.mp hlast
  · rintro rfl
    refine ⟨⟨[], _, rfl, rfl, by simp⟩, ?_, ?_, List.isChain_singleton _, ?_⟩
    · intro t ht hkind
      obtain rfl := List.mem_singleton.mp ht
      exact absurd rfl hkind
    · intro t ht
      obtain rfl := List.mem_singleton.mp ht
      rfl
    · intro before t after hsplit
      cases before with
      | nil =>
        obtain ⟨rfl, -⟩ := List.cons.inj hsplit
        rfl
      | cons t' before => simp at hsplit

theorem cons_cons_iff :
    MunchedFrom position (token :: next :: tokens) ↔
      token.kind ≠ .endOfInput ∧ HasShape token.kind token.literal.toList
        ∧ EndsBefore token.kind token.literal.toList next.literal.toList
        ∧ token.position = position
        ∧ MunchedFrom (position.after token.literal.toList) (next :: tokens) := by
  constructor
  · intro h
    obtain ⟨others, last, hsplit, hkind, hothers⟩ := h.ended
    cases others with
    | nil => simp at hsplit
    | cons t others =>
      obtain ⟨rfl, hrest⟩ := List.cons.inj hsplit
      have hchain := List.isChain_cons_cons.mp h.maximal
      refine ⟨hothers token (List.mem_cons_self ..), h.shaped token (List.mem_cons_self ..),
        hchain.1, h.placed [] token _ rfl, ?_⟩
      exact {
        ended := ⟨others, last, hrest, hkind, fun t ht => hothers t (List.mem_cons_of_mem _ ht)⟩
        nonempty := fun t ht => h.nonempty t (List.mem_cons_of_mem _ ht)
        shaped := fun t ht => h.shaped t (List.mem_cons_of_mem _ ht)
        maximal := hchain.2
        placed := fun before t after hsplit => by
          have hplace := h.placed (token :: before) t after (by rw [hsplit, List.cons_append])
          rw [hplace, spelling_cons, Position.after_append] }
  · rintro ⟨hkind, hshape, hends, hplace, h⟩
    obtain ⟨others, last, hsplit, hlast, hothers⟩ := h.ended
    exact {
      ended := by
        refine ⟨token :: others, last, by rw [hsplit, List.cons_append], hlast, fun t ht => ?_⟩
        rcases List.mem_cons.mp ht with rfl | ht
        · exact hkind
        · exact hothers t ht
      nonempty := fun t ht hne => by
        rcases List.mem_cons.mp ht with rfl | ht
        · exact ne_nil_of_hasShape hshape hkind
        · exact h.nonempty t ht hne
      shaped := fun t ht => by
        rcases List.mem_cons.mp ht with rfl | ht
        · exact hshape
        · exact h.shaped t ht
      maximal := List.isChain_cons_cons.mpr ⟨hends, h.maximal⟩
      placed := fun before t after hsplit => by
        cases before with
        | nil =>
          obtain ⟨rfl, -⟩ := List.cons.inj hsplit
          exact hplace
        | cons t' before =>
          obtain ⟨rfl, hrest⟩ := List.cons.inj hsplit
          rw [h.placed before t after hrest, spelling_cons, Position.after_append] }

/-- What a munched list spells begins like the text of its first token: either that has a
character, or the list spells nothing. -/
theorem head?_spelling (h : MunchedFrom position (token :: tokens)) :
    (spelling (token :: tokens)).head? = token.literal.toList.head? := by
  cases tokens with
  | nil => rw [spelling_cons, spelling_nil, List.append_nil]
  | cons next tokens =>
    obtain ⟨hkind, hshape, -⟩ := cons_cons_iff.mp h
    rw [spelling_cons, List.head?_append_of_ne_nil _ (ne_nil_of_hasShape hshape hkind)]

/-- The first of several tokens, and the others. -/
theorem uncons {last : Token} (h : MunchedFrom position (token :: (tokens ++ [last]))) :
    token.kind ≠ .endOfInput ∧ HasShape token.kind token.literal.toList
      ∧ token.position = position
      ∧ MunchedFrom (position.after token.literal.toList) (tokens ++ [last]) := by
  cases tokens with
  | nil =>
    obtain ⟨hkind, hshape, -, hplace, hothers⟩ := cons_cons_iff.mp h
    exact ⟨hkind, hshape, hplace, hothers⟩
  | cons next tokens =>
    obtain ⟨hkind, hshape, -, hplace, hothers⟩ := cons_cons_iff.mp h
    exact ⟨hkind, hshape, hplace, hothers⟩

/-- The first of several tokens ends where it does, also if something stands behind the text. -/
theorem endsBefore_spelling {last : Token} {rest : List Char}
    (h : MunchedFrom position (token :: (tokens ++ [last]))) (hrest : StandsApart rest) :
    EndsBefore token.kind token.literal.toList (spelling tokens ++ rest) := by
  cases tokens with
  | nil => exact hrest _ _
  | cons next tokens =>
    obtain ⟨-, -, hends, -, hothers⟩ := cons_cons_iff.mp h
    -- the next token is not the last one, so it has a text
    obtain ⟨hkind, hshape, -, -⟩ := uncons hothers
    have hne : next.literal.toList ≠ [] := ne_nil_of_hasShape hshape hkind
    intro c hc
    rw [spelling_cons, List.append_assoc, List.head?_append_of_ne_nil _ hne] at hc
    exact hends c hc

end MunchedFrom

/-! ## Without blanks -/

section Blanks

variable {token : Token} {front back : List Token}

theorem withoutWhitespace_append :
    withoutWhitespace (front ++ back) = withoutWhitespace front ++ withoutWhitespace back :=
  List.filter_append ..

theorem withoutWhitespace_singleton (h : token.kind ≠ .whitespace) :
    withoutWhitespace [token] = [token] := by
  simp [withoutWhitespace, h]

/-- The end of the input is no blank. -/
theorem withoutWhitespace_ended (h : token.kind = .endOfInput) :
    withoutWhitespace (front ++ [token]) = withoutWhitespace front ++ [token] := by
  rw [withoutWhitespace_append, withoutWhitespace_singleton (by rw [h]; decide)]

end Blanks

/-- Without its blanks a munched list still ends in the token for the end of the input. -/
theorem MunchedFrom.exists_withoutWhitespace {position : Position} {tokens : List Token}
    (h : MunchedFrom position tokens) :
    ∃ others last, withoutWhitespace tokens = others ++ [last] ∧ last.kind = .endOfInput := by
  obtain ⟨others, last, rfl, hkind, -⟩ := h.ended
  exact ⟨withoutWhitespace others, last, withoutWhitespace_ended hkind, hkind⟩

/-! ## One step of the scan -/

/-- A text of a shape that ends where it does is cut off as one token. -/
theorem tokensFrom_append {kind : TokenKind} {text rest : List Char} (position : Position)
    (hkind : kind ≠ .endOfInput) (hshape : HasShape kind text)
    (hends : EndsBefore kind text rest) :
    tokensFrom position (text ++ rest)
      = (tokensFrom (position.after text) rest).map
          fun tokens => ⟨kind, String.ofList text, position⟩ :: tokens := by
  cases text with
  | nil => exact absurd rfl (ne_nil_of_hasShape hshape hkind)
  | cons c a =>
    have hcut := lexeme_append_of_hasShape hshape hends
    rw [List.cons_append, tokensFrom, hcut]
    simp only [List.take_left, List.drop_left]
    cases tokensFrom (position.after (c :: a)) rest <;> rfl

/-- The tokens of a text are cut off it, whatever stands behind it, if no token goes on with
that. -/
theorem tokensFrom_spelling_append {position : Position} {tokens : List Token} {last : Token}
    {rest : List Char} (h : MunchedFrom position (tokens ++ [last])) (hrest : StandsApart rest) :
    tokensFrom position (spelling tokens ++ rest)
      = (tokensFrom (position.after (spelling tokens)) rest).map
        fun others => tokens ++ others := by
  induction tokens generalizing position with
  | nil =>
    show tokensFrom position rest = (tokensFrom position rest).map id
    cases tokensFrom position rest <;> rfl
  | cons token tokens ih =>
    obtain ⟨hkind, hshape, rfl, hothers⟩ := MunchedFrom.uncons h
    have hends := MunchedFrom.endsBefore_spelling h hrest
    rw [spelling_cons, List.append_assoc, tokensFrom_append _ hkind hshape hends, ih hothers,
      Position.after_append, String.ofList_toList]
    cases tokensFrom ((token.position.after token.literal.toList).after (spelling tokens)) rest <;>
      rfl

/-- Whatever is cut off is a text of a shape that ends where it does. -/
theorem exists_of_tokensFrom_cons {position : Position} {c : Char} {rest : List Char}
    {tokens : List Token} (h : tokensFrom position (c :: rest) = .ok tokens) :
    ∃ kind text after others, c :: rest = text ++ after ∧ kind ≠ .endOfInput
      ∧ HasShape kind text ∧ EndsBefore kind text after
      ∧ tokensFrom (position.after text) after = .ok others
      ∧ tokens = ⟨kind, String.ofList text, position⟩ :: others := by
  rw [tokensFrom] at h
  split at h
  · cases h
  · next kind tail hlexeme =>
    obtain ⟨a, b, rfl, rfl, hshape, hends⟩ := hasShape_of_lexeme hlexeme
    simp only [List.take_left, List.drop_left] at h
    split at h
    · next others hothers =>
      cases h
      refine ⟨kind, c :: a, b, others, rfl, ?_, hshape, hends, hothers, rfl⟩
      rintro rfl
      cases hshape
    · cases h

/-! ## Whole texts -/

/-- The tokens of a text are munched and spell the text. -/
theorem munchedFrom_of_tokensFrom (text : List Char) : ∀ {position : Position}
    {tokens : List Token}, tokensFrom position text = .ok tokens →
      MunchedFrom position tokens ∧ spelling tokens = text := by
  -- on the length: what is left behind a token is shorter, but no tail of the text by itself
  induction hn : text.length using Nat.strong_induction_on generalizing text with
  | _ n ih =>
    intro position tokens h
    cases text with
    | nil =>
      rw [tokensFrom] at h
      cases h
      exact ⟨MunchedFrom.singleton_iff.mpr rfl, rfl⟩
    | cons c rest =>
      obtain ⟨kind, text, after, others, hsplit, hkind, hshape, hends, hothers, rfl⟩ :=
        exists_of_tokensFrom_cons h
      have hlen : after.length < n := by
        have hpos := List.length_pos_iff.mpr (ne_nil_of_hasShape hshape hkind)
        rw [← hn, hsplit, List.length_append]
        omega
      obtain ⟨hmunched, hspelling⟩ := ih after.length hlen after rfl hothers
      have hliteral : (String.ofList text).toList = text := String.toList_ofList
      constructor
      -- what follows the token begins like the next one, which is never missing
      · cases others with
        | nil => exact absurd rfl hmunched.ne_nil
        | cons next others =>
          rw [MunchedFrom.cons_cons_iff]
          simp only [hliteral, true_and]
          refine ⟨hkind, hshape, fun d hd => hends d ?_, hmunched⟩
          rwa [← hspelling, hmunched.head?_spelling]
      · rw [spelling_cons, hspelling, hsplit, hliteral]

/-- A munched list is what the text that it spells is cut into. -/
theorem tokensFrom_spelling {position : Position} {tokens : List Token}
    (h : MunchedFrom position tokens) : tokensFrom position (spelling tokens) = .ok tokens := by
  induction tokens generalizing position with
  | nil => exact absurd rfl h.ne_nil
  | cons token tokens ih =>
    -- the last token is the end of the input, every other one is cut off in front of the next
    cases tokens with
    | nil =>
      obtain rfl := MunchedFrom.singleton_iff.mp h
      show tokensFrom position [] = _
      rw [tokensFrom]
    | cons next tokens =>
      obtain ⟨hkind, hshape, hends, rfl, hnext⟩ := MunchedFrom.cons_cons_iff.mp h
      have hends' : EndsBefore token.kind token.literal.toList (spelling (next :: tokens)) := by
        intro d hd
        rw [hnext.head?_spelling] at hd
        exact hends d hd
      rw [spelling_cons, tokensFrom_append _ hkind hshape hends', ih hnext, String.ofList_toList]
      rfl

/-- **Tokens are the munched lists.** `tokenize` gives a text the one list of tokens that is
munched and spells the text, and every munched list is given to the text that it spells. -/
theorem tokenize_eq_ok_iff (text : String) (tokens : List Token) :
    tokenize text = .ok tokens ↔ Munched tokens ∧ spelling tokens = text.toList := by
  constructor
  · intro h
    exact munchedFrom_of_tokensFrom text.toList h
  · rintro ⟨hmunched, hspelling⟩
    rw [tokenize, ← hspelling]
    exact tokensFrom_spelling hmunched

end RecordFilter
