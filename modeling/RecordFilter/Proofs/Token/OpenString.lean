import RecordFilter.Proofs.Token.Scan

/-!
# Texts that are no tokens

`tokenize` has one way to fail: a string that its text never closes. Here the texts that it
refuses are described without it. Such a text is a front that has tokens, a quote, and a body in
which that quote stands nowhere unescaped (`LeavesOpen`). There is only one way to see a text so,
because a front that reached beyond the quote would itself leave the string open, and the
complaint points at the quote. What is missing is never more than the quote, or one character and
the quote if the text breaks off behind a backslash.

Everything rests on two facts about one token: a string that its text does not close is no lexeme
(`stringTail_eq_none_iff`), and no token goes on with a quote (`standsApart_quote`), so that what
stands in front of a quote has the tokens that it has by itself.
-/

namespace RecordFilter

open Lexeme

/-! ## Bodies that a text does not close -/

/-- A body that breaks off behind a backslash, in front of the character that it takes along. -/
def EndsInEscape (quote : Char) (text : List Char) : Prop :=
  ∃ front, StringBody quote front ∧ text = front ++ ['\\']

/-- A text in which a quote stands nowhere unescaped, so that a string could be going on at its
end. -/
def OpenBody (quote : Char) (text : List Char) : Prop :=
  StringBody quote text ∨ EndsInEscape quote text

theorem OpenBody.escaped {quote : Char} (c : Char) {rest : List Char} (h : OpenBody quote rest) :
    OpenBody quote ('\\' :: c :: rest) := by
  rcases h with h | ⟨front, h, rfl⟩
  · exact .inl (.escaped c h)
  · exact .inr ⟨'\\' :: c :: front, .escaped c h, rfl⟩

theorem OpenBody.plain {quote c : Char} {rest : List Char} (hesc : c ≠ '\\') (hquote : c ≠ quote)
    (h : OpenBody quote rest) : OpenBody quote (c :: rest) := by
  rcases h with h | ⟨front, h, rfl⟩
  · exact .inl (.plain hesc hquote h)
  · exact .inr ⟨c :: front, .plain hesc hquote h, rfl⟩

theorem StringBody.append {quote : Char} {a b : List Char} (ha : StringBody quote a)
    (hb : StringBody quote b) : StringBody quote (a ++ b) := by
  induction ha with
  | nil => exact hb
  | escaped c _ ih => exact .escaped c ih
  | plain hesc hquote _ ih => exact .plain hesc hquote ih

/-- A string has no end exactly if its quote does not come back unescaped. -/
theorem stringTail_eq_none_iff {quote : Char} (hquote : quote ≠ '\\') {text : List Char} :
    stringTail quote text = none ↔ OpenBody quote text := by
  constructor
  · intro h
    fun_induction stringTail quote text with
    | case1 => exact .inl .nil
    | case2 c rest ih => exact (ih (Option.map_eq_none_iff.mp h)).escaped c
    | case3 rest hnot => cases h
    | case4 c rest hnot hc ih =>
      have hrest := ih (Option.map_eq_none_iff.mp h)
      by_cases hesc : c = '\\'
      -- with a backslash the text is over, or the clause before would have taken it
      · cases rest with
        | nil => exact .inr ⟨[], .nil, by rw [hesc, List.nil_append]⟩
        | cons d rest => exact (hnot d rest hesc rfl).elim
      · exact hrest.plain hesc hc
  · rintro (h | ⟨front, h, rfl⟩)
    · have hnone := stringTail_append h []
      rwa [List.append_nil] at hnone
    · have hlast : stringTail quote ['\\'] = none := by
        simp [stringTail, Ne.symm hquote]
      rw [stringTail_append h, hlast, Option.map_none]

/-- What stands at the front of an open body is an open body. -/
theorem OpenBody.of_append {quote : Char} (hquote : quote ≠ '\\') {a b : List Char}
    (h : OpenBody quote (a ++ b)) : OpenBody quote a := by
  rw [← stringTail_eq_none_iff hquote] at h ⊢
  by_contra hne
  obtain ⟨tail, htail⟩ := Option.ne_none_iff_exists'.mp hne
  obtain ⟨body, rest, rfl, hbody, -⟩ := stringBody_of_stringTail htail
  have hclosed := stringTail_of_stringBody hquote hbody (rest ++ b)
  rw [List.append_assoc, List.cons_append, hclosed] at h
  cases h

/-! ## Quotes in a scan -/

/-- No token goes on with a quote. -/
theorem standsApart_quote {quote : Char} (h : isQuote quote = true) (rest : List Char) :
    StandsApart (quote :: rest) := by
  intro kind text c hc hgo
  obtain rfl : quote = c := Option.some.inj hc
  rcases eq_of_isQuote h with rfl | rfl <;> cases kind <;>
    simp [CanGoOn, isWordChar, isDigit, Text.isBlank] at hgo

/-- A string that is left open has no tokens. -/
theorem tokensFrom_openBody {quote : Char} {body : List Char} (hquote : isQuote quote = true)
    (hbody : OpenBody quote body) (position : Position) :
    tokensFrom position (quote :: body) = .error (.unterminatedString position) := by
  have hnone := (stringTail_eq_none_iff (ne_backslash_of_isQuote hquote)).mpr hbody
  rw [tokensFrom, lexeme_of_isQuote _ hquote, hnone]
  rfl

/-- The tokens of a quoted text: a string and the end of the input. -/
def quotedTokens (quote : Char) (body : List Char) (position : Position) : List Token :=
  [⟨.string, String.ofList (quote :: (body ++ [quote])), position⟩,
    ⟨.endOfInput, "", position.after (quote :: (body ++ [quote]))⟩]

theorem tokensFrom_quoted {quote : Char} {body : List Char} (hquote : isQuote quote = true)
    (hbody : StringBody quote body) (position : Position) :
    tokensFrom position (quote :: (body ++ [quote])) = .ok (quotedTokens quote body position) := by
  have hshape : HasShape .string (quote :: (body ++ [quote])) := ⟨quote, body, hquote, hbody, rfl⟩
  have hcut := tokensFrom_append position (by decide) hshape (standsApart_nil _ _)
  rw [List.append_nil, tokensFrom] at hcut
  exact hcut

/-- What a text in front of a quote has tokens for, and what the whole text has, whatever the
quote begins. -/
theorem tokensFrom_append_quote {position : Position} {front : List Char} {tokens : List Token}
    {quote : Char} (h : tokensFrom position front = .ok tokens) (hquote : isQuote quote = true)
    (rest : List Char) :
    ∃ others last, tokens = others ++ [last]
      ∧ last = ⟨.endOfInput, "", position.after front⟩
      ∧ tokensFrom position (front ++ quote :: rest)
          = (tokensFrom (position.after front) (quote :: rest)).map fun more => others ++ more := by
  obtain ⟨hmunched, hspelling⟩ := munchedFrom_of_tokensFrom front h
  obtain ⟨others, hends, hothers, -⟩ := hmunched.exists_end
  rw [hspelling] at hothers
  rw [hothers] at hends
  refine ⟨others, _, hends, rfl, ?_⟩
  rw [hends] at hmunched
  have hcut := tokensFrom_spelling_append hmunched (standsApart_quote hquote rest)
  rwa [hothers] at hcut

/-- The only texts that begin with no token are strings that are left open. -/
theorem lexeme_eq_none_iff {c : Char} {rest : List Char} :
    lexeme c rest = none ↔ isQuote c = true ∧ OpenBody c rest := by
  constructor
  · intro h
    by_cases hquote : isQuote c = true
    · rw [lexeme_of_isQuote rest hquote, Option.map_eq_none_iff] at h
      exact ⟨hquote, (stringTail_eq_none_iff (ne_backslash_of_isQuote hquote)).mp h⟩
    -- every other family of tokens has an answer
    · unfold lexeme at h
      split_ifs at h
  · rintro ⟨hquote, hbody⟩
    have hnone := (stringTail_eq_none_iff (ne_backslash_of_isQuote hquote)).mpr hbody
    rw [lexeme_of_isQuote rest hquote, hnone, Option.map_none]

theorem EndsBefore.of_append {kind : TokenKind} {text a b : List Char}
    (h : EndsBefore kind text (a ++ b)) : EndsBefore kind text a :=
  fun c hc => h c (List.mem_head?_append_of_mem_head? hc)

/-- A text that has no tokens leaves a string open, and the complaint is about that. -/
theorem exists_of_tokensFrom_error (text : List Char) : ∀ {position : Position} {error : ExprError},
    tokensFrom position text = .error error →
      ∃ front quote body, text = front ++ quote :: body
        ∧ (∃ tokens, tokensFrom position front = .ok tokens) ∧ isQuote quote = true
        ∧ OpenBody quote body ∧ error = .unterminatedString (position.after front) := by
  -- on the length: what is left behind a token is shorter, but no tail of the text by itself
  induction hn : text.length using Nat.strong_induction_on generalizing text with
  | _ n ih =>
    intro position error h
    cases text with
    | nil =>
      rw [tokensFrom] at h
      cases h
    | cons c rest =>
      cases hlexeme : lexeme c rest with
      | none =>
        obtain ⟨hquote, hbody⟩ := lexeme_eq_none_iff.mp hlexeme
        rw [tokensFrom_openBody hquote hbody] at h
        cases h
        exact ⟨[], c, rest, rfl, ⟨_, by rw [tokensFrom]⟩, hquote, hbody, rfl⟩
      | some cut =>
        obtain ⟨kind, tail⟩ := cut
        obtain ⟨a, b, rfl, -, hshape, hends⟩ := hasShape_of_lexeme hlexeme
        have hkind : kind ≠ .endOfInput := by
          intro hkind
          rw [hkind] at hshape
          cases hshape
        rw [← List.cons_append, tokensFrom_append position hkind hshape hends] at h
        -- the token is no part of the complaint, so what follows it has none
        have hrest : tokensFrom (position.after (c :: a)) b = .error error := by
          cases hb : tokensFrom (position.after (c :: a)) b with
          | ok others => rw [hb] at h; cases h
          | error e => rw [hb] at h; cases h; rfl
        have hlen : b.length < n := by
          rw [← hn, List.length_cons, List.length_append]
          omega
        obtain ⟨front, quote, body, rfl, ⟨tokens, htokens⟩, hquote, hbody, rfl⟩ :=
          ih b.length hlen b rfl hrest
        have hfront := tokensFrom_append position hkind hshape hends.of_append
        rw [htokens] at hfront
        exact ⟨(c :: a) ++ front, quote, body, by simp, ⟨_, hfront⟩, hquote, hbody,
          by rw [Position.after_append]⟩

/-! ## The texts that are refused -/

/-- A way to see a text as a front that has tokens, a quote, and a body in which the quote stands
nowhere unescaped. -/
structure LeavesOpen (text front : String) (quote : Char) (body : List Char) : Prop where
  split : text.toList = front.toList ++ quote :: body
  cut : ∃ tokens, tokenize front = .ok tokens
  opened : isQuote quote = true
  unclosed : OpenBody quote body

namespace LeavesOpen

variable {text front : String} {quote : Char} {body : List Char}

theorem tokenize_eq (h : LeavesOpen text front quote body) :
    tokenize text = .error (.unterminatedString (Position.start.after front.toList)) := by
  obtain ⟨tokens, htokens⟩ := h.cut
  obtain ⟨others, last, -, -, hcut⟩ := tokensFrom_append_quote htokens h.opened body
  rw [tokensFrom_openBody h.opened h.unclosed] at hcut
  rw [tokenize, h.split, hcut]
  rfl

/-- A front cannot reach beyond the quote of another one. -/
theorem front_eq_of_append {front' : String} {quote' : Char} {body' : List Char}
    (h : LeavesOpen text front quote body) (h' : LeavesOpen text front' quote' body')
    {more : List Char} (hmore : front'.toList = front.toList ++ more) : more = [] := by
  have hsplit := h'.split
  rw [h.split, hmore, List.append_assoc, List.append_cancel_left_eq] at hsplit
  cases more with
  | nil => rfl
  | cons c more =>
    -- otherwise it would leave the string open itself, and so have no tokens
    obtain ⟨rfl, rfl⟩ := List.cons.inj hsplit
    have hopen := h.unclosed.of_append (ne_backslash_of_isQuote h.opened)
    have hfails := tokenize_eq ⟨hmore, h.cut, h.opened, hopen⟩
    obtain ⟨tokens, htokens⟩ := h'.cut
    rw [hfails] at htokens
    cases htokens

/-- There is one way at most to see a text so. -/
theorem unique {front' : String} {quote' : Char} {body' : List Char}
    (h : LeavesOpen text front quote body) (h' : LeavesOpen text front' quote' body') :
    front' = front ∧ quote' = quote ∧ body' = body := by
  have hsplit := h.split.symm.trans h'.split
  have hfront : front'.toList = front.toList := by
    rcases List.append_eq_append_iff.mp hsplit with ⟨more, hmore, -⟩ | ⟨more, hmore, -⟩
    · rw [hmore, h.front_eq_of_append h' hmore, List.append_nil]
    · rw [hmore, h'.front_eq_of_append h hmore, List.append_nil]
  rw [hfront, List.append_cancel_left_eq] at hsplit
  obtain ⟨hquote, hbody⟩ := List.cons.inj hsplit
  exact ⟨String.toList_injective hfront, hquote.symm, hbody.symm⟩

end LeavesOpen

/-- A text that is refused leaves a string open. -/
theorem exists_leavesOpen {text : String} {error : ExprError} (h : tokenize text = .error error) :
    ∃ front quote body, LeavesOpen text front quote body := by
  obtain ⟨front, quote, body, hsplit, ⟨tokens, htokens⟩, hquote, hbody, -⟩ :=
    exists_of_tokensFrom_error text.toList h
  refine ⟨String.ofList front, quote, body, ?_, ⟨tokens, ?_⟩, hquote, hbody⟩
  · rw [String.toList_ofList, hsplit]
  · rw [tokenize, String.toList_ofList, htokens]

/-- A text with a string at its end that is closed has the tokens of what stands in front, and
the string. -/
theorem tokenize_quoted {text front : String} {tokens : List Token} {last : Token} {quote : Char}
    {body : List Char} (htokens : tokenize front = .ok (tokens ++ [last]))
    (hquote : isQuote quote = true) (hbody : StringBody quote body)
    (htext : text.toList = front.toList ++ quote :: (body ++ [quote])) :
    tokenize text = .ok (tokens ++ quotedTokens quote body last.position) := by
  obtain ⟨others, last', hends, hlast, hcut⟩ :=
    tokensFrom_append_quote htokens hquote (body ++ [quote])
  obtain ⟨rfl, hlast'⟩ := List.append_inj' hends rfl
  obtain rfl := List.singleton_inj.mp hlast'
  rw [tokensFrom_quoted hquote hbody] at hcut
  rw [tokenize, htext, hcut, hlast]
  rfl

/-- **A text is refused exactly if it leaves a string open.** The string is the only one that it
leaves open, the complaint points at its quote, and the text is one quote away from having tokens:
those of its front and the string. Behind a backslash it takes one more character, whichever. -/
theorem tokenize_error_iff_leavesOpen (text : String) :
    ((∃ error, tokenize text = .error error)
        ↔ ∃ front quote body, LeavesOpen text front quote body)
      ∧ ∀ front quote body, LeavesOpen text front quote body →
        (∀ front' quote' body', LeavesOpen text front' quote' body' →
            front' = front ∧ quote' = quote ∧ body' = body)
          ∧ tokenize text = .error (.unterminatedString (Position.start.after front.toList))
          ∧ ∃ tokens last, tokenize front = .ok (tokens ++ [last]) ∧ last.kind = .endOfInput
            ∧ (StringBody quote body → tokenize (text.push quote)
                = .ok (tokens ++ quotedTokens quote body last.position))
            ∧ (EndsInEscape quote body → ∀ c, tokenize ((text.push c).push quote)
                = .ok (tokens ++ quotedTokens quote (body ++ [c]) last.position)) := by
  constructor
  · constructor
    · rintro ⟨error, herror⟩
      exact exists_leavesOpen herror
    · rintro ⟨front, quote, body, h⟩
      exact ⟨_, h.tokenize_eq⟩
  · intro front quote body h
    refine ⟨fun front' quote' body' h' => h.unique h', h.tokenize_eq, ?_⟩
    obtain ⟨tokens, htokens⟩ := h.cut
    obtain ⟨others, last, rfl, rfl, -⟩ := tokensFrom_append_quote htokens h.opened body
    refine ⟨others, _, htokens, rfl, fun hbody => ?_, fun hbody c => ?_⟩
    · refine tokenize_quoted htokens h.opened hbody ?_
      rw [String.toList_push, h.split, List.append_assoc, List.cons_append]
    · -- the character is what the last backslash takes along
      obtain ⟨inner, hinner, rfl⟩ := hbody
      have hclosed : StringBody quote ((inner ++ ['\\']) ++ [c]) := by
        rw [List.append_assoc]
        exact hinner.append (.escaped c .nil)
      refine tokenize_quoted htokens h.opened hclosed ?_
      rw [String.toList_push, String.toList_push, h.split]
      simp only [List.append_assoc, List.cons_append, List.nil_append]

/-- A string that breaks off behind a backslash takes two more characters, the first of which may
be a quote. -/
theorem tokenize_broken_escape :
    tokenize "a = \"b\\" = .error (.unterminatedString ⟨1, 5⟩)
      ∧ ∃ tokens last, tokenize "a = " = .ok (tokens ++ [last])
        ∧ ∀ c, tokenize (("a = \"b\\".push c).push '"')
          = .ok (tokens ++ quotedTokens '"' ['b', '\\', c] last.position) := by
  have hbody : EndsInEscape '"' ['b', '\\'] :=
    ⟨['b'], .plain (by decide) (by decide) .nil, rfl⟩
  have hfront : tokenize "a = " = .ok [⟨.identifier, "a", ⟨1, 1⟩⟩, ⟨.whitespace, " ", ⟨1, 2⟩⟩,
      ⟨.equals, "=", ⟨1, 3⟩⟩, ⟨.whitespace, " ", ⟨1, 4⟩⟩, ⟨.endOfInput, "", ⟨1, 5⟩⟩] := by
    decide +kernel
  have hopen : LeavesOpen "a = \"b\\" "a = " '"' ['b', '\\'] :=
    ⟨by decide, ⟨_, hfront⟩, by decide, .inr hbody⟩
  obtain ⟨-, herror, tokens, last, htokens, -, -, hclosed⟩ :=
    (tokenize_error_iff_leavesOpen _).2 _ _ _ hopen
  exact ⟨herror, tokens, last, htokens, hclosed hbody⟩

end RecordFilter
