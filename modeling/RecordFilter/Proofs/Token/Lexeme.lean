import RecordFilter.Proofs.Token.Shape

/-!
# What `lexeme` cuts off

`lexeme` says how far the token reaches that a text begins with. This module proves that it cuts
off exactly the texts of the shapes that could not have gone on: first for each family of scanning
functions, then for `lexeme` as a whole.

Each family lemma splits the text behind the first character into `a`, what belongs to the token,
and `b`, what follows, so that no statement speaks of a count alone.
-/

namespace RecordFilter

open Lexeme

namespace Lexeme

/-! ## Runs of a class -/

/-- A run goes on as long as its class does. -/
theorem runTail_cons (inClass : Char → Bool) (c : Char) (rest : List Char) :
    runTail inClass (c :: rest) = if inClass c then runTail inClass rest + 1 else 0 := by
  unfold runTail
  rw [List.takeWhile_cons]
  split
  · rw [List.length_cons]
  · rfl

/-- A run is no longer than the text. -/
theorem runTail_le (inClass : Char → Bool) (rest : List Char) :
    runTail inClass rest ≤ rest.length :=
  (List.takeWhile_prefix inClass).length_le

/-- A run takes a text as a whole if all of it is of the class and what follows is not. -/
theorem runTail_append_iff (inClass : Char → Bool) (a b : List Char) :
    runTail inClass (a ++ b) = a.length
      ↔ (∀ c ∈ a, inClass c) ∧ ∀ c ∈ b.head?, ¬ inClass c := by
  induction a with
  | nil =>
    cases b with
    | nil => simp [runTail]
    | cons d b =>
      rw [List.nil_append, runTail_cons]
      by_cases hd : inClass d = true <;> simp [hd]
  | cons c a ih =>
    -- a character of the class moves both counts by one, any other ends the run too early
    rw [List.cons_append, runTail_cons]
    by_cases hc : inClass c = true
    · rw [if_pos hc, List.length_cons, Nat.add_right_cancel_iff, ih]
      simp [hc]
    · rw [if_neg hc]
      simp [hc]

/-- A text is the run that is taken and a rest that does not go on with it. -/
theorem exists_runTail_split (inClass : Char → Bool) (text : List Char) :
    ∃ a b, text = a ++ b ∧ runTail inClass text = a.length ∧ (∀ c ∈ a, inClass c)
      ∧ ∀ c ∈ b.head?, ¬ inClass c := by
  have hsplit := List.take_append_drop (runTail inClass text) text
  have hlength := List.length_take_of_le (runTail_le inClass text)
  refine ⟨_, _, hsplit.symm, hlength.symm, (runTail_append_iff inClass _ _).mp ?_⟩
  rw [hsplit, hlength]

/-! ## Numbers -/

/-- A number goes on with digits, or with a point and more digits. -/
theorem numberTail_cons (c : Char) (rest : List Char) :
    numberTail (c :: rest) =
      if isDigit c then numberTail rest + 1
      else if c = '.' then runTail isDigit rest + 1
      else 0 := by
  by_cases hc : isDigit c = true
  · rw [if_pos hc]
    simp only [numberTail, List.takeWhile_cons, hc, if_true, List.length_cons, List.drop_succ_cons]
    split <;> omega
  · rw [if_neg hc]
    simp only [numberTail, List.takeWhile_cons, hc, Bool.false_eq_true, if_false, List.length_nil,
      List.drop_zero]
    by_cases hp : c = '.'
    · subst hp
      rw [if_pos rfl]
      simp only [runTail]
      omega
    · rw [if_neg hp]
      split
      · next h => exact absurd (List.cons.inj h).1 hp
      · rfl

/-- A number is no longer than the text. -/
theorem numberTail_le (rest : List Char) : numberTail rest ≤ rest.length := by
  induction rest with
  | nil => exact Nat.le_refl _
  | cons c rest ih =>
    have hrun := runTail_le isDigit rest
    rw [numberTail_cons, List.length_cons]
    split
    · omega
    · split <;> omega

/-- A number takes a text as a whole if that is digits with at most one point, and what follows
is neither a digit nor a first point. -/
theorem numberTail_append_iff (a b : List Char) :
    numberTail (a ++ b) = a.length
      ↔ (∀ c ∈ a, isDigit c ∨ c = '.') ∧ a.count '.' ≤ 1
        ∧ ∀ c ∈ b.head?, ¬ (isDigit c ∨ (c = '.' ∧ '.' ∉ a)) := by
  induction a with
  | nil =>
    cases b with
    | nil => simp [numberTail]
    | cons d b =>
      rw [List.nil_append, numberTail_cons]
      by_cases hd : isDigit d = true
      · simp [hd]
      · rw [if_neg hd]
        by_cases hp : d = '.' <;> simp [hd, hp]
  | cons c a ih =>
    rw [List.cons_append, numberTail_cons]
    by_cases hc : isDigit c = true
    · -- a digit is no point, so it changes neither the count of points nor what may follow
      have hne : c ≠ '.' := by
        rintro rfl
        exact absurd hc (by decide)
      rw [if_pos hc, List.length_cons, Nat.add_right_cancel_iff, ih, List.count_cons_of_ne hne]
      simp [hc, hne.symm]
    · rw [if_neg hc]
      by_cases hp : c = '.'
      · subst hp
        -- behind the point nothing but digits is left to take
        rw [if_pos rfl, List.length_cons, Nat.add_right_cancel_iff, runTail_append_iff,
          List.count_cons_self]
        have hdigits : (∀ x ∈ a, isDigit x = true)
            ↔ (∀ x ∈ a, isDigit x = true ∨ x = '.') ∧ '.' ∉ a := by
          constructor
          · intro h
            exact ⟨fun x hx => Or.inl (h x hx), fun hx => absurd (h _ hx) (by decide)⟩
          · rintro ⟨h, hnot⟩ x hx
            rcases h x hx with hd | rfl
            · exact hd
            · exact absurd hx hnot
        have hcount : a.count '.' + 1 ≤ 1 ↔ '.' ∉ a := by
          rw [← List.count_eq_zero]
          omega
        rw [hdigits, hcount]
        simp [and_assoc]
      · simp [hc, hp]

/-- A text is the number that is taken and a rest that does not go on with it. -/
theorem exists_numberTail_split (text : List Char) :
    ∃ a b, text = a ++ b ∧ numberTail text = a.length ∧ (∀ c ∈ a, isDigit c ∨ c = '.')
      ∧ a.count '.' ≤ 1 ∧ ∀ c ∈ b.head?, ¬ (isDigit c ∨ (c = '.' ∧ '.' ∉ a)) := by
  have hsplit := List.take_append_drop (numberTail text) text
  have hlength := List.length_take_of_le (numberTail_le text)
  refine ⟨_, _, hsplit.symm, hlength.symm, (numberTail_append_iff _ _).mp ?_⟩
  rw [hsplit, hlength]

/-! ## Strings -/

/-- A string that is taken ends with the first quote that is not escaped. -/
theorem stringBody_of_stringTail {quote : Char} {text : List Char} {tail : Nat}
    (h : stringTail quote text = some tail) :
    ∃ body rest, text = body ++ quote :: rest ∧ StringBody quote body
      ∧ tail = body.length + 1 := by
  fun_induction stringTail quote text generalizing tail with
  | case1 => cases h
  | case2 c rest ih =>
    obtain ⟨n, hn, rfl⟩ := Option.map_eq_some_iff.mp h
    obtain ⟨body, after, rfl, hbody, rfl⟩ := ih hn
    exact ⟨'\\' :: c :: body, after, rfl, .escaped c hbody, rfl⟩
  | case3 rest hnot =>
    cases h
    exact ⟨[], rest, rfl, .nil, rfl⟩
  | case4 c rest hnot hc ih =>
    obtain ⟨n, hn, rfl⟩ := Option.map_eq_some_iff.mp h
    obtain ⟨body, after, rfl, hbody, rfl⟩ := ih hn
    have hesc : c ≠ '\\' := by
      rintro rfl
      -- a backslash is always followed by something here, so the first clause has taken it
      cases body with
      | nil => exact hnot _ _ rfl rfl
      | cons d body => exact hnot _ _ rfl rfl
    exact ⟨c :: body, after, rfl, .plain hesc hc hbody, rfl⟩

/-- A string goes on until its quote comes again. -/
theorem stringTail_cons {c : Char} (h : c ≠ '\\') (quote : Char) (rest : List Char) :
    stringTail quote (c :: rest)
      = if c = quote then some 1 else (stringTail quote rest).map (· + 1) := by
  rw [stringTail.eq_def]
  split
  · next heq => cases heq
  · next heq => exact absurd (List.cons.inj heq).1 h
  · next heq =>
    obtain ⟨rfl, rfl⟩ := List.cons.inj heq
    rfl

/-- A body is taken as a whole, and the string goes on behind it. -/
theorem stringTail_append {quote : Char} {body : List Char} (h : StringBody quote body)
    (rest : List Char) :
    stringTail quote (body ++ rest) = (stringTail quote rest).map (· + body.length) := by
  induction h with
  | nil => simp
  | @escaped c body h ih =>
    simp only [List.cons_append, stringTail, ih, Option.map_map, List.length_cons]
    rfl
  | @plain c body hesc hquote h ih =>
    rw [List.cons_append, stringTail_cons hesc, if_neg hquote, ih, Option.map_map,
      List.length_cons]
    rfl

/-- The closing quote of a string is found behind its body. -/
theorem stringTail_of_stringBody {quote : Char} (hq : quote ≠ '\\') {body : List Char}
    (h : StringBody quote body) (rest : List Char) :
    stringTail quote (body ++ quote :: rest) = some (body.length + 1) := by
  rw [stringTail_append h, stringTail_cons hq, if_pos rfl, Option.map_some, Nat.add_comm]

/-! ## Operators, parentheses and characters of no use -/

/-- The characters that are left to `symbol`. -/
structure IsSymbolStart (c : Char) : Prop where
  notDigit : isDigit c = false
  notBlank : Text.isBlank c = false
  notWordStart : isWordStart c = false
  notQuote : isQuote c = false

theorem ne_of_mem_head? {d : Char} {rest : List Char}
    (h : ∀ tail, rest = d :: tail → False) : ∀ c ∈ rest.head?, c ≠ d := by
  intro c hc hd
  cases rest with
  | nil => cases hc
  | cons x rest =>
    have hx : x = c := Option.some.inj hc
    exact h rest (by rw [hx, hd])

/-- `symbol` takes one of the operators or parentheses, or a single character of no use. -/
theorem hasShape_symbol {c : Char} (hc : IsSymbolStart c) (rest : List Char) :
    ∃ a b, rest = a ++ b ∧ a.length = (symbol c rest).2 ∧ HasShape (symbol c rest).1 (c :: a)
      ∧ EndsBefore (symbol c rest).1 (c :: a) b := by
  fun_cases symbol c rest with
  | case1 rest => exact ⟨['~'], rest, rfl, rfl, rfl, fun _ _ => id⟩
  | case2 =>
    rename_i hnext
    exact ⟨[], rest, rfl, rfl, rfl, ne_of_mem_head? hnext⟩
  | case3 rest => exact ⟨['='], rest, rfl, rfl, rfl, fun _ _ => id⟩
  | case4 rest => exact ⟨['~'], rest, rfl, rfl, rfl, fun _ _ => id⟩
  | case5 rest => exact ⟨['='], rest, rfl, rfl, rfl, fun _ _ => id⟩
  | case6 =>
    rename_i hnext
    exact ⟨[], rest, rfl, rfl, rfl, ne_of_mem_head? hnext⟩
  | case7 rest => exact ⟨['='], rest, rfl, rfl, rfl, fun _ _ => id⟩
  | case8 =>
    rename_i hnext
    exact ⟨[], rest, rfl, rfl, rfl, ne_of_mem_head? hnext⟩
  | case9 rest => exact ⟨['&'], rest, rfl, rfl, Or.inl rfl, fun _ _ h => h.1 rfl⟩
  | case10 rest => exact ⟨['|'], rest, rfl, rfl, Or.inl rfl, fun _ _ h => h.1 rfl⟩
  | case11 => exact ⟨[], rest, rfl, rfl, rfl, fun _ _ => id⟩
  | case12 => exact ⟨[], rest, rfl, rfl, rfl, fun _ _ => id⟩
  | case13 =>
    rename_i heq hless hgreater hopen hclose _ hequals htilde _ _ hamp hbar
    refine ⟨[], rest, rfl, rfl, ⟨c, rfl, ?_⟩, ?_⟩
    · by_cases hhalf : c = '!' ∨ c = '&' ∨ c = '|'
      · exact Or.inr hhalf
      · refine Or.inl ⟨hc.notDigit, hc.notBlank, hc.notWordStart, hc.notQuote, ?_⟩
        simp only [List.mem_cons, List.not_mem_nil, or_false]
        grind
    · -- half an operator stays one because its other half does not follow
      rintro d hd (⟨hc', hd' | hd'⟩ | ⟨hc', hd'⟩ | ⟨hc', hd'⟩)
      · exact ne_of_mem_head? (fun tail => hequals tail (List.cons.inj hc').1) d hd hd'
      · exact ne_of_mem_head? (fun tail => htilde tail (List.cons.inj hc').1) d hd hd'
      · exact ne_of_mem_head? (fun tail => hamp tail (List.cons.inj hc').1) d hd hd'
      · exact ne_of_mem_head? (fun tail => hbar tail (List.cons.inj hc').1) d hd hd'

/-- An operator of one character stays one if the character that would make it longer does not
follow. -/
theorem symbol_single {c next : Char} {kind : TokenKind} {b : List Char}
    (hc : (c, next, kind) ∈ [('=', '~', TokenKind.equals), ('<', '=', .less), ('>', '=', .greater)])
    (h : ∀ d ∈ b.head?, d ≠ next) : symbol c b = (kind, 0) := by
  simp only [List.mem_cons, List.not_mem_nil, or_false, Prod.mk.injEq] at hc
  cases b with
  | nil => rcases hc with ⟨rfl, rfl, rfl⟩ | ⟨rfl, rfl, rfl⟩ | ⟨rfl, rfl, rfl⟩ <;> rfl
  | cons d b =>
    have hne := h d rfl
    rcases hc with ⟨rfl, rfl, rfl⟩ | ⟨rfl, rfl, rfl⟩ | ⟨rfl, rfl, rfl⟩ <;> simp [symbol, hne]

/-- A character that begins no symbol stands for itself. -/
theorem symbol_stray {c : Char} (hc : IsStray c) (b : List Char) :
    symbol c b = (.illegal, 0) := by
  have hne := hc.notSymbol
  simp only [List.mem_cons, List.not_mem_nil, or_false, not_or] at hne
  fun_cases symbol c b with
  | case13 => rfl
  | _ => simp at hne

/-- Half an operator is a token of no use if its other half does not follow. -/
theorem symbol_half {c : Char} {b : List Char} (hc : c = '!' ∨ c = '&' ∨ c = '|')
    (h : EndsBefore .illegal [c] b) : symbol c b = (.illegal, 0) := by
  cases b with
  | nil => rcases hc with rfl | rfl | rfl <;> rfl
  | cons d b =>
    have hd := h d rfl
    rcases hc with rfl | rfl | rfl
    · have hequals : d ≠ '=' := fun e => hd (Or.inl ⟨rfl, Or.inl e⟩)
      have htilde : d ≠ '~' := fun e => hd (Or.inl ⟨rfl, Or.inr e⟩)
      simp [symbol, hequals, htilde]
    · have hamp : d ≠ '&' := fun e => hd (Or.inr (Or.inl ⟨rfl, e⟩))
      simp [symbol, hamp]
    · have hbar : d ≠ '|' := fun e => hd (Or.inr (Or.inr ⟨rfl, e⟩))
      simp [symbol, hbar]

/-- `symbol` cuts off the texts of its shapes. -/
theorem symbol_append_of_hasShape {kind : TokenKind} {c : Char} {a b : List Char}
    (hc : IsSymbolStart c) (hshape : HasShape kind (c :: a)) (hends : EndsBefore kind (c :: a) b) :
    symbol c (a ++ b) = (kind, a.length) := by
  cases kind with
  | illegal =>
    obtain ⟨d, hd, hcases⟩ := hshape
    obtain ⟨rfl, rfl⟩ := List.cons.inj hd
    rcases hcases with hstray | hhalf
    · exact symbol_stray hstray b
    · exact symbol_half hhalf hends
  | endOfInput => cases hshape
  | whitespace =>
    have hblank := hshape.2 c (List.mem_cons_self ..)
    exact absurd hc.notBlank (by rw [hblank]; decide)
  | identifier =>
    have hstart := (isWord_cons_iff.mp hshape.1).1
    exact absurd hc.notWordStart (by rw [hstart]; decide)
  | number =>
    have hdigit := (isNumeral_cons_iff.mp hshape).1
    exact absurd hc.notDigit (by rw [hdigit]; decide)
  | string =>
    obtain ⟨quote, body, hquote, -, htext⟩ := hshape
    obtain ⟨rfl, -⟩ := List.cons.inj htext
    exact absurd hc.notQuote (by rw [hquote]; decide)
  | equals =>
    obtain ⟨rfl, rfl⟩ := List.cons.inj hshape
    exact symbol_single (by decide) hends
  | less =>
    obtain ⟨rfl, rfl⟩ := List.cons.inj hshape
    exact symbol_single (by decide) hends
  | greater =>
    obtain ⟨rfl, rfl⟩ := List.cons.inj hshape
    exact symbol_single (by decide) hends
  | or =>
    rcases hshape with htext | hword
    · obtain ⟨rfl, rfl⟩ := List.cons.inj htext
      rfl
    · have hstart := (isWord_cons_iff.mp hword.1).1
      exact absurd hc.notWordStart (by rw [hstart]; decide)
  | and =>
    rcases hshape with htext | hword
    · obtain ⟨rfl, rfl⟩ := List.cons.inj htext
      rfl
    · have hstart := (isWord_cons_iff.mp hword.1).1
      exact absurd hc.notWordStart (by rw [hstart]; decide)
  | _ =>
    obtain ⟨rfl, rfl⟩ := List.cons.inj hshape
    rfl

/-! ## Words -/

/-- A word is a conjunction if it is spelled so, in whatever case. -/
theorem wordKind_eq_and_iff {word : List Char} :
    wordKind word = .and ↔ SpellsKeyword ['a', 'n', 'd'] word := by
  unfold wordKind SpellsKeyword
  split
  · next h => simp [h]
  · next h => split <;> simp [h]

/-- A word is a disjunction if it is spelled so, in whatever case. -/
theorem wordKind_eq_or_iff {word : List Char} :
    wordKind word = .or ↔ SpellsKeyword ['o', 'r'] word := by
  unfold wordKind SpellsKeyword
  split
  · next h => simp [h]
  · split
    · next h => simp [h]
    · next h => simp [h]

/-- Any other word is an identifier. -/
theorem wordKind_eq_identifier_iff {word : List Char} :
    wordKind word = .identifier ↔
      ¬ SpellsKeyword ['a', 'n', 'd'] word ∧ ¬ SpellsKeyword ['o', 'r'] word := by
  unfold wordKind SpellsKeyword
  split
  · next h => simp [h]
  · next h =>
    split
    · next h' => simp [h']
    · next h' => simp [h, h']

/-- A word is an identifier or one of the two keywords. -/
theorem wordKind_cases (word : List Char) :
    wordKind word = .identifier ∨ wordKind word = .and ∨ wordKind word = .or := by
  unfold wordKind
  split
  · exact Or.inr (Or.inl rfl)
  · split
    · exact Or.inr (Or.inr rfl)
    · exact Or.inl rfl

/-- A word has the shape of its kind. -/
theorem hasShape_wordKind {word : List Char} (h : IsWord word) :
    HasShape (wordKind word) word := by
  rcases wordKind_cases word with hk | hk | hk
  · rw [hk]
    exact ⟨h, wordKind_eq_identifier_iff.mp hk⟩
  · rw [hk]
    exact Or.inr ⟨h, wordKind_eq_and_iff.mp hk⟩
  · rw [hk]
    exact Or.inr ⟨h, wordKind_eq_or_iff.mp hk⟩

/-- What a word could have gone on with, whichever kind it is of. -/
theorem canGoOn_wordKind_iff {word : List Char} (h : IsWord word) (c : Char) :
    CanGoOn (wordKind word) word c ↔ isWordChar c = true := by
  have hamp : word ≠ ['&', '&'] := by
    rintro rfl
    exact absurd (isWord_cons_iff.mp h).1 (by decide)
  have hbar : word ≠ ['|', '|'] := by
    rintro rfl
    exact absurd (isWord_cons_iff.mp h).1 (by decide)
  rcases wordKind_cases word with hk | hk | hk
  · rw [hk]
    exact Iff.rfl
  · rw [hk]
    exact and_iff_right hamp
  · rw [hk]
    exact and_iff_right hbar

end Lexeme

/-! ## Lexemes -/

section Dispatch

variable {c : Char} (rest : List Char)

/-- A digit begins a number. -/
theorem lexeme_of_isDigit (h : isDigit c = true) :
    lexeme c rest = some (.number, numberTail rest) := by
  rw [lexeme, if_pos h]

/-- A blank begins a row of blanks. -/
theorem lexeme_of_isBlank (h : Text.isBlank c = true) :
    lexeme c rest = some (.whitespace, runTail Text.isBlank rest) := by
  rw [lexeme, if_neg (by rw [isDigit_of_isBlank h]; decide), if_pos h]

/-- A letter begins a word, and the whole word decides its kind. -/
theorem lexeme_of_isWordStart (h : isWordStart c = true) :
    lexeme c rest
      = some (wordKind (c :: rest.take (runTail isWordChar rest)), runTail isWordChar rest) := by
  rw [lexeme, if_neg (by rw [isDigit_of_isWordStart h]; decide),
    if_neg (by rw [isBlank_of_isWordStart h]; decide), if_pos h]

/-- A quote begins a string, unless it is not closed. -/
theorem lexeme_of_isQuote (h : isQuote c = true) :
    lexeme c rest = (stringTail c rest).map fun tail => (.string, tail) := by
  rcases eq_of_isQuote h with rfl | rfl <;> rfl

/-- Anything else is a symbol or stands for itself. -/
theorem lexeme_of_isSymbolStart (h : IsSymbolStart c) : lexeme c rest = some (symbol c rest) := by
  rw [lexeme, if_neg (by rw [h.notDigit]; decide), if_neg (by rw [h.notBlank]; decide),
    if_neg (by rw [h.notWordStart]; decide), if_neg (by rw [h.notQuote]; decide)]

end Dispatch

/-- What `lexeme` cuts off has the shape of its kind and could not have gone on. -/
theorem hasShape_of_lexeme {c : Char} {rest : List Char} {kind : TokenKind} {tail : Nat}
    (h : lexeme c rest = some (kind, tail)) :
    ∃ a b, rest = a ++ b ∧ a.length = tail ∧ HasShape kind (c :: a)
      ∧ EndsBefore kind (c :: a) b := by
  by_cases hdigit : isDigit c = true
  · rw [lexeme_of_isDigit rest hdigit] at h
    obtain ⟨a, b, rfl, htail, hchars, hpoints, hends⟩ := exists_numberTail_split rest
    cases h
    refine ⟨a, b, rfl, htail.symm, isNumeral_cons_iff.mpr ⟨hdigit, hchars, hpoints⟩, ?_⟩
    intro d hd hgo
    apply hends d hd
    rcases hgo with hgo | ⟨hpoint, hfirst⟩
    · exact Or.inl hgo
    · exact Or.inr ⟨hpoint, fun hmem => hfirst (List.mem_cons_of_mem _ hmem)⟩
  by_cases hblank : Text.isBlank c = true
  · rw [lexeme_of_isBlank rest hblank] at h
    obtain ⟨a, b, rfl, htail, hchars, hends⟩ := exists_runTail_split Text.isBlank rest
    cases h
    refine ⟨a, b, rfl, htail.symm, ⟨List.cons_ne_nil _ _, ?_⟩, hends⟩
    intro d hd
    rcases List.mem_cons.mp hd with rfl | hd
    · exact hblank
    · exact hchars d hd
  by_cases hstart : isWordStart c = true
  · rw [lexeme_of_isWordStart rest hstart] at h
    obtain ⟨a, b, rfl, htail, hchars, hends⟩ := exists_runTail_split isWordChar rest
    rw [htail, List.take_left] at h
    cases h
    have hword := isWord_cons_iff.mpr ⟨hstart, hchars⟩
    refine ⟨a, b, rfl, rfl, hasShape_wordKind hword, ?_⟩
    intro d hd hgo
    exact hends d hd ((canGoOn_wordKind_iff hword d).mp hgo)
  -- a string ends with its quote and could not have gone on with anything
  by_cases hquote : isQuote c = true
  · rw [lexeme_of_isQuote rest hquote] at h
    obtain ⟨n, hn, htail⟩ := Option.map_eq_some_iff.mp h
    cases htail
    obtain ⟨body, after, rfl, hbody, rfl⟩ := stringBody_of_stringTail hn
    refine ⟨body ++ [c], after, (List.append_assoc body [c] after).symm, ?_, ?_, fun _ _ => id⟩
    · rw [List.length_append, List.length_singleton]
    · exact ⟨c, body, hquote, hbody, rfl⟩
  · have hsymbol : IsSymbolStart c :=
      ⟨by simpa using hdigit, by simpa using hblank, by simpa using hstart, by simpa using hquote⟩
    rw [lexeme_of_isSymbolStart rest hsymbol] at h
    have hcut := hasShape_symbol hsymbol rest
    rw [Option.some.inj h] at hcut
    exact hcut

theorem isSymbolStart_of_mem {c : Char} (h : c ∈ ['=', '!', '<', '>', '&', '|', '(', ')']) :
    IsSymbolStart c := by
  simp only [List.mem_cons, List.not_mem_nil, or_false] at h
  rcases h with rfl | rfl | rfl | rfl | rfl | rfl | rfl | rfl
  all_goals exact ⟨by decide, by decide, by decide, by decide⟩

/-- A word in front of a character that no word goes on with is cut off as a word. -/
theorem lexeme_append_of_isWord {c : Char} {a b : List Char} (hword : IsWord (c :: a))
    (hends : ∀ d ∈ b.head?, ¬ isWordChar d = true) :
    lexeme c (a ++ b) = some (wordKind (c :: a), a.length) := by
  obtain ⟨hstart, hchars⟩ := isWord_cons_iff.mp hword
  have hrun := (runTail_append_iff isWordChar a b).mpr ⟨hchars, hends⟩
  rw [lexeme_of_isWordStart _ hstart, hrun, List.take_left]

/-- A text of a shape, in front of a text that it could not have gone on with, is cut off. -/
theorem lexeme_append_of_hasShape {kind : TokenKind} {c : Char} {a b : List Char}
    (hshape : HasShape kind (c :: a)) (hends : EndsBefore kind (c :: a) b) :
    lexeme c (a ++ b) = some (kind, a.length) := by
  have hsymbol : IsSymbolStart c → lexeme c (a ++ b) = some (kind, a.length) := by
    intro hc
    rw [lexeme_of_isSymbolStart _ hc, symbol_append_of_hasShape hc hshape hends]
  cases kind with
  | endOfInput => cases hshape
  | whitespace =>
    have hrun := (runTail_append_iff Text.isBlank a b).mpr
      ⟨fun d hd => hshape.2 d (List.mem_cons_of_mem _ hd), hends⟩
    rw [lexeme_of_isBlank _ (hshape.2 c (List.mem_cons_self ..)), hrun]
  | identifier =>
    have hkind := wordKind_eq_identifier_iff.mpr hshape.2
    rw [lexeme_append_of_isWord hshape.1 hends, hkind]
  | number =>
    obtain ⟨hdigit, hchars, hpoints⟩ := isNumeral_cons_iff.mp hshape
    have hne : '.' ≠ c := by
      rintro rfl
      exact absurd hdigit (by decide)
    have htail := (numberTail_append_iff a b).mpr ⟨hchars, hpoints, fun d hd hgo => ?_⟩
    · rw [lexeme_of_isDigit _ hdigit, htail]
    · refine hends d hd ?_
      rcases hgo with hgo | ⟨hpoint, hfirst⟩
      · exact Or.inl hgo
      · exact Or.inr ⟨hpoint, List.not_mem_cons_of_ne_of_not_mem hne hfirst⟩
  | string =>
    obtain ⟨quote, body, hquote, hbody, htext⟩ := hshape
    obtain ⟨rfl, rfl⟩ := List.cons.inj htext
    have htail := stringTail_of_stringBody (ne_backslash_of_isQuote hquote) hbody b
    rw [lexeme_of_isQuote _ hquote, List.append_assoc, List.singleton_append, htail,
      List.length_append, List.length_singleton]
    rfl
  | illegal =>
    obtain ⟨d, hd, hcases⟩ := hshape
    obtain ⟨rfl, rfl⟩ := List.cons.inj hd
    apply hsymbol
    rcases hcases with h | rfl | rfl | rfl
    · exact ⟨h.notDigit, h.notBlank, h.notWordStart, h.notQuote⟩
    all_goals exact isSymbolStart_of_mem (by decide)
  | or =>
    rcases hshape with htext | ⟨hword, hkeyword⟩
    · obtain ⟨rfl, rfl⟩ := List.cons.inj htext
      exact hsymbol (isSymbolStart_of_mem (by decide))
    · -- as a word it ends where every word ends, whatever its kind
      have hkind := wordKind_eq_or_iff.mpr hkeyword
      rw [← hkind] at hends
      rw [lexeme_append_of_isWord hword
        (fun d hd hgo => hends d hd ((canGoOn_wordKind_iff hword d).mpr hgo)), hkind]
  | and =>
    rcases hshape with htext | ⟨hword, hkeyword⟩
    · obtain ⟨rfl, rfl⟩ := List.cons.inj htext
      exact hsymbol (isSymbolStart_of_mem (by decide))
    · have hkind := wordKind_eq_and_iff.mpr hkeyword
      rw [← hkind] at hends
      rw [lexeme_append_of_isWord hword
        (fun d hd hgo => hends d hd ((canGoOn_wordKind_iff hword d).mpr hgo)), hkind]
  | _ =>
    obtain ⟨rfl, rfl⟩ := List.cons.inj hshape
    exact hsymbol (isSymbolStart_of_mem (by decide))

end RecordFilter
