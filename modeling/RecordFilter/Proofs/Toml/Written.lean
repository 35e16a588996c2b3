import RecordFilter.Proofs.Execution
import RecordFilter.Toml.Writer

/-!
# Reading what was written

A key is written bare or in quotes, whichever its characters allow, and is read back as it was
whatever they are (`readKeyPart_keyText`). Documents are written line by line: `Reads` says of a
text which statements it is, and has one rule for each kind of line.
-/

namespace RecordFilter.Toml

/-! ## Quotes -/

theorem hexValue?_upperHexDigit : ∀ n < 16, Text.hexValue? (upperHexDigit n) = some n := by
  decide

theorem isPlain_of_isControl {c : Char} (h : isControl c = false) : isPlain c = true := by
  unfold isControl at h
  unfold isPlain
  by_cases htab : c = '\t'
  · rw [htab]
    rfl
  · simp [htab] at h
    simp [h]

/-- A number below 256 is read from its two digits behind two zeros. -/
theorem numbered_four {c : Char} (h : c.toNat < 256) (rest : List Char) :
    numbered 4 ('0' :: '0' :: upperHexDigit (c.toNat / 16) :: upperHexDigit (c.toNat % 16) :: rest)
      = .ok (c, 4) := by
  have hhigh := hexValue?_upperHexDigit (c.toNat / 16) (by omega)
  have hlow := hexValue?_upperHexDigit (c.toNat % 16) (by omega)
  have hzero : Text.hexValue? '0' = some 0 := by decide
  have hsum : 16 * (c.toNat / 16) + c.toNat % 16 = c.toNat := by omega
  have hvalid : c.toNat.isValidChar := by
    have := c.valid
    exact this
  simp [numbered, hzero, hhigh, hlow, hsum, hvalid]

/-- A string in double quotes goes on behind a character. -/
def prepend (c : Char) (read : List Char × List Char) : List Char × List Char :=
  (c :: read.1, read.2)

/-- An escape sequence stands for one character. -/
theorem readBasic_escaped {e c : Char} {text : List Char} {width : Nat}
    (h : escape e text = .ok (c, width)) :
    readBasic ('\\' :: e :: text) = prepend c <$> readBasic (text.drop width) := by
  rw [readBasic.eq_def]
  simp only [Char.reduceEq, if_false, if_true, h]
  cases readBasic (text.drop width) <;> rfl

/-- Any other character stands for itself. -/
theorem readBasic_plain {c : Char} {text : List Char} (hquote : c ≠ '"') (hslash : c ≠ '\\')
    (hplain : isPlain c = true) : readBasic (c :: text) = prepend c <$> readBasic text := by
  rw [readBasic.eq_def]
  simp only [hquote, hslash, hplain, if_false, if_true]
  cases readBasic text <;> rfl

/-- A character is read from what it is written as. -/
theorem readBasic_escapeChar (c : Char) (text : List Char) :
    readBasic (escapeChar c ++ text) = prepend c <$> readBasic text := by
  unfold escapeChar
  split_ifs with hquote hslash hback htab hline hfeed hreturn hcontrol
  · have hescape : escape '"' text = .ok ('"', 0) := rfl
    rw [hquote]
    exact readBasic_escaped hescape
  · have hescape : escape '\\' text = .ok ('\\', 0) := rfl
    rw [hslash]
    exact readBasic_escaped hescape
  · have hescape : escape 'b' text = .ok ('\x08', 0) := rfl
    rw [hback]
    exact readBasic_escaped hescape
  · have hescape : escape 't' text = .ok ('\t', 0) := rfl
    rw [htab]
    exact readBasic_escaped hescape
  · have hescape : escape 'n' text = .ok ('\n', 0) := rfl
    rw [hline]
    exact readBasic_escaped hescape
  · have hescape : escape 'f' text = .ok ('\x0c', 0) := rfl
    rw [hfeed]
    exact readBasic_escaped hescape
  · have hescape : escape 'r' text = .ok ('\r', 0) := rfl
    rw [hreturn]
    exact readBasic_escaped hescape
  -- the other control characters are written by their numbers
  · have hlt : c.toNat < 256 := by
      unfold isControl at hcontrol
      simp at hcontrol
      omega
    have hescape : escape 'u' ('0' :: '0' :: upperHexDigit (c.toNat / 16)
        :: upperHexDigit (c.toNat % 16) :: text) = .ok (c, 4) := numbered_four hlt text
    exact readBasic_escaped hescape
  · exact readBasic_plain hquote hslash (isPlain_of_isControl (Bool.eq_false_iff.mpr hcontrol))

/-- A text is read from what it is written as in double quotes. -/
theorem readBasic_flatMap (chars rest : List Char) :
    readBasic (chars.flatMap escapeChar ++ '"' :: rest) = .ok (chars, rest) := by
  induction chars with
  | nil =>
    show readBasic ('"' :: rest) = _
    rw [readBasic.eq_def]
    rfl
  | cons c chars ih =>
    rw [List.flatMap_cons, List.append_assoc, readBasic_escapeChar, ih]
    rfl

/-- A text is read from what it is written as in single quotes. -/
theorem readLiteral_append {chars : List Char} (h : ∀ c ∈ chars, c ≠ '\'' ∧ isPlain c = true)
    (rest : List Char) : readLiteral (chars ++ '\'' :: rest) = .ok (chars, rest) := by
  induction chars with
  | nil =>
    show readLiteral ('\'' :: rest) = _
    rw [readLiteral, if_pos rfl]
  | cons c chars ih =>
    obtain ⟨hquote, hplain⟩ := h c List.mem_cons_self
    rw [List.cons_append, readLiteral, if_neg hquote, if_pos hplain,
      ih fun d hd => h d (List.mem_cons_of_mem _ hd)]

/-! ## Keys -/

/-- Single quotes are preferred only around characters that need no escape. -/
theorem forall_of_prefersSingle {chars : List Char} (h : prefersSingle chars = true) :
    ∀ c ∈ chars, c ≠ '\'' ∧ isPlain c = true := by
  unfold prefersSingle at h
  simp only [Bool.and_eq_true, Bool.not_eq_true', List.any_eq_false] at h
  obtain ⟨⟨-, hquote⟩, hcontrol⟩ := h
  intro c hc
  constructor
  · rintro rfl
    simp [hc] at hquote
  · exact isPlain_of_isControl (Bool.eq_false_iff.mpr (hcontrol c hc))

/-- A key of bare characters is read up to the first other one. -/
theorem readKeyPart_bare {chars : List Char} (hne : chars ≠ [])
    (hall : ∀ d ∈ chars, isBare d = true) {c : Char} (hc : isBare c = false) (rest : List Char) :
    readKeyPart (chars ++ c :: rest) = .ok (String.ofList chars, c :: rest) := by
  have htake : (chars ++ c :: rest).takeWhile isBare = chars := by
    rw [List.takeWhile_append_of_pos hall, List.takeWhile_cons_of_neg (by simp [hc]),
      List.append_nil]
  have hdrop : (chars ++ c :: rest).dropWhile isBare = c :: rest := by
    rw [List.dropWhile_append_of_pos hall, List.dropWhile_cons_of_neg (by simp [hc])]
  unfold readKeyPart
  split
  -- no quote is a character of bare keys
  · next text heq =>
    cases chars with
    | nil => exact absurd rfl hne
    | cons first more => exact absurd (hall first List.mem_cons_self) (by simp_all [isBare])
  · next text heq =>
    cases chars with
    | nil => exact absurd rfl hne
    | cons first more => exact absurd (hall first List.mem_cons_self) (by simp_all [isBare])
  · rw [htake, hdrop, if_neg (by simpa using hne)]

/-- A quoted key is read back whatever it contains. -/
theorem readKeyPart_quoted (chars rest : List Char) :
    readKeyPart (quoted chars ++ rest) = .ok (String.ofList chars, rest) := by
  unfold quoted
  by_cases hsingle : prefersSingle chars = true
  · rw [if_pos hsingle, List.cons_append, List.append_assoc]
    show (readLiteral (chars ++ '\'' :: rest) >>= _) = _
    rw [bind_of_ok (readLiteral_append (forall_of_prefersSingle hsingle) rest)]
    rfl
  · rw [if_neg hsingle, List.cons_append, List.append_assoc]
    show (readBasic (chars.flatMap escapeChar ++ '"' :: rest) >>= _) = _
    rw [bind_of_ok (readBasic_flatMap chars rest)]
    rfl

/-- A key is read from what it is written as, in front of anything that no bare key goes on
with. -/
theorem readKeyPart_keyText (key : String) {c : Char} (hc : isBare c = false) (rest : List Char) :
    readKeyPart (keyText key ++ c :: rest) = .ok (key, c :: rest) := by
  unfold keyText
  by_cases hbare : (!key.toList.isEmpty && key.toList.all isBare) = true
  · rw [if_pos hbare]
    simp only [Bool.and_eq_true, Bool.not_eq_true', List.isEmpty_eq_false_iff, List.all_eq_true]
      at hbare
    obtain ⟨hne, hall⟩ := hbare
    rw [readKeyPart_bare hne hall hc, String.ofList_toList]
  · rw [if_neg hbare, readKeyPart_quoted, String.ofList_toList]

/-! ## Lines -/

/-- Whether a character begins something: it is no blank, begins no comment and ends no line. -/
def IsSolid (c : Char) : Prop := c ≠ ' ' ∧ c ≠ '\t' ∧ c ≠ '#' ∧ c ≠ '\n' ∧ c ≠ '\r'

instance (c : Char) : Decidable (IsSolid c) :=
  inferInstanceAs (Decidable (_ ∧ _ ∧ _ ∧ _ ∧ _))

/-- Nothing is skipped in front of a solid character. -/
theorem IsSolid.skipBlanks {c : Char} (h : IsSolid c) (text : List Char) :
    skipBlanks (c :: text) = c :: text := by
  obtain ⟨hspace, htab, -⟩ := h
  exact List.dropWhile_cons_of_neg (by simp [hspace, htab])

/-- A solid character begins no comment. -/
theorem IsSolid.skipComment {c : Char} (h : IsSolid c) (text : List Char) :
    skipComment (c :: text) = c :: text := by
  obtain ⟨-, -, hcomment, -⟩ := h
  unfold Toml.skipComment
  split
  · next heq => exact absurd (List.cons.inj heq).1 hcomment
  · rfl

/-- However a key is written, its line does not look like a header, a comment or an empty one. -/
theorem exists_keyText_eq_cons (key : String) :
    ∃ c text, keyText key = c :: text ∧ IsSolid c ∧ c ≠ '[' := by
  have hbare : ∀ c, isBare c = true → IsSolid c ∧ c ≠ '[' := by
    intro c hc
    refine ⟨⟨?_, ?_, ?_, ?_, ?_⟩, ?_⟩
    all_goals
      rintro rfl
      exact absurd hc (by decide)
  unfold keyText
  by_cases h : (!key.toList.isEmpty && key.toList.all isBare) = true
  · rw [if_pos h]
    simp only [Bool.and_eq_true, Bool.not_eq_true', List.isEmpty_eq_false_iff, List.all_eq_true]
      at h
    obtain ⟨c, text, hkey⟩ := List.exists_cons_of_ne_nil h.1
    refine ⟨c, text, hkey, hbare c (h.2 c ?_)⟩
    rw [hkey]
    exact List.mem_cons_self
  · rw [if_neg h]
    unfold quoted
    split
    · exact ⟨_, _, rfl, by decide⟩
    · exact ⟨_, _, rfl, by decide⟩

/-- A key is read together with the blanks behind it. -/
theorem readKey_keyText (parts : Nat) (key : String) {c d : Char} {rest more : List Char}
    (hc : isBare c = false) (hskip : skipBlanks (c :: rest) = d :: more) (hd : d ≠ '.') :
    readKey (parts + 1) (keyText key ++ c :: rest) = .ok (⟨[], key⟩, d :: more) := by
  obtain ⟨first, text, hkey, hfirst, -⟩ := exists_keyText_eq_cons key
  have hblanks : skipBlanks (keyText key ++ c :: rest) = keyText key ++ c :: rest := by
    rw [hkey]
    exact hfirst.skipBlanks _
  rw [readKey, hblanks, bind_of_ok (readKeyPart_keyText key hc rest)]
  dsimp only
  rw [hskip]
  split
  · next heq => exact absurd (List.cons.inj heq).1 hd
  · rfl

/-- Whether a text is a value when the line ends behind it. -/
structure SpellsValue (text : List Char) (value : Toml) : Prop where
  solid : ∀ rest, skipBlanks (text ++ rest) = text ++ rest
  read : ∀ rest, readValue maxDepth (text ++ '\n' :: rest) = .ok (value, '\n' :: rest)

/-- A key and a value on a line are read as their assignment. -/
theorem readAssignment_line (key : String) {text : List Char} {value : Toml}
    (h : SpellsValue text value) (rest : List Char) :
    readAssignment (readValue maxDepth)
        (keyText key ++ ' ' :: '=' :: ' ' :: (text ++ '\n' :: rest))
      = .ok (⟨⟨[], key⟩, value⟩, '\n' :: rest) := by
  have hkey : readKey maxDepth (keyText key ++ ' ' :: '=' :: ' ' :: (text ++ '\n' :: rest))
      = .ok (⟨[], key⟩, '=' :: ' ' :: (text ++ '\n' :: rest)) :=
    readKey_keyText 78 key (by decide) rfl (by decide)
  have hskip : skipBlanks (' ' :: (text ++ '\n' :: rest)) = text ++ '\n' :: rest := by
    rw [skipBlanks, List.dropWhile_cons_of_pos (by decide)]
    exact h.solid _
  rw [readAssignment, bind_of_ok hkey]
  show (readValue maxDepth (skipBlanks (' ' :: (text ++ '\n' :: rest))) >>= _) = _
  rw [hskip, bind_of_ok (h.read rest)]
  rfl

/-- Whether a text is a list of statements. -/
def Reads (text : List Char) (statements : List Statement) : Prop :=
  ∀ steps, text.length ≤ steps → readStatements steps text = .ok statements

namespace Reads

variable {text rest : List Char} {statements : List Statement}

theorem nil : Reads [] [] := by
  intro steps _
  cases steps <;> rfl

/-- An empty line is no statement. -/
theorem blankLine (h : Reads rest statements) : Reads ('\n' :: rest) statements := by
  intro steps hsteps
  cases steps with
  | zero => cases hsteps
  | succ steps => exact h steps (Nat.le_of_succ_le_succ hsteps)

/-- A statement on a line of its own. -/
theorem line {statement : Statement} {c : Char} (hc : IsSolid c)
    (hread : readStatement (c :: (text ++ '\n' :: rest)) = .ok (statement, '\n' :: rest))
    (h : Reads rest statements) :
    Reads (c :: (text ++ '\n' :: rest)) (statement :: statements) := by
  intro steps hsteps
  cases steps with
  | zero => cases hsteps
  | succ steps =>
    have hlength : rest.length ≤ steps := by
      simp only [List.length_cons, List.length_append] at hsteps
      omega
    rw [readStatements, hc.skipBlanks, hc.skipComment]
    show (if c = '\n' ∨ c = '\r' then _ else _) = _
    rw [if_neg (by simp [hc.2.2.2]), hread]
    show (do
      let rest ← readLineEnd ('\n' :: rest)
      let statements ← readStatements steps rest
      return statement :: statements) = _
    have hend : readLineEnd ('\n' :: rest) = .ok rest := rfl
    rw [hend]
    show (do
      let statements ← readStatements steps rest
      return statement :: statements) = _
    rw [h steps hlength]
    rfl

/-- A line that gives a key a value. -/
theorem assignment (key : String) {value : Toml} (hvalue : SpellsValue text value)
    (h : Reads rest statements) :
    Reads (keyText key ++ ' ' :: '=' :: ' ' :: (text ++ '\n' :: rest))
      (.assignment ⟨⟨[], key⟩, value⟩ :: statements) := by
  obtain ⟨c, chars, hkey, hc, hbracket⟩ := exists_keyText_eq_cons key
  have hread := readAssignment_line key hvalue rest
  rw [hkey] at hread ⊢
  have htext : c :: chars ++ ' ' :: '=' :: ' ' :: (text ++ '\n' :: rest)
      = c :: ((chars ++ ' ' :: '=' :: ' ' :: text) ++ '\n' :: rest) := by simp
  rw [htext] at hread ⊢
  refine line hc ?_ h
  unfold readStatement
  split
  · next heq => exact absurd (List.cons.inj heq).1 hbracket
  · next heq => exact absurd (List.cons.inj heq).1 hbracket
  · rw [hread]
    rfl

/-- A line that opens a table. -/
theorem header (key : String) (h : Reads rest statements) :
    Reads ('[' :: (keyText key ++ ']' :: '\n' :: rest))
      (.header ⟨[], key⟩ false :: statements) := by
  obtain ⟨c, chars, hkey, hc, hbracket⟩ := exists_keyText_eq_cons key
  have hread : readKey maxDepth (keyText key ++ ']' :: '\n' :: rest)
      = .ok (⟨[], key⟩, ']' :: '\n' :: rest) :=
    readKey_keyText 78 key (by decide) rfl (by decide)
  have htext : '[' :: (keyText key ++ ']' :: '\n' :: rest)
      = '[' :: ((keyText key ++ [']']) ++ '\n' :: rest) := by simp
  rw [htext]
  refine line (by decide) ?_ h
  rw [← htext]
  unfold readStatement
  split
  · next heq =>
    rw [hkey] at heq
    exact absurd (List.cons.inj (List.cons.inj heq).2).1 hbracket
  · next heq =>
    rw [← (List.cons.inj heq).2, readHeader, hread]
    rfl
  · next hnone => exact absurd rfl (hnone _)

end Reads

/-! ## Values -/

/-- A word goes to the end of its line. -/
theorem splitWord_line {word : List Char} (h : ∀ d ∈ word, isWordChar d = true)
    (rest : List Char) : splitWord (word ++ '\n' :: rest) = (word, '\n' :: rest) := by
  have htake : (word ++ '\n' :: rest).takeWhile isWordChar = word := by
    rw [List.takeWhile_append_of_pos h, List.takeWhile_cons_of_neg (by decide), List.append_nil]
  have hdrop : (word ++ '\n' :: rest).dropWhile isWordChar = '\n' :: rest := by
    rw [List.dropWhile_append_of_pos h, List.dropWhile_cons_of_neg (by decide)]
  unfold splitWord
  rw [htake, hdrop]
  rfl

/-- A word is a value if nothing that could belong to it stands behind. -/
theorem spellsValue_word {word : List Char} {value : Toml} (hne : word ≠ [])
    (hall : word.all isWordChar = true) (hvalue : word? word = some value) :
    SpellsValue word value := by
  have hword := List.all_eq_true.mp hall
  obtain ⟨c, chars, rfl⟩ := List.exists_cons_of_ne_nil hne
  have hc : isWordChar c = true := hword c List.mem_cons_self
  have hmark : c ≠ '"' ∧ c ≠ '\'' ∧ c ≠ '[' ∧ c ≠ '\x7b' ∧ IsSolid c := by
    refine ⟨?_, ?_, ?_, ?_, ?_, ?_, ?_, ?_, ?_⟩
    all_goals
      rintro rfl
      exact absurd hc (by decide)
  obtain ⟨hdouble, hsingle, hbracket, hbrace, hsolid⟩ := hmark
  refine ⟨fun rest => hsolid.skipBlanks _, fun rest => ?_⟩
  show readValueWith _ (c :: chars ++ '\n' :: rest) = _
  have hsplit := splitWord_line hword rest
  unfold readValueWith
  split
  · next heq => exact absurd (List.cons.inj heq).1 hdouble
  · next heq => exact absurd (List.cons.inj heq).1 hsingle
  · next heq => exact absurd (List.cons.inj heq).1 hdouble
  · next heq => exact absurd (List.cons.inj heq).1 hsingle
  · next heq => exact absurd (List.cons.inj heq).1 hbracket
  · next heq => exact absurd (List.cons.inj heq).1 hbrace
  · rw [hsplit]
    dsimp only
    rw [hvalue]
    rfl

theorem exists_escapeChar_eq_cons (c : Char) :
    ∃ d text, escapeChar c = d :: text ∧ d ≠ '"' := by
  unfold escapeChar
  by_cases hquote : c = '"'
  · rw [if_pos hquote]
    exact ⟨_, _, rfl, by decide⟩
  · rw [if_neg hquote]
    split_ifs
    all_goals exact ⟨_, _, rfl, by simp [hquote]⟩

/-- A text in double quotes is a value. -/
theorem spellsValue_string {chars : List Char} (h : chars ≠ []) :
    SpellsValue ('"' :: (chars.flatMap escapeChar ++ ['"'])) (.string (String.ofList chars)) := by
  refine ⟨fun rest => (by decide : IsSolid '"').skipBlanks _, fun rest => ?_⟩
  have htext : '"' :: (chars.flatMap escapeChar ++ ['"']) ++ '\n' :: rest
      = '"' :: (chars.flatMap escapeChar ++ '"' :: '\n' :: rest) := by simp
  have hread := readBasic_flatMap chars ('\n' :: rest)
  -- the string is not empty, so the quote is not the first of three
  obtain ⟨c, more, rfl⟩ := List.exists_cons_of_ne_nil h
  obtain ⟨d, text, hescape, hd⟩ := exists_escapeChar_eq_cons c
  rw [htext]
  rw [List.flatMap_cons, hescape, List.cons_append, List.cons_append] at hread ⊢
  show readValueWith _ _ = _
  unfold readValueWith
  split
  · next heq => exact absurd (List.cons.inj (List.cons.inj heq).2).1 hd
  · next heq => exact absurd (List.cons.inj heq).1 (by decide)
  · next heq =>
    rw [← (List.cons.inj heq).2, hread]
    rfl
  · next heq => exact absurd (List.cons.inj heq).1 (by decide)
  · next heq => exact absurd (List.cons.inj heq).1 (by decide)
  · next heq => exact absurd (List.cons.inj heq).1 (by decide)
  · next _ _ hnone _ _ _ => exact absurd rfl (hnone _)

end RecordFilter.Toml
