import Mathlib
import RecordFilter.Token.Lexeme

/-!
# The shapes of tokens

What the text of a token looks like, by its kind, and which characters the token could have gone
on with. Neither is said by way of the scanning functions: a shape speaks about a finished text,
and an extension about one more character.

The two together determine a lexeme. A text of a shape, followed by a character that it could not
have gone on with, is what `lexeme` cuts off (`lexeme_append_of_hasShape`), and whatever `lexeme`
cuts off is such a text (`hasShape_of_lexeme`).
-/

namespace RecordFilter

open Lexeme

/-! ## Shapes -/

/-- What can stand between two quotes: a backslash takes the character after it along, and no
other character is a backslash or the quote. -/
inductive StringBody (quote : Char) : List Char → Prop where
  | nil : StringBody quote []
  | escaped (c : Char) {rest : List Char} (h : StringBody quote rest) :
    StringBody quote ('\\' :: c :: rest)
  | plain {c : Char} {rest : List Char} (notEscape : c ≠ '\\') (notQuote : c ≠ quote)
    (h : StringBody quote rest) : StringBody quote (c :: rest)

/-- Digits with at most one point, the first character a digit. -/
structure IsNumeral (text : List Char) : Prop where
  first : ∃ c ∈ text.head?, isDigit c
  chars : ∀ c ∈ text, isDigit c ∨ c = '.'
  points : text.count '.' ≤ 1

/-- A letter or `_`, then letters, digits or `_`. -/
structure IsWord (text : List Char) : Prop where
  first : ∃ c ∈ text.head?, isWordStart c
  chars : ∀ c ∈ text, isWordChar c

/-- A text is a keyword in some casing. -/
def SpellsKeyword (keyword text : List Char) : Prop :=
  text.map Char.toLower = keyword

instance (keyword text : List Char) : Decidable (SpellsKeyword keyword text) :=
  inferInstanceAs (Decidable (text.map Char.toLower = keyword))

/-- A quote, a body in which that quote does not stand unescaped, and the quote again. -/
def IsQuoted (text : List Char) : Prop :=
  ∃ quote body, isQuote quote ∧ StringBody quote body ∧ text = quote :: (body ++ [quote])

/-- A character that no token of another kind begins with. -/
structure IsStray (c : Char) : Prop where
  notDigit : isDigit c = false
  notBlank : Text.isBlank c = false
  notWordStart : isWordStart c = false
  notQuote : isQuote c = false
  notSymbol : c ∉ ['=', '!', '<', '>', '&', '|', '(', ')']

/-- The shape that a kind of token gives to its text. -/
def HasShape : TokenKind → List Char → Prop
  | .illegal, text => ∃ c, text = [c] ∧ (IsStray c ∨ c = '!' ∨ c = '&' ∨ c = '|')
  | .endOfInput, text => text = []
  | .whitespace, text => text ≠ [] ∧ ∀ c ∈ text, Text.isBlank c
  | .identifier, text =>
    IsWord text ∧ ¬ SpellsKeyword ['a', 'n', 'd'] text ∧ ¬ SpellsKeyword ['o', 'r'] text
  | .number, text => IsNumeral text
  | .string, text => IsQuoted text
  | .notEquals, text => text = ['!', '=']
  | .equals, text => text = ['=']
  | .matching, text => text = ['=', '~']
  | .notMatching, text => text = ['!', '~']
  | .less, text => text = ['<']
  | .greater, text => text = ['>']
  | .lessOrEqual, text => text = ['<', '=']
  | .greaterOrEqual, text => text = ['>', '=']
  | .leftParen, text => text = ['(']
  | .rightParen, text => text = [')']
  | .or, text => text = ['|', '|'] ∨ (IsWord text ∧ SpellsKeyword ['o', 'r'] text)
  | .and, text => text = ['&', '&'] ∨ (IsWord text ∧ SpellsKeyword ['a', 'n', 'd'] text)

/-- Whether a token of a kind, with a text of its shape, could have gone on with a character. -/
def CanGoOn : TokenKind → List Char → Char → Prop
  | .whitespace, _, c => Text.isBlank c
  | .identifier, _, c => isWordChar c
  | .number, text, c => isDigit c ∨ (c = '.' ∧ '.' ∉ text)
  | .equals, _, c => c = '~'
  | .less, _, c => c = '='
  | .greater, _, c => c = '='
  | .or, text, c => text ≠ ['|', '|'] ∧ isWordChar c
  | .and, text, c => text ≠ ['&', '&'] ∧ isWordChar c
  | .illegal, text, c =>
    (text = ['!'] ∧ (c = '=' ∨ c = '~')) ∨ (text = ['&'] ∧ c = '&') ∨ (text = ['|'] ∧ c = '|')
  | _, _, _ => False

/-- A token that ends in front of a text, because it could not have gone on with it. -/
def EndsBefore (kind : TokenKind) (text rest : List Char) : Prop :=
  ∀ c ∈ rest.head?, ¬ CanGoOn kind text c

theorem IsWord.ne_nil {text : List Char} (h : IsWord text) : text ≠ [] := by
  rintro rfl
  obtain ⟨c, hc, -⟩ := h.first
  cases hc

theorem IsNumeral.ne_nil {text : List Char} (h : IsNumeral text) : text ≠ [] := by
  rintro rfl
  obtain ⟨c, hc, -⟩ := h.first
  cases hc

/-- Every token but the one for the end of the input has a text. -/
theorem ne_nil_of_hasShape {kind : TokenKind} {text : List Char} (h : HasShape kind text)
    (hkind : kind ≠ .endOfInput) : text ≠ [] := by
  cases kind with
  | endOfInput => exact absurd rfl hkind
  | illegal =>
    obtain ⟨c, rfl, -⟩ := h
    exact List.cons_ne_nil _ _
  | whitespace => exact h.1
  | identifier => exact h.1.ne_nil
  | number => exact IsNumeral.ne_nil h
  | string =>
    obtain ⟨quote, body, -, -, rfl⟩ := h
    exact List.cons_ne_nil _ _
  -- the connectives are symbols or words
  | or =>
    rcases h with rfl | h
    · exact List.cons_ne_nil _ _
    · exact h.1.ne_nil
  | and =>
    rcases h with rfl | h
    · exact List.cons_ne_nil _ _
    · exact h.1.ne_nil
  | _ =>
    rintro rfl
    simp [HasShape] at h

/-! ## Character classes are apart -/

namespace Lexeme

/-- The digits are ten neighbours among the code points. -/
theorem isDigit_iff {c : Char} : isDigit c = true ↔ 48 ≤ c.toNat ∧ c.toNat ≤ 57 := by
  simp only [isDigit, Char.isDigit, Bool.and_eq_true, decide_eq_true_eq, ge_iff_le,
    UInt32.le_iff_toNat_le]
  exact Iff.rfl

/-- A word begins with a letter of the basic alphabet or an underscore. -/
theorem isWordStart_iff {c : Char} :
    isWordStart c = true ↔
      ((65 ≤ c.toNat ∧ c.toNat ≤ 90) ∨ (97 ≤ c.toNat ∧ c.toNat ≤ 122)) ∨ c = '_' := by
  simp only [isWordStart, Char.isAlpha, Char.isUpper, Char.isLower, Bool.or_eq_true,
    Bool.and_eq_true, decide_eq_true_eq, ge_iff_le, UInt32.le_iff_toNat_le, beq_iff_eq]
  exact Iff.rfl

/-- The blanks by their code points. -/
theorem isBlank_iff {c : Char} :
    Text.isBlank c = true ↔
      (9 ≤ c.toNat ∧ c.toNat ≤ 13) ∨ c.toNat = 0x20 ∨ c.toNat = 0x85 ∨ c.toNat = 0xA0
        ∨ c.toNat = 0x1680 ∨ (0x2000 ≤ c.toNat ∧ c.toNat ≤ 0x200A) ∨ c.toNat = 0x2028
        ∨ c.toNat = 0x2029 ∨ c.toNat = 0x202F ∨ c.toNat = 0x205F ∨ c.toNat = 0x3000 := by
  simp only [Text.isBlank, Bool.or_eq_true, Bool.and_eq_true, decide_eq_true_eq, beq_iff_eq,
    or_assoc]

/-- No blank is a digit: the first character of a token tells its kind. -/
theorem isDigit_of_isBlank {c : Char} (h : Text.isBlank c = true) : isDigit c = false := by
  have hb := isBlank_iff.mp h
  rw [← Bool.not_eq_true, isDigit_iff]
  omega

/-- No word begins like a number. -/
theorem isDigit_of_isWordStart {c : Char} (h : isWordStart c = true) : isDigit c = false := by
  rcases isWordStart_iff.mp h with hw | rfl
  · rw [← Bool.not_eq_true, isDigit_iff]
    omega
  · decide

/-- No word begins with a blank. -/
theorem isBlank_of_isWordStart {c : Char} (h : isWordStart c = true) :
    Text.isBlank c = false := by
  rcases isWordStart_iff.mp h with hw | rfl
  · rw [← Bool.not_eq_true, isBlank_iff]
    omega
  · decide

/-- What a word may begin with may stand inside it too. -/
theorem isWordChar_of_isWordStart {c : Char} (h : isWordStart c = true) :
    isWordChar c = true := by
  simp only [isWordStart, Bool.or_eq_true] at h
  simp only [isWordChar, Char.isAlphanum, Bool.or_eq_true]
  rcases h with h | h
  · exact Or.inl (Or.inl h)
  · exact Or.inr h

/-- There are two quotes. -/
theorem eq_of_isQuote {c : Char} (h : isQuote c = true) : c = '"' ∨ c = '\'' := by
  simpa [isQuote] using h

/-- The sign that escapes a character does not end a string. -/
theorem ne_backslash_of_isQuote {c : Char} (h : isQuote c = true) : c ≠ '\\' := by
  rcases eq_of_isQuote h with rfl | rfl <;> decide

end Lexeme

/-! ## Shapes by the first character and the others -/

/-- A word by its first character and the others. -/
theorem isWord_cons_iff {c : Char} {rest : List Char} :
    IsWord (c :: rest) ↔ isWordStart c = true ∧ ∀ d ∈ rest, isWordChar d = true := by
  constructor
  · intro h
    obtain ⟨d, hd, hstart⟩ := h.first
    obtain rfl : c = d := Option.some.inj hd
    exact ⟨hstart, fun x hx => h.chars x (List.mem_cons_of_mem _ hx)⟩
  · rintro ⟨hstart, hrest⟩
    refine ⟨⟨c, rfl, hstart⟩, fun x hx => ?_⟩
    rcases List.mem_cons.mp hx with rfl | hx
    · exact isWordChar_of_isWordStart hstart
    · exact hrest x hx

/-- A numeral by its first digit and the others, with one point among them at most. -/
theorem isNumeral_cons_iff {c : Char} {rest : List Char} :
    IsNumeral (c :: rest) ↔
      isDigit c = true ∧ (∀ d ∈ rest, isDigit d = true ∨ d = '.') ∧ rest.count '.' ≤ 1 := by
  constructor
  · intro h
    obtain ⟨d, hd, hdigit⟩ := h.first
    obtain rfl : c = d := Option.some.inj hd
    refine ⟨hdigit, fun x hx => h.chars x (List.mem_cons_of_mem _ hx), ?_⟩
    exact Nat.le_trans List.count_le_count_cons h.points
  · rintro ⟨hdigit, hrest, hpoints⟩
    have hne : c ≠ '.' := by
      rintro rfl
      exact absurd hdigit (by decide)
    refine ⟨⟨c, rfl, hdigit⟩, fun x hx => ?_, ?_⟩
    · rcases List.mem_cons.mp hx with rfl | hx
      · exact Or.inl hdigit
      · exact hrest x hx
    -- the digit in front is no point, so the points are those of the rest
    · rw [List.count_cons_of_ne hne]
      exact hpoints

end RecordFilter
