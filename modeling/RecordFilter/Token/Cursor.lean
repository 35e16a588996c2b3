import RecordFilter.Token.Scan

/-!
# Cursors

A cursor walks over a list of tokens. Its index is a machine word, which only grows, one token at a
time, or goes back to the start; asking for a token never moves it and has no answer beyond the end.

The two sums over the index are not made alike. Moving on stays at the greatest word there is. The
look at the next token adds plainly, so from the greatest word it comes round to the first token.
-/

namespace RecordFilter

/-- A list of tokens and the word for the index of the current one, which may lie beyond the
end. -/
structure Cursor where
  tokens : List Token
  word : UInt64
deriving DecidableEq, Repr

namespace Cursor

/-- The greatest index that fits into a word. -/
def maxIndex : Nat := UInt64.size - 1

/-- The index of the current token. -/
def index (cursor : Cursor) : Nat :=
  cursor.word.toNat

/-- The cursor on another index, or on the greatest one that fits. -/
def moveTo (cursor : Cursor) (index : Nat) : Cursor :=
  { cursor with word := .ofNatClamp index }

/-- A cursor on the first token, over all tokens or over those that are no blanks. -/
def ofTokens (tokens : List Token) (skipWhitespace : Bool) : Cursor :=
  ⟨if skipWhitespace then withoutWhitespace tokens else tokens, 0⟩

/-- A cursor over the tokens of a text. -/
def ofText (text : String) (skipWhitespace : Bool) : Except ExprError Cursor :=
  match tokenize text with
  | .ok tokens => .ok (ofTokens tokens skipWhitespace)
  | .error e => .error e

/-- The token under the cursor. -/
def current? (cursor : Cursor) : Option Token :=
  cursor.tokens[cursor.index]?

/-- The token after the one under the cursor. The sum is one of words: behind the greatest index
comes the first token again (where sums are checked, the program stops there instead). -/
def peekNext? (cursor : Cursor) : Option Token :=
  cursor.tokens[(cursor.word + 1).toNat]?

/-- One token further, also beyond the end, as far as words go. -/
def advance (cursor : Cursor) : Cursor :=
  cursor.moveTo (cursor.index + 1)

/-- Back to the first token. -/
def reset (cursor : Cursor) : Cursor :=
  { cursor with word := 0 }

/-- The last token of the list, wherever the cursor stands. -/
def last? (cursor : Cursor) : Option Token :=
  cursor.tokens.getLast?

/-- How many tokens the list has. -/
def length (cursor : Cursor) : Nat :=
  cursor.tokens.length

/-- Whether the list has no tokens at all. -/
def isEmpty (cursor : Cursor) : Bool :=
  cursor.tokens.isEmpty

/-- The tokens from the current one on. -/
def remaining (cursor : Cursor) : List Token :=
  cursor.tokens.drop cursor.index

/-- Where a complaint about a missing token points: at the last token, or at the start of the
text if there is none. -/
def endPosition (cursor : Cursor) : Position :=
  match cursor.last? with
  | some token => token.position
  | none => .start

/-! ## Indices and words -/

theorem index_le_maxIndex (cursor : Cursor) : cursor.index ≤ maxIndex :=
  Nat.le_sub_one_of_lt cursor.word.toNat_lt_size

@[simp] theorem tokens_moveTo (cursor : Cursor) (k : Nat) :
    (cursor.moveTo k).tokens = cursor.tokens := rfl

/-- An index that fits is reached. -/
theorem index_moveTo_of_le (cursor : Cursor) {k : Nat} (h : k ≤ maxIndex) :
    (cursor.moveTo k).index = k :=
  UInt64.toNat_ofNatClamp_of_lt (Nat.lt_of_le_sub_one (by decide) h)

/-- In place of any other index it is the greatest. -/
theorem index_moveTo_of_ge (cursor : Cursor) {k : Nat} (h : maxIndex ≤ k) :
    (cursor.moveTo k).index = maxIndex := by
  rcases Nat.eq_or_lt_of_le h with rfl | hlt
  · exact cursor.index_moveTo_of_le (Nat.le_refl _)
  · exact UInt64.toNat_ofNatClamp_of_le (Nat.succ_le_of_lt hlt)

@[simp] theorem index_moveTo (cursor : Cursor) (k : Nat) :
    (cursor.moveTo k).index = min k maxIndex := by
  rcases Nat.le_total k maxIndex with h | h
  · rw [index_moveTo_of_le cursor h, Nat.min_eq_left h]
  · rw [index_moveTo_of_ge cursor h, Nat.min_eq_right h]

/-- At the start everything remains. -/
@[simp] theorem remaining_mk_zero (tokens : List Token) : (Cursor.mk tokens 0).remaining = tokens :=
  rfl

/-- A cursor is known by its tokens and its index. -/
theorem ext_index {a b : Cursor} (htokens : a.tokens = b.tokens) (hindex : a.index = b.index) :
    a = b := by
  obtain ⟨tokens, word⟩ := a
  obtain ⟨others, other⟩ := b
  obtain rfl : tokens = others := htokens
  obtain rfl : word = other := UInt64.toNat_inj.mp hindex
  rfl

@[simp] theorem moveTo_moveTo (cursor : Cursor) (j k : Nat) :
    (cursor.moveTo j).moveTo k = cursor.moveTo k := rfl

end Cursor

end RecordFilter
