import RecordFilter.Proofs.Expr.Acceptance

/-!
# Histories of a cursor

To whoever uses it a cursor is a row of tokens and a number. `Operation` lists what can be asked of
a cursor and done with it; `Operation.answer` and `Operation.move` say what each of these answers at
a number and where it leads, for a plain row, without a cursor. `perform_moveTo` compares the two
for one operation, `performAll_moveTo` for a whole history, by induction.

The number has no bound, the index of a cursor has one. As long as the row fits into it the two
differ in one answer only: from the greatest index the look at the next token comes round to the
first one (`peekNext?_moveTo`), which a cursor over one token can be brought to
(`not_peekNext?_eq_getElem?`).

Only reading an expression moves a cursor by more than one token. It steps over as many tokens as
walk the machine (`Reader.taken`), and none of these ends the input.
-/

namespace RecordFilter

namespace Reader

variable {s s' : State} {token : Token} {front tokens : List Token}

/-! ## Tokens that are stepped over -/

/-- How many tokens a run from a state steps over. -/
def taken (s : State) : List Token → Nat
  | [] => 0
  | token :: rest =>
    match step s token with
    | .ok (.next s') => taken s' rest + 1
    | .ok (.finished _) => 0
    | .error _ => 0

theorem taken_of_walks (h : Walks s front s') (rest : List Token) :
    taken s (front ++ rest) = front.length + taken s' rest := by
  induction h with
  | nil => exact (Nat.zero_add _).symm
  | cons hmove _ ih =>
    rw [List.cons_append, taken, step_of_moves hmove, List.length_cons, Nat.add_right_comm]
    exact congrArg Nat.succ ih

theorem taken_le_length (s : State) (tokens : List Token) : taken s tokens ≤ tokens.length := by
  induction tokens generalizing s with
  | nil => exact Nat.le_refl 0
  | cons token rest ih =>
    rw [taken, List.length_cons]
    split
    · exact Nat.succ_le_succ (ih _)
    · exact Nat.zero_le _
    · exact Nat.zero_le _

/-- The end of the input is never stepped over. -/
theorem Moves.kind_ne_endOfInput (h : Moves s token s') : token.kind ≠ .endOfInput := by
  intro hkind
  cases h with
  | opening hopening => cases hkind.symm.trans hopening
  | identifier hidentifier => cases hkind.symm.trans hidentifier
  | comparison hitem =>
    rw [hkind] at hitem
    cases hitem
  | literal hvalue =>
    simp only [literalValue, hkind] at hvalue
    cases hvalue
  | connective hitem =>
    rw [hkind] at hitem
    cases hitem
  | closing hclosing => cases hkind.symm.trans hclosing

theorem taken_le_of_endOfInput {j : Nat} (htoken : tokens[j]? = some token)
    (hkind : token.kind = .endOfInput) (s : State) : taken s tokens ≤ j := by
  induction tokens generalizing s j with
  | nil => cases htoken
  | cons next rest ih =>
    rw [taken]
    split
    · next s' hstep =>
      cases j with
      | zero =>
        obtain rfl : next = token := Option.some.inj htoken
        exact absurd hkind (moves_of_step hstep).kind_ne_endOfInput
      | succ j => exact Nat.succ_le_succ (ih htoken s')
    · exact Nat.zero_le _
    · exact Nat.zero_le _

end Reader

namespace Cursor

open Reader (taken)

/-- Where reading leaves a cursor. -/
theorem read_snd (cursor : Cursor) : cursor.read.2
    = cursor.moveTo (cursor.index + taken .initial cursor.remaining) := by
  obtain ⟨front, s, hwalk, hend⟩ := cursor.read_cases
  rcases hend with ⟨hremaining, hread⟩ | ⟨token, rest, hremaining, hstop⟩
  · have htaken := Reader.taken_of_walks hwalk []
    rw [List.append_nil, ← hremaining, Reader.taken, Nat.add_zero] at htaken
    rw [hread, htaken, hremaining]
  · have htaken := Reader.taken_of_walks hwalk (token :: rest)
    rw [← hremaining, Reader.taken] at htaken
    rcases hstop with ⟨e, hstep, hread⟩ | ⟨error, hstep, hread⟩
    · rw [hstep] at htaken
      rw [hread, htaken, Nat.add_zero]
    · rw [hstep] at htaken
      rw [hread, htaken, Nat.add_zero]

/-! ## Operations -/

/-- What can be asked of a cursor or done with it. -/
inductive Operation where
  /-- The token under the cursor. -/
  | current
  /-- The token after that. -/
  | peekNext
  /-- The last token of the list. -/
  | last
  /-- How many tokens there are. -/
  | length
  /-- Whether there are none. -/
  | isEmpty
  /-- All tokens in their order, which is also how a cursor is iterated over. -/
  | tokens
  /-- One token further. -/
  | advance
  /-- Back to the first token. -/
  | reset
  /-- Reading an expression from where the cursor stands. -/
  | parse
deriving DecidableEq, Repr

/-- What an operation answers with. -/
inductive Answer where
  | done
  | token (token : Option Token)
  | count (tokens : Nat)
  | truth (holds : Bool)
  | row (tokens : List Token)
  | parsed (result : Except ExprError Expr)

/-- The answer to an operation and the cursor behind it. -/
def perform (cursor : Cursor) : Operation → Answer × Cursor
  | .current => (.token cursor.current?, cursor)
  | .peekNext => (.token cursor.peekNext?, cursor)
  | .last => (.token cursor.last?, cursor)
  | .length => (.count cursor.length, cursor)
  | .isEmpty => (.truth cursor.isEmpty, cursor)
  | .tokens => (.row cursor.tokens, cursor)
  | .advance => (.done, cursor.advance)
  | .reset => (.done, cursor.reset)
  | .parse => (.parsed cursor.read.1, cursor.read.2)

/-- The answers to one operation after the other, and the cursor behind them all. -/
def performAll (cursor : Cursor) : List Operation → List Answer × Cursor
  | [] => ([], cursor)
  | operation :: rest =>
    let performed := cursor.perform operation
    let others := performed.2.performAll rest
    (performed.1 :: others.1, others.2)

/-! ## A row and a number -/

/-- What is answered at a number of a row. -/
def Operation.answer (row : List Token) (k : Nat) : Operation → Answer
  | .current => .token row[k]?
  | .peekNext => .token (if k < maxIndex then row[k + 1]? else row[0]?)
  | .last => .token row.getLast?
  | .length => .count row.length
  | .isEmpty => .truth (row.length == 0)
  | .tokens => .row row
  | .advance => .done
  | .reset => .done
  | .parse => .parsed ((Cursor.mk row 0).moveTo k).read.1

/-- Where an operation leads from a number of a row. -/
def Operation.move (row : List Token) (k : Nat) : Operation → Nat
  | .advance => k + 1
  | .reset => 0
  | .parse => k + taken .initial (row.drop k)
  | .current | .peekNext | .last | .length | .isEmpty | .tokens => k

/-- What is answered to a history that starts at a number of a row. -/
def answers (row : List Token) (k : Nat) : List Operation → List Answer
  | [] => []
  | operation :: rest => operation.answer row k :: answers row (operation.move row k) rest

section Words

variable (cursor : Cursor) (k : Nat)

/-- Moving on from a number leads to the next one, or stays at the greatest index. -/
theorem advance_moveTo : (cursor.moveTo k).advance = cursor.moveTo (k + 1) := by
  refine ext_index rfl ?_
  rw [advance, moveTo_moveTo, index_moveTo, index_moveTo, index_moveTo]
  omega

/-- The one sum of words that is not stopped at the greatest of them. -/
theorem toNat_word_add_one : ((cursor.moveTo k).word + 1).toNat
    = if k < maxIndex then k + 1 else 0 := by
  have hindex : (cursor.moveTo k).word.toNat = min k maxIndex := index_moveTo cursor k
  have hone : (1 : UInt64).toNat = 1 := by decide
  have hmax : maxIndex = 2 ^ 64 - 1 := rfl
  rw [UInt64.toNat_add, hindex, hone]
  split <;> omega

theorem peekNext?_moveTo : (cursor.moveTo k).peekNext?
    = if k < maxIndex then cursor.tokens[k + 1]? else cursor.tokens[0]? := by
  rw [peekNext?, toNat_word_add_one, tokens_moveTo]
  split <;> rfl

variable (hlength : cursor.tokens.length ≤ maxIndex)

include hlength

/-- Beyond the greatest index there is nothing, as there is nothing beyond the row. -/
theorem remaining_moveTo : (cursor.moveTo k).remaining = cursor.tokens.drop k := by
  rw [remaining, tokens_moveTo, index_moveTo]
  rcases Nat.le_total k maxIndex with h | h
  · rw [Nat.min_eq_left h]
  · rw [Nat.min_eq_right h, List.drop_of_length_le hlength,
      List.drop_of_length_le (Nat.le_trans hlength h)]

theorem current?_moveTo : (cursor.moveTo k).current? = cursor.tokens[k]? := by
  have hremaining := congrArg List.head? (remaining_moveTo cursor k hlength)
  rw [remaining, List.head?_drop, List.head?_drop] at hremaining
  exact hremaining

theorem read_moveTo_snd : (cursor.moveTo k).read.2
    = cursor.moveTo (k + taken .initial (cursor.tokens.drop k)) := by
  rw [read_snd, remaining_moveTo cursor k hlength, moveTo_moveTo, index_moveTo]
  refine ext_index rfl ?_
  rw [index_moveTo, index_moveTo]
  omega

/-- A cursor does what its row and its number say, and keeps the row. -/
theorem perform_moveTo (operation : Operation) : (cursor.moveTo k).perform operation
    = (operation.answer cursor.tokens k,
      cursor.moveTo (operation.move cursor.tokens k)) := by
  cases operation with
  | current => rw [perform, current?_moveTo cursor k hlength, Operation.answer, Operation.move]
  | peekNext => rw [perform, peekNext?_moveTo, Operation.answer, Operation.move]
  | last => rfl
  | length => rfl
  | isEmpty =>
    obtain ⟨row, word⟩ := cursor
    cases row <;> rfl
  | tokens => rfl
  | advance => rw [perform, advance_moveTo, Operation.answer, Operation.move]
  | reset => rfl
  | parse =>
    rw [perform, read_moveTo_snd cursor k hlength]
    rfl

theorem performAll_moveTo (history : List Operation) : (cursor.moveTo k).performAll history
    = (answers cursor.tokens k history,
      cursor.moveTo (history.foldl (Operation.move cursor.tokens) k)) := by
  induction history generalizing k with
  | nil => rfl
  | cons operation rest ih =>
    rw [performAll, perform_moveTo cursor k hlength, ih]
    rfl

end Words

/-! ## How far a history leads -/

section Bounds

variable (row : List Token) (k : Nat)

/-- Reading never steps over the end of the row, wherever it begins. -/
theorem move_parse_le : Operation.parse.move row k ≤ max k row.length := by
  have htaken := Reader.taken_le_length .initial (row.drop k)
  rw [List.length_drop] at htaken
  rw [Operation.move]
  omega

/-- Only advancing leads on beyond the end of the row, by one. -/
theorem move_le (operation : Operation) :
    operation.move row k ≤ max k row.length + [operation].count .advance := by
  cases operation with
  | advance => exact Nat.succ_le_succ (Nat.le_max_left _ _)
  | reset => exact Nat.zero_le _
  | parse => exact move_parse_le row k
  | current | peekNext | last | length | isEmpty | tokens => exact Nat.le_max_left _ _

theorem foldl_move_le (history : List Operation) : history.foldl (Operation.move row) k
    ≤ max k row.length + history.count .advance := by
  induction history generalizing k with
  | nil => exact Nat.le_max_left _ _
  | cons operation rest ih =>
    have hmove := move_le row k operation
    have hrest := ih (operation.move row k)
    rw [List.foldl_cons, List.count_cons]
    rw [List.count_singleton] at hmove
    omega

end Bounds

/-! ## Where reading stops -/

/-- Where a cursor may be left when an expression is read from where it stands, whether this
succeeds or not. -/
structure StopsAt (cursor : Cursor) (stop : Nat) : Prop where
  left : cursor.read.2 = cursor.moveTo stop
  start_le : cursor.index ≤ stop
  le_end : stop ≤ max cursor.index cursor.tokens.length
  /-- No end of the input from here on is stepped over. -/
  le_endOfInput : ∀ j token, cursor.index ≤ j → cursor.tokens[j]? = some token →
    token.kind = .endOfInput → stop ≤ j
  /-- An expression that is read consists of the tokens that were stepped over. -/
  expression : ∀ e, cursor.read.1 = .ok e → e.SpelledBy (cursor.upTo stop)
    ∧ ∃ token, cursor.tokens[stop]? = some token ∧ token.kind = .endOfInput

theorem stopsAt (cursor : Cursor) (hlength : cursor.tokens.length ≤ maxIndex) :
    cursor.StopsAt (cursor.index + taken .initial cursor.remaining) where
  left := cursor.read_snd
  start_le := Nat.le_add_right _ _
  le_end := move_parse_le cursor.tokens cursor.index
  le_endOfInput j token hstart htoken hkind := by
    have hremaining : cursor.remaining[j - cursor.index]? = some token := by
      rw [remaining, List.getElem?_drop, Nat.add_sub_cancel' hstart, htoken]
    have htaken := Reader.taken_le_of_endOfInput hremaining hkind .initial
    omega
  expression e he := by
    obtain ⟨j, haccepts, hspelled⟩ := exists_accepts_of_read he
    -- an accepted index is the one that the cursor is left on, and both of them fit
    have hread := read_eq_of_spelledBy haccepts hspelled
    have hindex := congrArg (fun read => read.2.index) hread
    simp only [read_snd, index_moveTo] at hindex
    have hend := move_parse_le cursor.tokens cursor.index
    have hstart := cursor.index_le_maxIndex
    obtain ⟨token, htoken, hkind⟩ := haccepts.ended
    have hj := (List.getElem?_eq_some_iff.mp htoken).1
    rw [Operation.move] at hend
    have hstop : cursor.index + taken .initial cursor.remaining = j := by
      rw [remaining] at hindex ⊢
      omega
    rw [hstop]
    exact ⟨hspelled, token, htoken, hkind⟩

/-! ## Cursors and rows -/

theorem withoutWhitespace_eq_filter (tokens : List Token) :
    withoutWhitespace tokens = tokens.filter fun token => token.kind ≠ .whitespace :=
  List.filter_congr fun _ _ => Bool.eq_iff_iff.mpr (bne_iff_ne.trans decide_eq_true_iff.symm)

/-- A new cursor is one on the number zero of its row. -/
theorem ofTokens_eq_moveTo (tokens : List Token) (skipWhitespace : Bool) :
    ofTokens tokens skipWhitespace = (ofTokens tokens skipWhitespace).moveTo 0 := rfl

/-- **A cursor is a row and a number, but for the look at the next token from the greatest index.**
The row is that of the tokens that it was made of, without the blanks if these are skipped, and no
history changes it. The number begins at zero; it decides what is answered, beyond the end of the
row too, and whatever is asked leaves it alone. Reading an expression adds the tokens that were
stepped over. Nothing but advancing goes beyond the end, and by one each time. The index of the
cursor is the number, as far as words go; from the greatest one on the look at the next token
answers with the first. Behind any history the first token is where a new cursor would begin. -/
theorem performAll_refines_row (tokens : List Token) (skipWhitespace : Bool)
    (history : List Operation) (hlength : tokens.length ≤ maxIndex) :
    let row := if skipWhitespace then tokens.filter fun token => token.kind ≠ .whitespace
      else tokens
    let k := history.foldl (Operation.move row) 0
    let fresh := ofTokens tokens skipWhitespace
    let cursor := (fresh.performAll history).2
    fresh.performAll history = (answers row 0 history, fresh.moveTo k)
      ∧ cursor.tokens = row ∧ cursor.index = min k maxIndex
      ∧ cursor.current? = row[k]? ∧ (row.length ≤ k → cursor.current? = none)
      ∧ (k < maxIndex → cursor.peekNext? = row[k + 1]?
        ∧ (row.length ≤ k + 1 → cursor.peekNext? = none))
      ∧ (maxIndex ≤ k → cursor.peekNext? = row.head?)
      ∧ cursor.remaining = row.drop k
      ∧ cursor.StopsAt (cursor.index + taken .initial cursor.remaining)
      ∧ k ≤ row.length + history.count .advance
      ∧ cursor.reset = fresh ∧ cursor.reset.read = fresh.read := by
  intro row k fresh cursor
  have hrow : fresh.tokens = row := by
    simp only [fresh, row, ofTokens, withoutWhitespace_eq_filter]
  have hfits : fresh.tokens.length ≤ maxIndex := by
    have hfilter : row.length ≤ tokens.length := by
      simp only [row]
      split
      · exact List.length_filter_le _ _
      · exact Nat.le_refl _
    rw [hrow]
    exact Nat.le_trans hfilter hlength
  have hrun : fresh.performAll history = (answers row 0 history, fresh.moveTo k) := by
    have hmoves := performAll_moveTo fresh 0 hfits history
    rwa [hrow] at hmoves
  have hcursor : cursor = fresh.moveTo k := congrArg Prod.snd hrun
  have hcurrent : cursor.current? = row[k]? := by
    rw [hcursor, current?_moveTo fresh k hfits, hrow]
  have hpeek : cursor.peekNext? = if k < maxIndex then row[k + 1]? else row[0]? := by
    rw [hcursor, peekNext?_moveTo, hrow]
  have hreset : cursor.reset = fresh := by
    rw [hcursor]
    rfl
  refine ⟨hrun, ?_, ?_, hcurrent, fun hend => ?_, fun hbelow => ?_, fun habove => ?_, ?_, ?_, ?_,
    hreset, congrArg read hreset⟩
  · rw [hcursor, tokens_moveTo, hrow]
  · rw [hcursor, index_moveTo]
  · rw [hcurrent, List.getElem?_eq_none hend]
  · rw [if_pos hbelow] at hpeek
    exact ⟨hpeek, fun hend => by rw [hpeek, List.getElem?_eq_none hend]⟩
  · rw [hpeek, if_neg (Nat.not_lt.mpr habove), List.head?_eq_getElem?]
  · rw [hcursor, remaining_moveTo fresh k hfits, hrow]
  · rw [hcursor]
    exact stopsAt _ hfits
  · have hbound := foldl_move_le row 0 history
    rwa [Nat.zero_max] at hbound

/-- An expression, a failed attempt where the first input ends, and one in front of the
parenthesis behind it. -/
theorem performAll_refines_row_of_two_inputs :
    let row : List Token := [⟨.identifier, "a", ⟨1, 1⟩⟩, ⟨.equals, "=", ⟨1, 2⟩⟩,
      ⟨.string, "'b'", ⟨1, 3⟩⟩, ⟨.endOfInput, "", ⟨1, 6⟩⟩, ⟨.rightParen, ")", ⟨1, 7⟩⟩,
      ⟨.endOfInput, "", ⟨1, 8⟩⟩]
    let history : List Operation := [.parse, .parse, .advance, .parse]
    let cursor := ((ofTokens row true).performAll history).2
    row.length ≤ maxIndex ∧ history.foldl (Operation.move row) 0 = 4 ∧ cursor.index = 4
      ∧ cursor.current? = some ⟨.rightParen, ")", ⟨1, 7⟩⟩
      ∧ cursor.peekNext? = some ⟨.endOfInput, "", ⟨1, 8⟩⟩
      ∧ cursor.StopsAt 4 ∧ cursor.reset.read = (ofTokens row true).read := by
  intro row history cursor
  have hlength : row.length ≤ maxIndex := by decide
  have hmoves : history.foldl (Operation.move row) 0 = 4 := by decide
  obtain ⟨-, -, hindex, hcurrent, -, hpeek, -, -, hstops, -, -, hread⟩ :=
    performAll_refines_row row true history hlength
  have hrow : (row.filter fun token => token.kind ≠ .whitespace) = row := by decide
  rw [if_pos rfl, hrow, hmoves] at hindex hcurrent hpeek
  have htaken : cursor.index + taken .initial cursor.remaining = 4 := by decide
  rw [htaken] at hstops
  exact ⟨hlength, hmoves, hindex, hcurrent, (hpeek (by decide)).1, hstops, hread⟩

/-! ## The greatest index -/

theorem foldl_move_replicate_advance (row : List Token) (n k : Nat) :
    (List.replicate n Operation.advance).foldl (Operation.move row) k = k + n := by
  induction n generalizing k with
  | zero => rfl
  | succ n ih =>
    rw [List.replicate_succ, List.foldl_cons, ih, Operation.move]
    omega

/-- What a cursor over one token sees before it, however far it was moved on. -/
theorem peekNext?_of_replicate_advance (token : Token) (n : Nat) :
    ((ofTokens [token] false).performAll (List.replicate n .advance)).2.peekNext?
      = if n < maxIndex then none else some token := by
  have hlength : (ofTokens [token] false).tokens.length ≤ maxIndex :=
    show 1 ≤ maxIndex by decide
  rw [ofTokens_eq_moveTo, performAll_moveTo _ 0 hlength, foldl_move_replicate_advance,
    Nat.zero_add, peekNext?_moveTo]
  rfl

/-- What comes next is not always the token behind the number: moved on to the greatest index, a
cursor over the end of the input alone sees this very token before it. -/
theorem not_peekNext?_eq_getElem? :
    ¬ ∀ (tokens : List Token) (skipWhitespace : Bool) (history : List Operation),
      let row := if skipWhitespace then tokens.filter fun token => token.kind ≠ .whitespace
        else tokens
      let k := history.foldl (Operation.move row) 0
      ((ofTokens tokens skipWhitespace).performAll history).2.peekNext? = row[k + 1]? := by
  intro h
  have hpeek := h [⟨.endOfInput, "", ⟨1, 1⟩⟩] false (List.replicate maxIndex .advance)
  rw [peekNext?_of_replicate_advance, if_neg (Nat.lt_irrefl _)] at hpeek
  exact Option.some_ne_none _ (hpeek.trans (List.getElem?_eq_none (Nat.le_add_left 1 _)))

end Cursor
end RecordFilter
