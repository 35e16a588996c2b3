import RecordFilter.Token.Cursor
import RecordFilter.Proofs.Token.OpenString

/-!
# Places and the text in front of them

A place is counted up while a text is scanned, one character after the other. What it comes to can
be said of the text in front of it alone: the line is one more than its line feeds, the column one
more than the characters behind the last of them (`Position.behind`). The main statement,
`tokenize_places`, says so of every token and of the complaint about a string that is left open.
A token keeps its place if the blanks around it are dropped, so the same holds of the tokens that
a cursor walks over.
-/

namespace RecordFilter

/-- The place behind a text that starts at the first place. -/
def Position.behind (text : List Char) : Position where
  line := text.count '\n' + 1
  column := (text.rtakeWhile fun c => c ≠ '\n').length + 1

/-- Counting up over a text comes to the place behind it. -/
theorem Position.start_after (text : List Char) : Position.start.after text = .behind text := by
  induction text using List.reverseRecOn with
  | nil => rfl
  | append_singleton text c ih =>
    rw [Position.after_append, ih, Position.after_cons, Position.after_nil]
    by_cases hc : c = '\n'
    · simp [Position.next, Position.behind, hc]
    · simp [Position.next, Position.behind, hc]

section Tokens

variable {text : String} {tokens : List Token}

/-- Every token of a text stands behind what the tokens before it spell. -/
theorem position_of_tokenize (h : tokenize text = .ok tokens) {before after : List Token}
    {token : Token} (hsplit : tokens = before ++ token :: after) :
    text.toList = spelling before ++ token.literal.toList ++ spelling after
      ∧ token.position = .behind (spelling before) := by
  obtain ⟨hmunched, hspelling⟩ := (tokenize_eq_ok_iff text tokens).mp h
  constructor
  · rw [← hspelling, hsplit]
    simp [spelling]
  · rw [hmunched.placed before token after hsplit, Position.start_after]

theorem withoutWhitespace_eq_filter (tokens : List Token) :
    withoutWhitespace tokens = tokens.filter fun token => token.kind ≠ .whitespace := by
  refine List.filter_congr fun token _ => ?_
  rw [decide_not]
  rfl

/-- What stands around a token that is no blank, the blanks left out. -/
theorem exists_split_of_withoutWhitespace {front back : List Token} {token : Token}
    (h : withoutWhitespace tokens = front ++ token :: back) :
    ∃ before after, tokens = before ++ token :: after ∧ withoutWhitespace before = front
      ∧ withoutWhitespace after = back := by
  obtain ⟨before, rest, rfl, hbefore, hrest⟩ := List.filter_eq_append_iff.mp h
  obtain ⟨blanks, after, rfl, hblanks, -, hafter⟩ := List.filter_eq_cons_iff.mp hrest
  refine ⟨before ++ blanks, after, (List.append_assoc ..).symm, ?_, hafter⟩
  have hnone : withoutWhitespace blanks = [] := List.filter_eq_nil_iff.mpr hblanks
  rw [withoutWhitespace_append, hnone, List.append_nil]
  exact hbefore

end Tokens

/-- **Places are those of the text in front.** Every token, blanks and the end of the input
included, stands at the place behind the texts of the tokens before it, and those texts are what
stands before it. Without the blanks the other tokens are left, in order and at the same places.
The complaint about a string that is left open names the place behind what stands in front of it. -/
theorem tokenize_places (text : String) :
    (∀ tokens, tokenize text = .ok tokens →
      (∀ before token after, tokens = before ++ token :: after →
        text.toList = spelling before ++ token.literal.toList ++ spelling after
          ∧ token.position = .behind (spelling before))
      ∧ ∃ cursor, Cursor.ofText text true = .ok cursor
        ∧ cursor.tokens = tokens.filter (fun token => token.kind ≠ .whitespace)
        ∧ ∀ front token back, cursor.tokens = front ++ token :: back →
          ∃ before after, tokens = before ++ token :: after
            ∧ before.filter (fun token => token.kind ≠ .whitespace) = front
            ∧ after.filter (fun token => token.kind ≠ .whitespace) = back
            ∧ token.position = .behind (spelling before))
    ∧ ∀ error, tokenize text = .error error →
      ∃ front quote body, LeavesOpen text front quote body
        ∧ error = .unterminatedString (.behind front.toList) := by
  constructor
  · intro tokens htokens
    refine ⟨fun before token after hsplit => position_of_tokenize htokens hsplit,
      Cursor.ofTokens tokens true, ?_, withoutWhitespace_eq_filter tokens, ?_⟩
    · rw [Cursor.ofText, htokens]
    · intro front token back hsplit
      obtain ⟨before, after, hcut, hfront, hback⟩ := exists_split_of_withoutWhitespace hsplit
      rw [withoutWhitespace_eq_filter] at hfront hback
      exact ⟨before, after, hcut, hfront, hback, (position_of_tokenize htokens hcut).2⟩
  · intro error herror
    obtain ⟨front, quote, body, hopen⟩ := exists_leavesOpen herror
    refine ⟨front, quote, body, hopen, ?_⟩
    rw [hopen.tokenize_eq, Position.start_after] at herror
    exact (Except.error.inj herror).symm

/-- A line feed inside of a string counts like one between two tokens, also if the string is left
open behind it. -/
theorem tokenize_places_lines :
    (∃ tokens token, tokenize "'x\ny'\n a" = .ok tokens ∧ token ∈ tokens
      ∧ token.kind = .identifier ∧ token.position = .behind "'x\ny'\n ".toList
      ∧ Position.behind "'x\ny'\n ".toList = ⟨3, 2⟩)
    ∧ ∃ front quote body, LeavesOpen "'x\ny' '\n" front quote body
      ∧ .unterminatedString (.behind front.toList) = ExprError.unterminatedString ⟨2, 4⟩ := by
  have htokens : tokenize "'x\ny'\n a" = .ok [⟨.string, "'x\ny'", ⟨1, 1⟩⟩,
      ⟨.whitespace, "\n ", ⟨2, 3⟩⟩, ⟨.identifier, "a", ⟨3, 2⟩⟩, ⟨.endOfInput, "", ⟨3, 3⟩⟩] := by
    decide +kernel
  have hopen : tokenize "'x\ny' '\n" = .error (.unterminatedString ⟨2, 4⟩) := by decide +kernel
  obtain ⟨hplace, -⟩ := (tokenize_places _).1 _ htokens
  obtain ⟨-, hword⟩ := hplace [⟨.string, "'x\ny'", ⟨1, 1⟩⟩, ⟨.whitespace, "\n ", ⟨2, 3⟩⟩]
    ⟨.identifier, "a", ⟨3, 2⟩⟩ [⟨.endOfInput, "", ⟨3, 3⟩⟩] rfl
  obtain ⟨front, quote, body, hleaves, herror⟩ := (tokenize_places _).2 _ hopen
  exact ⟨⟨_, _, htokens, by simp, rfl, hword, by decide⟩, front, quote, body, hleaves, herror.symm⟩

end RecordFilter
