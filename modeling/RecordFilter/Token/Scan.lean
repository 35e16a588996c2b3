import RecordFilter.Token.Lexeme
import RecordFilter.Expr.Error

/-!
# A text as tokens

`tokenize` cuts a text into tokens from left to right, each the longest its first character
allows, and puts an empty token for the end of the input behind them. Characters without a use
are tokens too; the only failure is a string that never ends.
-/

namespace RecordFilter

/-- The tokens of a text that starts at `position`. -/
def tokensFrom (position : Position) : List Char → Except ExprError (List Token)
  | [] => .ok [⟨.endOfInput, "", position⟩]
  | c :: rest =>
    match lexeme c rest with
    | none => .error (.unterminatedString position)
    | some (kind, tail) =>
      let text := c :: rest.take tail
      match tokensFrom (position.after text) (rest.drop tail) with
      | .ok tokens => .ok (⟨kind, String.ofList text, position⟩ :: tokens)
      | .error e => .error e
termination_by text => text.length
decreasing_by simp only [List.length_drop, List.length_cons]; omega

/-- The tokens of a text, blanks and the end of the input included. -/
def tokenize (text : String) : Except ExprError (List Token) :=
  tokensFrom .start text.toList

/-- The tokens that are no blanks. -/
def withoutWhitespace (tokens : List Token) : List Token :=
  tokens.filter fun token => token.kind != .whitespace

end RecordFilter
