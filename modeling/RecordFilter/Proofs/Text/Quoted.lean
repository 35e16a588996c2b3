import RecordFilter.Proofs.Token.Shape
import RecordFilter.Text.Quoted

/-!
# Quoting and unquoting

A text is quoted with a backslash in front of every backslash and every quote. What stands between
the quotes then is a body that a string token can have (`stringBody_escape`), and resolving its
escapes gives the text again (`resolveEscapes_escape`). The rule for escapes is thereby the same
where a string is cut off and where it is unquoted.
-/

namespace RecordFilter.Text.Quoted

open Lexeme (isQuote)

variable {quote : Char}

theorem resolveEscapes_cons_of_ne {c : Char} (h : c ≠ '\\') (rest : List Char) :
    resolveEscapes (c :: rest) = c :: resolveEscapes rest := by
  rw [resolveEscapes]
  · exact fun hc _ => h hc
  · exact fun _ _ hc _ => h hc

/-- Escapes are resolved to the text that was escaped. -/
theorem resolveEscapes_escape (quote : Char) (text : List Char) :
    resolveEscapes (escape quote text) = text := by
  induction text with
  | nil => rfl
  | cons c rest ih =>
    by_cases h : c = '\\' ∨ c = quote
    · rw [escape, if_pos h, resolveEscapes, ih]
    · rw [escape, if_neg h, resolveEscapes_cons_of_ne (fun hc => h (.inl hc)), ih]

/-- An escaped text has no quote in it that could end a string. -/
theorem stringBody_escape (quote : Char) (text : List Char) :
    StringBody quote (escape quote text) := by
  induction text with
  | nil => exact .nil
  | cons c rest ih =>
    by_cases h : c = '\\' ∨ c = quote
    · rw [escape, if_pos h]
      exact .escaped c ih
    · rw [escape, if_neg h]
      exact .plain (fun hc => h (.inl hc)) (fun hc => h (.inr hc)) ih

theorem isQuoted_encode (h : isQuote quote = true) (text : List Char) :
    IsQuoted (encode quote text) :=
  ⟨quote, escape quote text, h, stringBody_escape quote text, rfl⟩

/-- Of a quoted text both quotes are taken off, and no more. -/
theorem decode_quoted (h : isQuote quote = true) (body : List Char) :
    decode (quote :: (body ++ [quote])) = resolveEscapes body := by
  have hquotes : (quote = '"' ∨ quote = '\'') ∧ (body ++ [quote]).getLast? = some quote :=
    ⟨Lexeme.eq_of_isQuote h, List.getLast?_concat⟩
  rw [decode, withoutQuotes, if_pos hquotes, List.dropLast_concat]

theorem decode_encode (h : isQuote quote = true) (text : List Char) :
    decode (encode quote text) = text := by
  rw [encode, decode_quoted h, resolveEscapes_escape]

end RecordFilter.Text.Quoted
