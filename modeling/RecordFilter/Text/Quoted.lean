/-!
# Quoted texts

A string literal is a text between two equal quotes, in which a backslash stands for nothing but
takes the character after it literally. `decode` gives the text that a literal stands for, and
`encode` writes a text as a literal.
-/

namespace RecordFilter.Text.Quoted

/-- The text with every backslash replaced by the character after it. A backslash at the very end
has none and is dropped. -/
def resolveEscapes : List Char → List Char
  | [] => []
  | ['\\'] => []
  | '\\' :: c :: rest => c :: resolveEscapes rest
  | c :: rest => c :: resolveEscapes rest

/-- The text between the quotes, if the text begins and ends with the same quote and these are
two characters; otherwise all of it. -/
def withoutQuotes : List Char → List Char
  | [] => []
  | c :: rest =>
    if (c = '"' ∨ c = '\'') ∧ rest.getLast? = some c then rest.dropLast else c :: rest

/-- The text that a literal stands for. -/
def decode (literal : List Char) : List Char :=
  resolveEscapes (withoutQuotes literal)

/-- A text with a backslash before every backslash and every quote of the given form. -/
def escape (quote : Char) : List Char → List Char
  | [] => []
  | c :: rest =>
    if c = '\\' ∨ c = quote then '\\' :: c :: escape quote rest else c :: escape quote rest

/-- A text as a literal in quotes of the given form. -/
def encode (quote : Char) (text : List Char) : List Char :=
  quote :: (escape quote text ++ [quote])

end RecordFilter.Text.Quoted
