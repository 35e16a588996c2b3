import RecordFilter.Text.Case

/-!
# Letters that differ in case only

Two characters are equivalent if they have the same *key*. The key of a letter is its small form,
except that a few small letters are variants of others and share their key: the long s, the final
sigma, the letters that stand for symbols.
-/

namespace RecordFilter.Text

/-- Small letters that are variants of another small letter, and that letter. -/
def letterVariants : List (Char × Char) := [
  ('\u00b5', '\u03bc'), ('\u017f', '\u0073'), ('\u0345', '\u03b9'), ('\u03c2', '\u03c3'),
  ('\u03d0', '\u03b2'), ('\u03d1', '\u03b8'), ('\u03d5', '\u03c6'), ('\u03d6', '\u03c0'),
  ('\u03f0', '\u03ba'), ('\u03f1', '\u03c1'), ('\u03f5', '\u03b5'), ('\u1c80', '\u0432'),
  ('\u1c81', '\u0434'), ('\u1c82', '\u043e'), ('\u1c83', '\u0441'), ('\u1c84', '\u0442'),
  ('\u1c85', '\u0442'), ('\u1c86', '\u044a'), ('\u1c87', '\u0463'), ('\u1c88', '\ua64b'),
  ('\u1e9b', '\u1e61'), ('\u1fbe', '\u03b9'), ('\u1fd3', '\u0390'), ('\u1fe3', '\u03b0'),
  ('\ufb05', '\ufb06')]

/-- What two characters share exactly if they differ in case only. -/
def caseKey (c : Char) : Char := (letterVariants.lookup c).getD (smallForm c)

/-- The characters with a given key. -/
def keyed (key : Char) : List Char :=
  key :: (capitalsOf key ++ (letterVariants.filter fun v => v.2 == key).map Prod.fst)

/-- The characters that differ from a character in case only, itself included. -/
def caseVariants (c : Char) : List Char := keyed (caseKey c)

/-- The letters of ASCII that differ from a character in case only, and the character itself. -/
def asciiCaseVariants (c : Char) : List Char :=
  if c.isUpper then [c, c.toLower] else if c.isLower then [c, c.toUpper] else [c]

end RecordFilter.Text
