/-!
# Blank characters

The characters that separate tokens, surround field declarations and make a line empty. They
are the characters of the Unicode property `White_Space`; core's `Char.isWhitespace` knows only
the ASCII ones, and not all of those.
-/

namespace RecordFilter.Text

/-- The characters with the Unicode property `White_Space`. -/
def isBlank (c : Char) : Bool :=
  let n := c.toNat
  (9 ≤ n && n ≤ 13) || n == 0x20 || n == 0x85 || n == 0xA0 || n == 0x1680
    || (0x2000 ≤ n && n ≤ 0x200A) || n == 0x2028 || n == 0x2029 || n == 0x202F || n == 0x205F
    || n == 0x3000

/-- The text without its leading blanks. -/
def trimStart (text : List Char) : List Char :=
  text.dropWhile isBlank

/-- The text without its trailing blanks. -/
def trimEnd (text : List Char) : List Char :=
  (text.reverse.dropWhile isBlank).reverse

/-- The text without the blanks on either side. -/
def trim (text : List Char) : List Char :=
  trimEnd (trimStart text)

end RecordFilter.Text
