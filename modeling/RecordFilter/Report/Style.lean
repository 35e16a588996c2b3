import RecordFilter.Token

/-!
# Colours

Output is coloured with the escape sequences of terminals: one switches a style on, another
switches it off again. Without colours a text is left as it is.
-/

namespace RecordFilter.Report

/-- A style of text, as the codes that switch it on and off. -/
structure Style where
  on : Nat
  off : Nat
deriving DecidableEq, Repr

namespace Style

/-- Bold text. -/
def bold : Style := ⟨1, 0⟩

/-- Pale text. -/
def dimmed : Style := ⟨2, 0⟩

/-- Text in red. -/
def red : Style := ⟨31, 39⟩

/-- Text in green. -/
def green : Style := ⟨32, 39⟩

/-- Text in yellow. -/
def yellow : Style := ⟨33, 39⟩

/-- Text in magenta. -/
def magenta : Style := ⟨35, 39⟩

/-- Text in cyan. -/
def cyan : Style := ⟨36, 39⟩

/-- The escape sequence of a code. -/
def sequence (code : Nat) : String := "\x1b[" ++ toString code ++ "m"

/-- A text in a style. -/
def paint (style : Style) (text : String) : String :=
  sequence style.on ++ text ++ sequence style.off

/-- A text in several styles, the outermost first. -/
def paintAll (styles : List Style) (text : String) : String := styles.foldr paint text

end Style

/-- The styles of a kind of token, the outermost first. -/
def stylesOf : TokenKind → List Style
  | .identifier => [.cyan]
  | .string | .number => [.green]
  | .and | .or => [.bold, .magenta]
  | .illegal => [.bold, .red]
  | .whitespace | .endOfInput => [.dimmed]
  | .leftParen | .rightParen => []
  | .notEquals | .equals | .matching | .notMatching | .less | .greater | .lessOrEqual
  | .greaterOrEqual => [.yellow]

/-- A text in the styles of a kind of token. -/
def paintToken (colors : Bool) (kind : TokenKind) (text : String) : String :=
  if colors then Style.paintAll (stylesOf kind) text else text

/-- The heading of a part of a report. -/
def heading (colors : Bool) (text : String) : String :=
  if colors then Style.paintAll [.bold, .green] text else text

end RecordFilter.Report
