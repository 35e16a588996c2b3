import RecordFilter.Json.Writer
import RecordFilter.Report.Style

/-!
# Reports on tokens
-/

namespace RecordFilter.Report

/-- Tokens, one per line. -/
def tokenTable (colors : Bool) (tokens : List Token) : String :=
  String.join <| tokens.map fun t => paintToken colors t.kind t.describe ++ "\n"

/-- A token as a value. -/
def tokenJson (t : Token) : Json :=
  .object [("type", .string t.kind.name), ("literal", .string t.literal),
    ("line", .ofNat t.position.line), ("column", .ofNat t.position.column)]

/-- Tokens as a value. -/
def tokensJson (tokens : List Token) : Json :=
  .object [("tokens", .array (tokens.map tokenJson))]

end RecordFilter.Report
