import RecordFilter.Json.Writer
import RecordFilter.Report.Style

/-!
# Reports on records
-/

namespace RecordFilter.Report

/-- Records, each on a line of its own or laid out over several. -/
def recordLines (pretty : Bool) (records : List Json) : String :=
  String.join <| records.map fun r => (if pretty then r.pretty else r.write) ++ "\n"

/-- Records as one value. -/
def recordsJson (records : List Json) : Json :=
  .object [("count", .ofNat records.length), ("records", .array records)]

/-- The number of records. -/
def countLine (colors : Bool) (count : Nat) : String :=
  (if colors then Style.bold.paint (toString count) else toString count) ++ "\n"

/-- The number of records as a value. -/
def countJson (count : Nat) : Json := .object [("count", .ofNat count)]

end RecordFilter.Report
