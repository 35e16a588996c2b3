import RecordFilter.Json.Writer
import RecordFilter.Report.Style
import RecordFilter.Settings.Document

/-!
# Reports on settings
-/

namespace RecordFilter.Report

open Settings (booleanText)

/-! ## Text -/

/-- The line of a truth value, if it is set. -/
def settingLine (name : String) : Option Bool → String
  | some value => "  " ++ name ++ ": " ++ booleanText value ++ "\n"
  | none => ""

/-- The line of a declared field. -/
def declarationLine (field : String × FieldType) : String :=
  "  " ++ field.1 ++ ": " ++ field.2.name ++ "\n"

/-- The settings, section by section. -/
def settingsText (s : Settings) : String :=
  "[output]\n" ++ settingLine "color" s.color ++ settingLine "pretty" s.pretty
    ++ "\n[filter]\n" ++ settingLine "case_insensitive" s.ignoreCase
    ++ (if s.fields.isEmpty then "" else "\n[fields]\n")
    ++ String.join (s.fields.map declarationLine)

/-- What is said where there is no settings document. -/
def noDocumentText : String :=
  "(No config file exists. Run 'lee config set <key> <value>' to create one.)\n"

/-- The settings, with the path of their document and whether it exists. -/
def settingsTable (colors : Bool) (path : String) (present : Bool) (s : Settings) : String :=
  heading colors "Configuration" ++ "\n\nFile: " ++ path ++ "\nExists: " ++ booleanText present
    ++ "\n\n" ++ (if present then settingsText s else noDocumentText)

/-! ## Values -/

/-- A truth value as a member, if it is set. -/
def settingMember (name : String) : Option Bool → List (String × Json)
  | some value => [(name, .bool value)]
  | none => []

/-- The settings as a value, in key order. -/
def settingsJson (s : Settings) : Json :=
  .sorted <|
    [("version", .ofNat Settings.version),
      ("output", .sorted (settingMember "color" s.color ++ settingMember "pretty" s.pretty)),
      ("filter", .sorted (settingMember "case_insensitive" s.ignoreCase))]
    ++ if s.fields.isEmpty then []
      else [("fields", .sorted (s.fields.map fun f => (f.1, .string f.2.name)))]

/-- Where the settings document is, as a value. -/
def pathJson (path : String) (present : Bool) : Json :=
  .sorted [("path", .string path), ("exists", .bool present)]

/-- The settings with the path of their document, as a value. -/
def settingsReportJson (path : String) (present : Bool) (s : Settings) : Json :=
  .sorted [("path", .string path), ("exists", .bool present), ("config", settingsJson s)]

/-- A change that was made, as a value. -/
def changeJson (key value path : String) : Json :=
  .sorted [("status", .string "success"), ("key", .string key), ("value", .string value),
    ("path", .string path)]

end RecordFilter.Report
