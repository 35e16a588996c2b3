import RecordFilter.Settings.Basic
import RecordFilter.Toml.Document
import RecordFilter.Toml.Writer

/-!
# Settings as a document

Settings are kept as a TOML document with a version and a table for each section. Keys that mean
nothing are passed over when a document is read, and dropped when it is written again. So is the
version, of which there is only one.
-/

namespace RecordFilter.Settings

/-- Why a text is no settings document. -/
inductive DocumentError where
  /-- It is no TOML document. -/
  | malformed (cause : TomlError)
  /-- A key has a value of a kind that it cannot have. -/
  | wrongValue (key : String)
deriving DecidableEq, Repr

/-- The message of an error. -/
def DocumentError.message : DocumentError → String
  | malformed cause => "TOML parse error: " ++ cause.message
  | wrongValue key => "invalid value for " ++ key

/-- The version of the documents that are written. -/
def version : Nat := 1

/-! ## Reading -/

/-- Checks a version: a number of 32 bits. -/
def checkVersion : Option Toml → Except DocumentError Unit
  | none => .ok ()
  | some (.integer n) => if 0 ≤ n ∧ n < twoTo 32 then .ok () else .error (.wrongValue "version")
  | some _ => .error (.wrongValue "version")

/-- A truth value that may be missing. -/
def optionalBoolean (name : String) : Option Toml → Except DocumentError (Option Bool)
  | none => .ok none
  | some (.boolean value) => .ok (some value)
  | some _ => .error (.wrongValue name)

/-- The truth values with the given names in a section. A section may also be an array that holds
them in their order; a date is a section with none of them. -/
def readFlags (name : String) (names : List String) :
    Option Toml → Except DocumentError (List (Option Bool))
  | none => .ok (names.map fun _ => none)
  | some .moment => .ok (names.map fun _ => none)
  | some (.table _ entries) =>
    names.mapM fun flag => optionalBoolean flag (Keyed.find? flag entries)
  | some (.array items) =>
    if items.length < names.length then .error (.wrongValue name)
    else (items.take names.length).mapM fun item => optionalBoolean name (some item)
  | some _ => .error (.wrongValue name)

/-- The field type of an exact name. -/
def exactType? (name : String) : Option FieldType :=
  if name = FieldType.string.name then some .string
  else if name = FieldType.number.name then some .number
  else none

/-- Whether a value holds nothing. -/
def isVoid : Toml → Bool
  | .table _ entries => entries.isEmpty
  | .array items => items.isEmpty
  | _ => false

/-- The field type that a value stands for: its name, or a table with its name as the only key
and nothing under it. -/
def fieldType? : Toml → Option FieldType
  | .string name => exactType? name
  | .table _ [(name, value)] => if isVoid value then exactType? name else none
  | _ => none

/-- A declared field. -/
def readField (entry : String × Toml) : Except DocumentError (String × FieldType) :=
  match fieldType? entry.2 with
  | some type => .ok (entry.1, type)
  | none => .error (.wrongValue entry.1)

/-- The declared fields. -/
def readFields : Option Toml → Except DocumentError (List (String × FieldType))
  | none => .ok []
  | some (.table _ entries) => entries.mapM readField
  | some _ => .error (.wrongValue "fields")

/-- The settings that the entries of a document hold. -/
def ofEntries (entries : List (String × Toml)) : Except DocumentError Settings := do
  checkVersion (Keyed.find? "version" entries)
  let output ← readFlags "output" ["color", "pretty"] (Keyed.find? "output" entries)
  let filter ← readFlags "filter" ["case_insensitive"] (Keyed.find? "filter" entries)
  let fields ← readFields (Keyed.find? "fields" entries)
  return ⟨(output[0]?).join, (output[1]?).join, (filter[0]?).join, fields⟩

/-- The settings that a document holds. -/
def ofText (text : String) : Except DocumentError Settings :=
  match Toml.ofText text with
  | .ok entries => ofEntries entries
  | .error cause => .error (.malformed cause)

/-! ## Writing -/

/-- A truth value as text. -/
def booleanText (value : Bool) : String := if value then "true" else "false"

/-- The line that sets a truth value, if it is set. -/
def flagLine (name : String) : Option Bool → String
  | some value => name ++ " = " ++ booleanText value ++ "\n"
  | none => ""

/-- The line that declares a field. -/
def fieldLine (field : String × FieldType) : String :=
  String.ofList (Toml.keyText field.1) ++ " = \"" ++ field.2.name ++ "\"\n"

/-- The section of declared fields, which is left out if there are none. -/
def fieldsText (fields : List (String × FieldType)) : String :=
  if fields.isEmpty then "" else "\n[fields]\n" ++ String.join (fields.map fieldLine)

/-- Settings as a document. -/
def toText (settings : Settings) : String :=
  "version = " ++ toString version ++ "\n\n[output]\n" ++ flagLine "color" settings.color
    ++ flagLine "pretty" settings.pretty ++ "\n[filter]\n"
    ++ flagLine "case_insensitive" settings.ignoreCase ++ fieldsText settings.fields

end RecordFilter.Settings
