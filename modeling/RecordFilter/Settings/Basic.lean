import RecordFilter.Record.FieldType
import RecordFilter.Text.Keyed

/-!
# Settings

What a user can set once and for all: whether output is coloured, whether records are laid out
over several lines, whether patterns regard case, and the types of fields. A setting is changed by
its key, which names a section and, behind the first dot, what is set in it.
-/

namespace RecordFilter

/-- The settings of a user. What is not set has a default at the place of its use. -/
structure Settings where
  /-- Whether output is coloured. -/
  color : Option Bool
  /-- Whether records are laid out over several lines. -/
  pretty : Option Bool
  /-- Whether patterns disregard case. -/
  ignoreCase : Option Bool
  /-- The types of declared fields, in the order of their names. -/
  fields : List (String × FieldType)
deriving DecidableEq, Repr

namespace Settings

/-- Nothing is set. -/
def default : Settings := ⟨none, none, none, []⟩

/-! ## Changes -/

/-- A change of one setting. -/
inductive Change where
  | color (value : Bool)
  | pretty (value : Bool)
  | ignoreCase (value : Bool)
  | field (name : String) (type : FieldType)
deriving DecidableEq, Repr

/-- The settings after a change. -/
def apply (settings : Settings) : Change → Settings
  | .color value => { settings with color := some value }
  | .pretty value => { settings with pretty := some value }
  | .ignoreCase value => { settings with ignoreCase := some value }
  | .field name type => { settings with fields := Keyed.insert name type settings.fields }

/-! ## Changes as text -/

/-- Why a key and a value are no change. -/
inductive Refusal where
  /-- There is no such setting. -/
  | unknownKey (key : String)
  /-- The value is no truth value. -/
  | notBoolean (value : String)
  /-- The value is no field type. -/
  | notFieldType (value : String)
deriving DecidableEq, Repr

/-- The keys of settings, as messages list them. -/
def validKeys : String := "output.color, output.pretty, filter.case_insensitive, fields.<name>"

/-- The message of a refusal. -/
def Refusal.message : Refusal → String
  | unknownKey key => "Unknown config key '" ++ key ++ "'. Valid keys: " ++ validKeys
  | notBoolean value =>
    "Invalid boolean value '" ++ value ++ "'. Use true/false, yes/no, 1/0, or on/off"
  | notFieldType value => FieldType.refusal value

/-- The truth value that a text spells in any casing. -/
def boolean? (text : String) : Option Bool :=
  match String.ofList (Text.lowercase text) with
  | "true" | "yes" | "1" | "on" => some true
  | "false" | "no" | "0" | "off" => some false
  | _ => none

/-- The truth value that a text spells. -/
def readBoolean (text : String) : Except Refusal Bool :=
  match boolean? text with
  | some value => .ok value
  | none => .error (.notBoolean text)

/-- The field type that a text names. -/
def readFieldType (text : String) : Except Refusal FieldType :=
  match FieldType.ofText? text with
  | some type => .ok type
  | none => .error (.notFieldType text)

/-- A text in front of its first dot and behind it. -/
def splitDot (text : List Char) : Option (List Char × List Char) :=
  match text.dropWhile (· != '.') with
  | [] => none
  | _ :: behind => some (text.takeWhile (· != '.'), behind)

/-- The change that a key and a value spell. -/
def Change.ofText (key value : String) : Except Refusal Change :=
  match splitDot key.toList with
  | none => .error (.unknownKey key)
  | some (part, name) =>
    match String.ofList part, String.ofList name with
    | "output", "color" => .color <$> readBoolean value
    | "output", "pretty" => .pretty <$> readBoolean value
    | "filter", "case_insensitive" => .ignoreCase <$> readBoolean value
    | "fields", name =>
      if name = "" then .error (.unknownKey key) else .field name <$> readFieldType value
    | _, _ => .error (.unknownKey key)

end Settings

end RecordFilter
