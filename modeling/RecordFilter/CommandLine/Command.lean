import RecordFilter.Record.FieldType

/-!
# Commands

What the program can be asked to do.
-/

namespace RecordFilter

/-- A shell that completions can be generated for. -/
inductive Shell where
  | bash
  | zsh
  | fish
  | powershell
deriving DecidableEq, Repr

/-- The name of a shell. -/
def Shell.name : Shell → String
  | bash => "bash"
  | zsh => "zsh"
  | fish => "fish"
  | powershell => "powershell"

/-- The shell of a name. -/
def Shell.ofName? (name : String) : Option Shell :=
  [bash, zsh, fish, powershell].find? fun shell => shell.name == name

/-- How records are to be filtered. -/
structure FilterOptions where
  /-- The expression. -/
  expression : String
  /-- The path of the file with the records; the standard input is read if there is none. -/
  input : Option String
  /-- Declared fields, in the order in which they were given. -/
  fields : List (String × FieldType)
  /-- Whether patterns disregard case. -/
  ignoreCase : Bool
  /-- How many records are shown at most. -/
  limit : Option Nat
  /-- Whether only their number is shown. -/
  count : Bool
deriving DecidableEq, Repr

/-- A command. -/
inductive Command where
  /-- Says what the program is. -/
  | introduction
  /-- Shows the tokens of an expression, those of blanks included or not. -/
  | tokens (expression : String) (keepWhitespace : Bool)
  /-- Shows the structure of an expression. -/
  | parse (expression : String)
  /-- Shows the records that an expression holds of. -/
  | filter (options : FilterOptions)
  /-- Shows the settings. -/
  | showSettings
  /-- Changes a setting. -/
  | changeSetting (key value : String)
  /-- Shows where the settings are kept. -/
  | settingsPath
  /-- Generates completions. -/
  | completions (shell : Shell)
deriving DecidableEq, Repr

/-- The options that every command has. -/
structure CommonOptions where
  verbose : Bool
  quiet : Bool
  json : Bool
  noColor : Bool
deriving DecidableEq, Repr

/-- A command with its options. -/
structure Invocation where
  common : CommonOptions
  command : Command
deriving DecidableEq, Repr

end RecordFilter
