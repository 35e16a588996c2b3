import RecordFilter.Expr.Error
import RecordFilter.Json.Writer
import RecordFilter.Outside
import RecordFilter.Record.Input
import RecordFilter.Settings.Document

/-!
# Failures of commands

Every way in which a command can fail, with the code and the message it is reported with and the
status that the program ends with.
-/

namespace RecordFilter

/-- What can be wrong with the settings. -/
inductive SettingsError where
  /-- There is no place to keep them. -/
  | noPlace
  /-- Their document cannot be read. -/
  | unreadable (cause : FileError)
  /-- Their document is no settings document. -/
  | malformed (cause : Settings.DocumentError)
  /-- A change is refused. -/
  | refused (cause : Settings.Refusal)
  /-- The directory of their document cannot be made. -/
  | noDirectory (cause : FileError)
  /-- Their document cannot be written. -/
  | unwritable (cause : FileError)
deriving DecidableEq, Repr

/-- The message of an error. -/
def SettingsError.message : SettingsError → String
  | noPlace => "Could not determine config directory"
  | unreadable cause => "Failed to read config: " ++ cause.message
  | malformed cause => "Failed to parse config: " ++ cause.message
  | refused cause => cause.message
  | noDirectory cause => "Failed to create config directory: " ++ cause.message
  | unwritable cause => "Failed to write config: " ++ cause.message

/-- Why a command fails. -/
inductive Failure where
  /-- The expression is none, or has no meaning. -/
  | expression (cause : ExprError)
  /-- The settings cannot be used or changed. -/
  | settings (cause : SettingsError)
  /-- The input holds no records. -/
  | input (cause : Record.InputError)
  /-- The standard input cannot be read. -/
  | standardInput (cause : FileError)
  /-- A file of records cannot be read. -/
  | inputFile (path : String) (cause : FileError)
deriving DecidableEq, Repr

namespace Failure

/-- The message of a failure. -/
def message : Failure → String
  | expression cause => "filter error: " ++ cause.message
  | settings cause => "configuration error: " ++ cause.message
  | input cause => "input error: " ++ cause.message
  | standardInput cause => "I/O error: " ++ cause.message
  | inputFile path cause => "I/O error: " ++ path ++ ": " ++ cause.message

/-- The code of a failure. -/
def code : Failure → String
  | expression _ => "FILTER_ERROR"
  | settings _ => "CONFIG_ERROR"
  | input _ => "INPUT_ERROR"
  | standardInput _ | inputFile _ _ => "IO_ERROR"

/-- The status that the program ends with. -/
def status : Failure → Nat
  | expression _ | input _ => 1
  | standardInput _ | inputFile _ _ => 3
  | settings _ => 5

/-- A failure as it is reported, as text or as a value. -/
def report (json : Bool) (failure : Failure) : String :=
  if json then
    Json.pretty (.sorted [("error",
      .sorted [("code", .string failure.code), ("message", .string failure.message)])])
  else "Error: " ++ failure.message

end Failure

end RecordFilter
