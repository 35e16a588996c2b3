import RecordFilter.Json.Reader
import RecordFilter.Text.Blank
import RecordFilter.Text.Lines

/-!
# Reading records

Records come as one JSON array or as one JSON value per line. Which of the two it is shows in the
first character that is not blank. Lines that are blank hold no record, but count when a line is
named.
-/

namespace RecordFilter.Record

/-- Why a text holds no records. -/
inductive InputError where
  /-- It begins like an array but is none. -/
  | notArray (cause : JsonError)
  /-- A line, counted from one, is no value. -/
  | badLine (number : Nat) (cause : JsonError)
deriving DecidableEq, Repr

/-- The message of an error. -/
def InputError.message : InputError → String
  | notArray cause => "invalid JSON array: " ++ cause.message
  | badLine number cause => "line " ++ toString number ++ ": " ++ cause.message

/-- The records of several lines, the first of which has the given number. -/
def ofLines (number : Nat) : List (List Char) → Except InputError (List Json)
  | [] => .ok []
  | line :: lines =>
    if (Text.trim line).isEmpty then ofLines (number + 1) lines
    else
      match Json.ofText line with
      | .error cause => .error (.badLine number cause)
      | .ok record => do
        let records ← ofLines (number + 1) lines
        return record :: records

/-- The records of a text that begins like an array. -/
def ofArray (text : List Char) : Except InputError (List Json) :=
  match Json.ofText text with
  | .ok (.array records) => .ok records
  | .ok _ => .error (.notArray (.unexpectedCharacter '['))
  | .error cause => .error (.notArray cause)

/-- The records of a text. -/
def ofText (text : String) : Except InputError (List Json) :=
  let trimmed := Text.trimStart text.toList
  if trimmed.isEmpty then .ok []
  else if trimmed.head? = some '[' then ofArray trimmed
  else ofLines 1 (Text.lines text.toList)

/-- The first records that an expression holds of, as many as are asked for. -/
def select (limit : Option Nat) (test : Json → Bool) (records : List Json) : List Json :=
  let matching := records.filter test
  match limit with
  | some count => matching.take count
  | none => matching

end RecordFilter.Record
