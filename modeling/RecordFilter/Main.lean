import RecordFilter.CommandLine.Arguments
import RecordFilter.CommandLine.Run

/-!
# The program

The computer as what lies outside, and the way from arguments to output and status.
-/

namespace RecordFilter.Program

/-- An error of the system as a reason why a file cannot be read or written. -/
def fileErrorOf : IO.Error → FileError
  | .noFileOrDirectory .. => .notFound
  | .alreadyExists .. => .alreadyExists
  | .inappropriateType _ code _ => if code = 20 then .notDirectory else .isDirectory
  | e => .other (toString e)

/-- An action of the system that may be refused. -/
def refusable {α : Type} (action : IO α) : IO (Except FileError α) := do
  try return .ok (← action) catch e => return .error (fileErrorOf e)

/-- An action that gives bytes, as one that gives the text they spell. -/
def asText (action : IO ByteArray) : IO (Except FileError String) := do
  return (← refusable action).bind textOfBytes

/-- Whether a path leads anywhere, which shows when what is there is opened. -/
def leadsSomewhere (path : String) : IO Bool := do
  match ← refusable (IO.FS.Handle.mk path .read) with
  | .error .notFound | .error .notDirectory => return false
  | _ => return true

/-- The computer as what lies outside. -/
def computer : Outside IO where
  lookup name := IO.getEnv name
  accountHome? := return none
  pathExists := leadsSomewhere
  fileText path := asText (IO.FS.readBinFile path)
  inputText := asText do (← IO.getStdin).readBinToEnd
  makeDirectories path := refusable (IO.FS.createDirAll path)
  storeText path text := refusable (IO.FS.writeFile path text)

/-- Runs a command and reports what comes of it. -/
def execute (invocation : Invocation) : IO UInt32 := do
  let ending := invocation.ending (← (invocation.run computer).run)
  IO.print ending.output
  IO.eprint ending.complaint
  return ending.status.toUInt32

end RecordFilter.Program

open RecordFilter in
/-- Runs the program. -/
def main (arguments : List String) : IO UInt32 := do
  match Arguments.parse arguments with
  | .ok invocation => Program.execute invocation
  | .error e =>
    if e.isRequest then
      IO.println e.message
      return 0
    else
      IO.eprintln e.message
      return 2
