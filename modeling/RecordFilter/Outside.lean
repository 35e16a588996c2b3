/-!
# What lies outside

The program reaches for its surroundings in a few ways only: it looks up variables, it asks
whether a file exists, it reads and writes texts, and it reads its standard input. These ways are
gathered in a record over the monad that they happen in, so that the program is one definition
whether it runs on a computer or on a `Disk`.
-/

namespace RecordFilter

/-- Why a file cannot be read or written. -/
inductive FileError where
  | notFound
  | isDirectory
  | notDirectory
  /-- Something else stands where a directory is to be made. -/
  | alreadyExists
  /-- The bytes are no text. -/
  | notText
  /-- Any other reason, in the words of the system. -/
  | other (reason : String)
deriving DecidableEq, Repr

/-- The message of an error. -/
def FileError.message : FileError → String
  | notFound => "No such file or directory (os error 2)"
  | isDirectory => "Is a directory (os error 21)"
  | notDirectory => "Not a directory (os error 20)"
  | alreadyExists => "File exists (os error 17)"
  | notText => "stream did not contain valid UTF-8"
  | other reason => reason

/-- The text that bytes spell. -/
def textOfBytes (bytes : ByteArray) : Except FileError String :=
  match String.fromUTF8? bytes with
  | some text => .ok text
  | none => .error .notText

/-- The ways in which the program reaches outside. -/
structure Outside (m : Type → Type) where
  /-- The value of an environment variable, if it is set. -/
  lookup : String → m (Option String)
  /-- The home directory that the system keeps for the user, if it keeps one. -/
  accountHome? : m (Option String)
  /-- Whether there is a file or a directory at a path. -/
  pathExists : String → m Bool
  /-- The text of a file. -/
  fileText : String → m (Except FileError String)
  /-- The text of the standard input. -/
  inputText : m (Except FileError String)
  /-- Makes a directory and those that it lies in, as far as they are missing. -/
  makeDirectories : String → m (Except FileError Unit)
  /-- Writes the text of a file. -/
  storeText : String → String → m (Except FileError Unit)

end RecordFilter
