import RecordFilter.Outside

/-!
# Where settings are kept

The settings document lies at a path that a variable gives, or else in a directory of its own in
the user's directory for such documents.
-/

namespace RecordFilter.Settings

/-- A path with a further name. -/
def joinPath (path name : String) : String :=
  if path = "" ∨ path.toList.getLast? = some '/' then path ++ name else path ++ "/" ++ name

/-- The variable that gives the path of the document. -/
def pathVariable : String := "LEE_CONFIG"

/-- The variable that gives the directory for documents of all programs. -/
def directoryVariable : String := "XDG_CONFIG_HOME"

/-- The variable that gives the user's home directory. -/
def homeVariable : String := "HOME"

/-- The path of the document in a directory for documents of all programs. -/
def pathIn (directory : String) : String := joinPath (joinPath directory "lee") "config.toml"

/-- The user's home directory. An empty variable counts as none. -/
def home? {m : Type → Type} [Monad m] (outside : Outside m) : m (Option String) := do
  match ← outside.lookup homeVariable with
  | some home => if home = "" then outside.accountHome? else return some home
  | none => outside.accountHome?

/-- The path of the document, if there is a place for it. -/
def path? {m : Type → Type} [Monad m] (outside : Outside m) : m (Option String) := do
  match ← outside.lookup pathVariable with
  | some path => return some path
  | none =>
    match ← outside.lookup directoryVariable with
    | some directory => return some (pathIn directory)
    | none => return (← home? outside).map fun home => pathIn (joinPath home ".config")

/-! ## The directory of a path -/

/-- A path without the slashes and the names that mean nothing at its end. -/
def withoutTail : List Char → List Char
  | [] => []
  | '/' :: rest => withoutTail rest
  | '.' :: '/' :: rest => withoutTail rest
  | rest => rest

/-- The path of the directory that a path lies in; a path without a name lies in none. -/
def parent? (path : String) : Option String :=
  let backwards := withoutTail path.toList.reverse
  if backwards.isEmpty then none
  else
    let directory := backwards.dropWhile (· != '/')
    let trimmed := withoutTail directory
    let absolute := directory.isEmpty == false && trimmed.isEmpty
    some (String.ofList (if absolute then ['/'] else trimmed.reverse))

end RecordFilter.Settings
