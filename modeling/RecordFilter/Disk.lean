import RecordFilter.Outside

/-!
# Disks

A disk holds files and directories at absolute places. A place is the list of the names on the way
to it; paths are looked up from the place where the program stands, name by name, so that every
name but the last has to be that of a directory.
-/

namespace RecordFilter

/-- The names on the way from the root of a disk. -/
abbrev Place : Type := List String

/-- What is at a place. -/
inductive Entry where
  | directory
  | file (text : String)
deriving DecidableEq, Repr

/-- A disk, and the place where the program stands. -/
structure Disk where
  here : Place
  entries : List (Place × Entry)
deriving DecidableEq, Repr

namespace Disk

/-- What is at a place; the root is always a directory. -/
def entry? (disk : Disk) (place : Place) : Option Entry :=
  if place.isEmpty then some .directory else disk.entries.lookup place

/-- Puts something at a place. -/
def put (disk : Disk) (place : Place) (entry : Entry) : Disk :=
  { disk with entries := (place, entry) :: disk.entries.filter fun e => e.1 != place }

/-! ## Paths -/

/-- The names of a path, with an empty one wherever nothing stands between two slashes. -/
def splitPath : List Char → List (List Char)
  | [] => [[]]
  | c :: rest =>
    if c = '/' then [] :: splitPath rest
    else
      match splitPath rest with
      | [] => [[c]]
      | name :: names => (c :: name) :: names

/-- The names of a path. -/
def names (path : String) : List String := (splitPath path.toList).map String.ofList

/-- The place where a path begins. -/
def origin (disk : Disk) (path : String) : Place :=
  if path.toList.head? = some '/' then [] else disk.here

/-- The place of a path, going on from a directory. -/
def walk (disk : Disk) (place : Place) : List String → Except FileError Place
  | [] => .ok place
  | name :: rest =>
    if name = "" ∨ name = "." then disk.walk place rest
    else if name = ".." then disk.walk place.dropLast rest
    else
      let next := place ++ [name]
      match disk.entry? next with
      | some .directory => disk.walk next rest
      | some (.file _) => if rest.isEmpty then .ok next else .error .notDirectory
      | none => if rest.isEmpty then .ok next else .error .notFound

/-- The place of a path, whether there is something or not. -/
def locate (disk : Disk) (path : String) : Except FileError Place :=
  if path = "" then .error .notFound else disk.walk (disk.origin path) (names path)

/-! ## Reading and writing -/

/-- Whether there is something at a path. -/
def pathExists (disk : Disk) (path : String) : Bool :=
  match disk.locate path with
  | .ok place => (disk.entry? place).isSome
  | .error _ => false

/-- The text of a file. -/
def fileText (disk : Disk) (path : String) : Except FileError String := do
  match disk.entry? (← disk.locate path) with
  | some (.file text) => .ok text
  | some .directory => .error .isDirectory
  | none => .error .notFound

/-- The disk with a text written to a file. -/
def storeText (disk : Disk) (path text : String) : Except FileError Disk := do
  let place ← disk.locate path
  match disk.entry? place with
  | some .directory => .error .isDirectory
  | _ => .ok (disk.put place (.file text))

/-- The complaint about a file where a directory is to be made, with the names behind it. -/
def fileInTheWay (rest : List String) : FileError :=
  if rest.all fun name => name = "" ∨ name = "." then .alreadyExists else .notDirectory

/-- Makes the directories on a path, going on from one. A file in the way ends this; what was made
before it stays. From the first directory that is made the others are tried one after the other, so
that a file among them is one that exists, whatever is behind it. -/
def makeAlong (disk : Disk) (place : Place) : List String → Except FileError Unit × Disk
  | [] => (.ok (), disk)
  | name :: rest =>
    if name = "" ∨ name = "." then disk.makeAlong place rest
    else if name = ".." then disk.makeAlong place.dropLast rest
    else
      let next := place ++ [name]
      match disk.entry? next with
      | some .directory => disk.makeAlong next rest
      | some (.file _) => (.error (fileInTheWay rest), disk)
      | none =>
        let beyond := (disk.put next .directory).makeAlong next rest
        (beyond.1.mapError fun _ => .alreadyExists, beyond.2)

/-- Makes a directory and those that it lies in, as far as this is possible. -/
def makeDirectories (disk : Disk) (path : String) : Except FileError Unit × Disk :=
  disk.makeAlong (disk.origin path) (names path)

/-! ## A disk as the outside -/

/-- The surroundings of a run: the environment variables, the home directory that the system keeps,
and the standard input. -/
structure Surroundings where
  environment : List (String × String)
  accountHome : Option String
  input : Except FileError String

/-- Makes a change that is refused as a whole or not at all. -/
def attempt (change : Disk → Except FileError Disk) : StateM Disk (Except FileError Unit) :=
  fun disk =>
    match change disk with
    | .ok changed => (.ok (), changed)
    | .error reason => (.error reason, disk)

/-- A disk and surroundings as what lies outside. -/
def outside (s : Surroundings) : Outside (StateM Disk) where
  lookup name := return s.environment.lookup name
  accountHome? := return s.accountHome
  pathExists path := return (← get).pathExists path
  fileText path := return (← get).fileText path
  inputText := return s.input
  makeDirectories path := modifyGet fun disk => disk.makeDirectories path
  storeText path text := attempt fun disk => disk.storeText path text

end Disk

end RecordFilter
