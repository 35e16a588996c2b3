import RecordFilter.Toml.Reader

/-!
# TOML documents

A document begins with assignments to the table that it is as a whole. Every header after these
opens a section, whose assignments go to the table that the header names.
-/

namespace RecordFilter.Toml

/-! ## Sections -/

/-- A header with the assignments under it. -/
structure Section where
  key : Key
  several : Bool
  assignments : List Assignment

/-- The assignments in front of all headers, and the sections. -/
def sections : List Statement → List Assignment × List Section
  | [] => ([], [])
  | .assignment a :: rest =>
    let (front, behind) := sections rest
    (a :: front, behind)
  | .header key several :: rest =>
    let (front, behind) := sections rest
    ([], ⟨key, several, front⟩ :: behind)

/-! ## Tables by header -/

/-- Changes what stands under a key. The tables on the way to it are created where there are
none, and of several tables under one key the latest is meant. A table in braces cannot be
reached. -/
def changeAt (key : String) (change : Option Toml → Except TomlError Toml) :
    List String → List (String × Toml) → Except TomlError (List (String × Toml))
  | [], entries => do
    let value ← change (Keyed.find? key entries)
    return Keyed.insert key value entries
  | part :: path, entries =>
    match Keyed.find? part entries with
    | none => do
      let inner ← changeAt key change path []
      return Keyed.insert part (.table .implied inner) entries
    | some (.table .inline _) => .error (.duplicateKey part)
    | some (.table origin inner) => do
      let inner ← changeAt key change path inner
      return Keyed.insert part (.table origin inner) entries
    | some (.tables (latest :: items)) => do
      let latest ← changeAt key change path latest
      return Keyed.insert part (.tables (latest :: items)) entries
    | some _ => .error (.duplicateKey part)

/-- What a section makes of what stands under its key already. A header of its own may be given
only to a table that had none and was not made by a key with dots. -/
def Section.change (s : Section) (present : Option Toml) : Except TomlError Toml :=
  match s.several, present with
  | false, none => return .table .header (← addAssignments s.assignments [])
  | false, some (.table .implied entries) =>
    return .table .header (← addAssignments s.assignments entries)
  | true, none => return .tables [← addAssignments s.assignments []]
  | true, some (.tables items) => return .tables ((← addAssignments s.assignments []) :: items)
  | _, some _ => .error (.duplicateKey s.key.last)

/-- Adds a section to a document. -/
def addSection (entries : List (String × Toml)) (s : Section) :
    Except TomlError (List (String × Toml)) :=
  changeAt s.key.last s.change s.key.path entries

/-! ## Documents -/

/-- The table that a list of statements adds up to. -/
def ofStatements (statements : List Statement) : Except TomlError (List (String × Toml)) := do
  let (front, behind) := sections statements
  let entries ← addAssignments front []
  behind.foldlM addSection entries

/-- The text without the mark that some editors put in front of every text. -/
def withoutMark : List Char → List Char
  | '\ufeff' :: text => text
  | text => text

/-- A text as a document. -/
def ofText (text : String) : Except TomlError (List (String × Toml)) := do
  let text := withoutMark text.toList
  ofStatements (← readStatements (text.length + 1) text)

end RecordFilter.Toml
