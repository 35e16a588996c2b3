import RecordFilter.CommandLine.Command
import RecordFilter.Number.Numeral
import RecordFilter.Text.Blank

/-!
# Arguments

Arguments are read from left to right. The name of a command moves on to the arguments of that
command; options may stand before it and behind it, as far as both know them. The value of an
option may be attached to it or stand behind it, and is looked at only when the next thing is
read, so that of two faults the later one may be reported.
-/

namespace RecordFilter.Arguments

/-! ## Errors -/

/-- Why arguments are refused. -/
inductive UsageError where
  /-- An option that the command does not have, or one argument too many. -/
  | unknownArgument (argument : String)
  /-- No command has this name. -/
  | unknownCommand (name : String)
  /-- An argument that has to be there is not. -/
  | missingArgument (name : String)
  /-- Two arguments exclude each other; an option that is given twice excludes itself. -/
  | conflict (argument : String)
  /-- An option without its value, or with one that is none of the possible values. -/
  | invalidValue (option : String)
  /-- A value that an option refuses. -/
  | refusedValue (value option reason : String)
  /-- A value for an option that takes none. -/
  | surplusValue (option : String)
  /-- Help is asked for. -/
  | help
  /-- The version is asked for. -/
  | version
deriving DecidableEq, Repr

/-- The message of an error. -/
def UsageError.message : UsageError → String
  | unknownArgument argument => "error: unexpected argument '" ++ argument ++ "' found"
  | unknownCommand name => "error: unrecognized subcommand '" ++ name ++ "'"
  | missingArgument name => "error: the required argument " ++ name ++ " was not provided"
  | conflict argument => "error: the argument '" ++ argument ++ "' cannot be used here"
  | invalidValue option => "error: a value is required for '" ++ option ++ "'"
  | refusedValue value option reason =>
    "error: invalid value '" ++ value ++ "' for '" ++ option ++ "': " ++ reason
  | surplusValue option => "error: unexpected value for '" ++ option ++ "'"
  | help => "lee - filter JSON records with boolean expressions"
  | version => "lee 0.1.0"

/-- Whether an error is a request that ends the reading of arguments, and no fault. -/
def UsageError.isRequest : UsageError → Bool
  | help | version => true
  | _ => false

/-! ## Commands by name -/

/-- Where in the hierarchy of commands arguments are read. -/
inductive Level where
  | program
  | tokens
  | parse
  | filter
  | settings
  | showSettings
  | changeSetting
  | settingsPath
  | completions
deriving DecidableEq, Repr

/-- The commands below a level, by name. -/
def Level.commands : Level → List (String × Level)
  | program =>
    [("tokens", tokens), ("parse", parse), ("filter", filter), ("f", filter),
      ("config", settings), ("completions", completions)]
  | settings => [("show", showSettings), ("set", changeSetting), ("path", settingsPath)]
  | _ => []

/-- The arguments of a command that are no options. -/
def Level.positionals : Level → List String
  | tokens | parse | filter => ["<EXPRESSION>"]
  | changeSetting => ["<KEY>", "<VALUE>"]
  | completions => ["<SHELL>"]
  | program | settings | showSettings | settingsPath => []

/-! ## Options -/

/-- An option without a value. -/
inductive Switch where
  | verbose
  | quiet
  | json
  | noColor
  | keepWhitespace
  | ignoreCase
  | count
  | help
  | version
deriving DecidableEq, Repr

/-- How an option without a value is named in messages. -/
def Switch.name : Switch → String
  | verbose => "--verbose"
  | quiet => "--quiet"
  | json => "--json"
  | noColor => "--no-color"
  | keepWhitespace => "--keep-whitespace"
  | ignoreCase => "--ignore-case"
  | count => "--count"
  | help => "--help"
  | version => "--version"

/-- An option with a value. -/
inductive Valued where
  | input
  | field
  | limit
deriving DecidableEq, Repr

/-- How an option with a value is named in messages. -/
def Valued.name : Valued → String
  | input => "--input <INPUT>"
  | field => "--field <NAME:TYPE>"
  | limit => "--limit <LIMIT>"

/-- An option of either form. -/
inductive Flag where
  | switch (s : Switch)
  | valued (v : Valued)
deriving DecidableEq, Repr

/-- The options that every command has, with their letters and names. -/
def commonFlags : List (Option Char × String × Flag) := [
  (some 'v', "verbose", .switch .verbose), (some 'q', "quiet", .switch .quiet),
  (none, "json", .switch .json), (none, "no-color", .switch .noColor),
  (some 'h', "help", .switch .help), (some 'V', "version", .switch .version)]

/-- The options of a level, with their letters and names. -/
def Level.flags : Level → List (Option Char × String × Flag)
  | tokens => (some 'w', "keep-whitespace", .switch .keepWhitespace) :: commonFlags
  | filter =>
    [(some 'i', "input", .valued .input), (none, "field", .valued .field),
      (some 'I', "ignore-case", .switch .ignoreCase), (some 'n', "limit", .valued .limit),
      (some 'c', "count", .switch .count)] ++ commonFlags
  | _ => commonFlags

/-- The option of a level with a given name. -/
def Level.byName? (level : Level) (name : String) : Option Flag :=
  (level.flags.find? fun f => f.2.1 == name).map fun f => f.2.2

/-- The option of a level with a given letter. -/
def Level.byLetter? (level : Level) (letter : Char) : Option Flag :=
  (level.flags.find? fun f => f.1 == some letter).map fun f => f.2.2

/-! ## Values -/

/-- A text in front of its first colon and behind it. -/
def splitColon (text : List Char) : Option (List Char × List Char) :=
  match text.dropWhile (· != ':') with
  | [] => none
  | _ :: behind => some (text.takeWhile (· != ':'), behind)

/-- A declared field, with a colon between its name and its type and blanks around both. -/
def readDeclaration (text : String) : Except String (String × FieldType) :=
  match splitColon text.toList with
  | none => .error ("expected NAME:TYPE, got '" ++ text ++ "'")
  | some (name, type) =>
    let name := Text.trim name
    if name.isEmpty then .error ("missing field name in '" ++ text ++ "'")
    else
      let type := String.ofList (Text.trim type)
      match FieldType.ofText? type with
      | some type => .ok (String.ofList name, type)
      | none => .error (FieldType.refusal type)

/-- Reads on in a number, the part in front of the text being given. The first character that is
no digit and the first digit that makes the number too great are told apart by which comes
first. -/
def readDigits (n : Nat) : List Char → Except String Nat
  | [] => .ok n
  | c :: rest =>
    if c.isDigit then
      let n := 10 * n + Numeral.digitValue c
      if n < twoTo 64 then readDigits n rest
      else .error "number too large to fit in target type"
    else .error "invalid digit found in string"

/-- A natural number of 64 bits, perhaps with a plus sign. -/
def readCount (text : String) : Except String Nat :=
  match text.toList with
  | [] => .error "cannot parse integer from empty string"
  | '+' :: c :: rest => readDigits 0 (c :: rest)
  | chars => readDigits 0 chars

/-! ## What has been read -/

/-- Something whose value is still to be looked at. -/
inductive Pending where
  /-- An option, whose value may still have to come. -/
  | valued (v : Valued) (value : Option String)
  /-- An argument that is no option. -/
  | positional (value : String)
deriving DecidableEq, Repr

/-- What has been read at a level. -/
structure Reading where
  switches : List Switch
  input : Option String
  fields : List (String × FieldType)
  limit : Option Nat
  /-- The arguments that are no options. -/
  positionals : List String
  pending : Option Pending
  /-- Whether the next argument is the value of the pending option. -/
  awaiting : Bool
deriving DecidableEq, Repr

namespace Reading

/-- Nothing has been read. -/
def start : Reading := ⟨[], none, [], none, [], none, false⟩

/-- Looks at the value of an option. -/
def store (r : Reading) (v : Valued) (value : String) : Except UsageError Reading :=
  match v with
  | .input =>
    if r.input.isSome then .error (.conflict v.name)
    else if value = "" then .error (.invalidValue v.name)
    else .ok { r with input := some value }
  | .field =>
    match readDeclaration value with
    | .ok declaration => .ok { r with fields := r.fields ++ [declaration] }
    | .error reason => .error (.refusedValue value v.name reason)
  | .limit =>
    if r.limit.isSome then .error (.conflict v.name)
    else
      match readCount value with
      | .ok count => .ok { r with limit := some count }
      | .error reason => .error (.refusedValue value v.name reason)

/-- Looks at an argument that is no option. -/
def storePositional (level : Level) (r : Reading) (value : String) : Except UsageError Reading :=
  if level = .completions ∧ (Shell.ofName? value).isNone then .error (.invalidValue "<SHELL>")
  else .ok { r with positionals := r.positionals ++ [value] }

/-- Looks at what is pending. -/
def settle (level : Level) (r : Reading) : Except UsageError Reading :=
  let settled := { r with pending := none, awaiting := false }
  match r.pending with
  | none => .ok settled
  | some (.valued v (some value)) => settled.store v value
  | some (.valued v none) => .error (.invalidValue v.name)
  | some (.positional value) => settled.storePositional level value

/-- How many arguments that are no options have been read, the pending one included. -/
def positionalCount (r : Reading) : Nat :=
  r.positionals.length
    + match r.pending with
      | some (.positional _) => 1
      | _ => 0

/-- Adds a switch. -/
def addSwitch (level : Level) (r : Reading) (s : Switch) : Except UsageError Reading := do
  let r ← r.settle level
  if s = .help then throw .help
  else if s = .version then throw .version
  else if r.switches.contains s then throw (.conflict s.name)
  else return { r with switches := s :: r.switches }

/-- Adds an option with a value, if it is attached, or else awaits it. -/
def addValued (level : Level) (r : Reading) (v : Valued) (attached : Option String) :
    Except UsageError Reading := do
  let r ← r.settle level
  match attached with
  | some value => r.store v value
  | none => return { r with pending := some (.valued v none), awaiting := true }

end Reading

/-! ## Options as arguments -/

/-- Adds an option by its name, with the value attached to it by an equals sign, if any. -/
def addLong (level : Level) (r : Reading) (name : List Char) : Except UsageError Reading :=
  let bare := String.ofList (name.takeWhile (· != '='))
  let attached :=
    match name.dropWhile (· != '=') with
    | [] => none
    | _ :: value => some (String.ofList value)
  match level.byName? bare, attached with
  | some (.valued v), attached => r.addValued level v attached
  | some (.switch s), none => r.addSwitch level s
  | some (.switch _), some _ => .error (.surplusValue bare)
  | none, _ => .error (.unknownArgument ("--" ++ bare))

/-- Adds options by their letters. The rest behind the letter of an option with a value is that
value, an equals sign in front of it not counted. -/
def addShort (level : Level) (r : Reading) : List Char → Except UsageError Reading
  | [] => .ok r
  | letter :: rest =>
    match level.byLetter? letter with
    | some (.switch s) => do
      let r ← r.addSwitch level s
      addShort level r rest
    | some (.valued v) =>
      match rest with
      | [] => r.addValued level v none
      | '=' :: value => r.addValued level v (some (String.ofList value))
      | value => r.addValued level v (some (String.ofList value))
    | none => .error (.unknownArgument (String.ofList ['-', letter]))

/-! ## Commands with their options -/

/-- The common options among the switches. -/
def commonOptions (switches : List Switch) : CommonOptions where
  verbose := switches.contains .verbose
  quiet := switches.contains .quiet
  json := switches.contains .json
  noColor := switches.contains .noColor

/-- The command that a level amounts to, given all that was read there. -/
def Level.command (level : Level) (r : Reading) : Except UsageError Command :=
  match level, r.positionals with
  | .program, _ => .ok .introduction
  | .tokens, [expression] => .ok (.tokens expression (r.switches.contains .keepWhitespace))
  | .parse, [expression] => .ok (.parse expression)
  | .filter, [expression] =>
    .ok (.filter ⟨expression, r.input, r.fields, r.switches.contains .ignoreCase, r.limit,
      r.switches.contains .count⟩)
  | .settings, _ | .showSettings, _ => .ok .showSettings
  | .changeSetting, [key, value] => .ok (.changeSetting key value)
  | .settingsPath, _ => .ok .settingsPath
  | .completions, [name] =>
    match Shell.ofName? name with
    | some shell => .ok (.completions shell)
    | none => .error (.invalidValue "<SHELL>")
  | level, given => .error (.missingArgument ((level.positionals[given.length]?).getD ""))

/-- Refuses options that exclude each other. -/
def checkConflicts (r : Reading) : Except UsageError Unit :=
  if r.switches.contains .verbose && r.switches.contains .quiet then
    .error (.conflict Switch.quiet.name)
  else .ok ()

/-- The invocation at the end of the arguments. -/
def finish (level : Level) (r : Reading) : Except UsageError Invocation := do
  let r ← r.settle level
  checkConflicts r
  return ⟨commonOptions r.switches, ← level.command r⟩

/-- An invocation of a command, with the options that were given in front of its name. -/
def Invocation.addCommon (outer : CommonOptions) (i : Invocation) : Invocation :=
  { i with common :=
      ⟨outer.verbose || i.common.verbose, outer.quiet || i.common.quiet,
        outer.json || i.common.json, outer.noColor || i.common.noColor⟩ }

/-! ## Reading -/

/-- What to say of an argument for which there is no place. Where there are commands, it is
taken for the name of one, unless it is one and may not stand here. -/
def misplaced (level : Level) (optionsOver : Bool) (argument : String) : UsageError :=
  if level.commands.isEmpty then .unknownArgument argument
  else if optionsOver && (level.commands.lookup argument).isSome then .unknownArgument argument
  else .unknownCommand argument

/-- Adds an argument that is no option. -/
def addPositional (level : Level) (optionsOver : Bool) (r : Reading) (argument : String) :
    Except UsageError Reading :=
  if r.positionalCount < level.positionals.length then do
    let r ← r.settle level
    return { r with pending := some (.positional argument) }
  else .error (misplaced level optionsOver argument)

/-- What to say of a request for help on a command. -/
def helpOn : Level → List String → UsageError
  | _, [] => .help
  | level, name :: names =>
    match level.commands.lookup name with
    | some below => helpOn below names
    | none => .unknownCommand name

/-- Reads arguments at a level. Behind two dashes there are no options and no commands. -/
def read (level : Level) (optionsOver : Bool) (r : Reading) :
    List String → Except UsageError Invocation
  | [] => finish level r
  | argument :: rest => do
    if optionsOver then
      read level true (← addPositional level true r argument) rest
    else
      let below := if r.awaiting then none else level.commands.lookup argument
      match below with
      | some below =>
        let inner ← read below false .start rest
        let r ← r.settle level
        checkConflicts r
        return Invocation.addCommon (commonOptions r.switches) inner
      | none =>
        if argument = "help" ∧ !level.commands.isEmpty then throw (helpOn level rest)
        match argument.toList with
        | ['-', '-'] => read level true r rest
        | '-' :: '-' :: name => read level false (← addLong level r name) rest
        | '-' :: letter :: letters =>
          read level false (← addShort level r (letter :: letters)) rest
        | _ =>
          match r.awaiting, r.pending with
          | true, some (.valued v _) =>
            let r := { r with pending := some (.valued v (some argument)), awaiting := false }
            read level false r rest
          | _, _ => read level false (← addPositional level false r argument) rest

/-- The invocation that arguments spell. -/
def parse (arguments : List String) : Except UsageError Invocation :=
  read .program false .start arguments

end RecordFilter.Arguments
