import RecordFilter.CommandLine.Completions
import RecordFilter.CommandLine.Failure
import RecordFilter.Record.Rules
import RecordFilter.Report.Expression
import RecordFilter.Report.Records
import RecordFilter.Report.Settings
import RecordFilter.Report.Tokens
import RecordFilter.Settings.Location
import RecordFilter.Token.Cursor

/-!
# Running commands

A command either fails or gives the text that it writes to the standard output; a command that
fails writes nothing there. The settings document is changed by one command only, as the last
thing that it does.
-/

namespace RecordFilter

variable {m : Type → Type} [Monad m]

/-- A command in progress: it reaches outside and may fail. -/
abbrev Run (m : Type → Type) : Type → Type := ExceptT Failure m

/-- An action outside that may be refused, with what a refusal means. -/
def orFail {α : Type} (failure : FileError → Failure) (action : m (Except FileError α)) :
    Run m α := do
  match ← (action : m _) with
  | .ok value => return value
  | .error cause => throw (failure cause)

/-! ## Settings -/

namespace Settings

/-- The path of the settings document. -/
def path (outside : Outside m) : Run m String := do
  match ← (path? outside : m _) with
  | some path => return path
  | none => throw (.settings .noPlace)

/-- The settings; nothing is set where there is no document. -/
def load (outside : Outside m) : Run m Settings := do
  let path ← path outside
  if ← (outside.pathExists path : m _) then
    let text ← orFail (fun cause => .settings (.unreadable cause)) (outside.fileText path)
    match ofText text with
    | .ok settings => return settings
    | .error cause => throw (.settings (.malformed cause))
  else return default

/-- Writes the settings to their document. -/
def save (outside : Outside m) (settings : Settings) : Run m Unit := do
  let path ← path outside
  match parent? path with
  | some directory =>
    orFail (fun cause => .settings (.noDirectory cause)) (outside.makeDirectories directory)
  | none => pure ()
  orFail (fun cause => .settings (.unwritable cause)) (outside.storeText path settings.toText)

end Settings

/-! ## Options -/

/-- The variable that switches colours off. -/
def noColorVariable : String := "NO_COLOR"

/-- How output is laid out. -/
structure OutputOptions where
  json : Bool
  colors : Bool
  quiet : Bool
deriving DecidableEq, Repr

/-- How output is laid out: it is coloured unless an option, a variable that is not empty or the
settings speak against it. -/
def OutputOptions.of (outside : Outside m) (common : CommonOptions) (settings : Settings) :
    m OutputOptions := do
  let refused := (← outside.lookup noColorVariable).any fun value => value != ""
  return ⟨common.json, !common.noColor && !refused && settings.color.getD true, common.quiet⟩

/-- The output of a command: a value on request, and otherwise text, unless only errors are
wanted. -/
def OutputOptions.render (options : OutputOptions) (value : Json) (text : String) : String :=
  if options.json then value.pretty ++ "\n" else if options.quiet then "" else text

/-! ## Filtering -/

/-- How conditions are understood, by the settings and the options; a declaration among the
options replaces one among the settings. -/
def FilterOptions.rules (options : FilterOptions) (settings : Settings) : Rules where
  schema := (Schema.empty.declare settings.fields).declare options.fields
  ignoreCase := options.ignoreCase || settings.ignoreCase.getD false

/-- The expression of a filter as a test of records. -/
def FilterOptions.compile (options : FilterOptions) (settings : Settings) :
    Except ExprError (Compiled Json) := do
  let e ← Expr.ofText options.expression
  e.compileFor (options.rules settings)

/-- The text with the records. -/
def FilterOptions.readInput (options : FilterOptions) (outside : Outside m) : Run m String :=
  match options.input with
  | some path => orFail (.inputFile path) (outside.fileText path)
  | none => orFail .standardInput outside.inputText

/-- What is shown of the records that match. -/
def FilterOptions.report (options : FilterOptions) (output : OutputOptions) (pretty : Bool)
    (records : List Json) : String :=
  if options.count then
    output.render (Report.countJson records.length)
      (Report.countLine output.colors records.length)
  else output.render (Report.recordsJson records) (Report.recordLines pretty records)

/-- Filters records. The expression is looked at before the input is. -/
def FilterOptions.run (options : FilterOptions) (outside : Outside m) (output : OutputOptions)
    (settings : Settings) : Run m String := do
  match options.compile settings with
  | .error cause => throw (.expression cause)
  | .ok compiled =>
    let text ← options.readInput outside
    match Record.ofText text with
    | .error cause => throw (.input cause)
    | .ok records =>
      let selected := Record.select options.limit compiled.evaluate records
      return options.report output (settings.pretty.getD false) selected

/-! ## Commands -/

namespace Command

/-- What the program says of itself. -/
def introductionText : String :=
  "lee - filter JSON records with boolean expressions\nUse --help for usage information\n"

/-- Whether a command needs the settings before it starts. The commands that deal with settings
read them themselves, and do not take their own layout from them. -/
def usesSettings : Command → Bool
  | tokens _ _ | parse _ | filter _ => true
  | introduction | showSettings | changeSetting _ _ | settingsPath | completions _ => false

/-- Shows the tokens of an expression. -/
def runTokens (output : OutputOptions) (expression : String) (keepWhitespace : Bool) :
    Except ExprError String := do
  let cursor ← Cursor.ofText expression (!keepWhitespace)
  return output.render (Report.tokensJson cursor.tokens)
    (Report.tokenTable output.colors cursor.tokens)

/-- Shows the structure of an expression. -/
def runParse (output : OutputOptions) (expression : String) : Except ExprError String := do
  let e ← Expr.ofText expression
  return output.render (Report.expressionJson e) (Report.expressionTable output.colors e)

/-- Shows the settings. -/
def runShow (outside : Outside m) (output : OutputOptions) : Run m String := do
  let settings ← Settings.load outside
  let path ← Settings.path outside
  let present ← (outside.pathExists path : m _)
  return output.render (Report.settingsReportJson path present settings)
    (Report.settingsTable output.colors path present settings)

/-- Changes a setting. -/
def runChange (outside : Outside m) (output : OutputOptions) (key value : String) :
    Run m String := do
  let settings ← Settings.load outside
  let path ← Settings.path outside
  match Settings.Change.ofText key value with
  | .error cause => throw (.settings (.refused cause))
  | .ok change =>
    Settings.save outside (settings.apply change)
    return output.render (Report.changeJson key value path)
      ("Set " ++ key ++ " = " ++ value ++ "\n")

/-- Shows where the settings are kept. Not even quiet output leaves this out. -/
def runPath (outside : Outside m) (output : OutputOptions) : Run m String := do
  let path ← Settings.path outside
  let present ← (outside.pathExists path : m _)
  return if output.json then (Report.pathJson path present).pretty ++ "\n" else path ++ "\n"

/-- The error of an expression as a failure of the command. -/
def ofExpression {α : Type} : Except ExprError α → Run m α
  | .ok value => return value
  | .error cause => throw (.expression cause)

/-- Runs a command with the settings it needs. -/
def runWith (outside : Outside m) (output : OutputOptions) (settings : Settings) :
    Command → Run m String
  | introduction => return if output.quiet then "" else introductionText
  | tokens expression keepWhitespace => ofExpression (runTokens output expression keepWhitespace)
  | parse expression => ofExpression (runParse output expression)
  | filter options => options.run outside output settings
  | showSettings => runShow outside output
  | changeSetting key value => runChange outside output key value
  | settingsPath => runPath outside output
  | completions shell => return shell.completions

end Command

/-- Runs a command with its options. -/
def Invocation.run (outside : Outside m) (i : Invocation) : Run m String := do
  let settings ← if i.command.usesSettings then Settings.load outside else pure .default
  let output ← (OutputOptions.of outside i.common settings : m _)
  i.command.runWith outside output settings

/-! ## Endings -/

/-- What is seen of a run that has ended. -/
structure Ending where
  /-- What it has written to the standard output. -/
  output : String
  /-- What it has written to the standard error. -/
  complaint : String
  /-- The status that the program ends with. -/
  status : Nat
deriving DecidableEq, Repr

/-- How a run ends that has given a text or has failed. -/
def Invocation.ending (i : Invocation) : Except Failure String → Ending
  | .ok text => ⟨text, "", 0⟩
  | .error failure => ⟨"", failure.report i.common.json ++ "\n", failure.status⟩

end RecordFilter
