import RecordFilter.Disk
import RecordFilter.Proofs.CommandLine.Effects
import RecordFilter.Proofs.CommandLine.QuietArguments

/-!
# Quiet output

With quiet output a command does what it does without, and only its text is left out: every part
of a run is the same, and the text at its end is replaced by an empty one (`run_eq_silenced`).
There is one exception. The command that shows where the settings are kept writes its line even so
(`quiet_of_parse`).
-/

namespace RecordFilter

variable {m : Type → Type} [Monad m]

/-! ## Layouts -/

/-- The same layout with quiet output. -/
def OutputOptions.quieted (layout : OutputOptions) : OutputOptions := { layout with quiet := true }

/-- The same run without the text that it gives. -/
def silenced (x : Run m String) : Run m String := (fun _ => "") <$> x

section Layouts

variable {layout : OutputOptions}

/-- Without noise nothing is printed but JSON. -/
theorem render_quieted (hjson : layout.json = false) (value : Json) (text : String) :
    layout.quieted.render value text = "" := by
  have hvalue : layout.quieted.json = false := hjson
  rw [OutputOptions.render, hvalue]
  rfl

/-- Without noise a filter prints nothing but JSON. -/
theorem report_quieted (hjson : layout.json = false) (options : FilterOptions) (pretty : Bool)
    (records : List Json) : options.report layout.quieted pretty records = "" := by
  unfold FilterOptions.report
  rw [render_quieted hjson, render_quieted hjson, ite_self]

/-- Without noise the tokens are found all the same, and not printed. -/
theorem runTokens_quieted (hjson : layout.json = false) (expression : String)
    (keepWhitespace : Bool) : Command.runTokens layout.quieted expression keepWhitespace
      = (Command.runTokens layout expression keepWhitespace).map fun _ => "" := by
  unfold Command.runTokens
  simp only [render_quieted hjson]
  cases Cursor.ofText expression (!keepWhitespace) <;> rfl

/-- Without noise an expression is read all the same, and not printed. -/
theorem runParse_quieted (hjson : layout.json = false) (expression : String) :
    Command.runParse layout.quieted expression
      = (Command.runParse layout expression).map fun _ => "" := by
  unfold Command.runParse
  simp only [render_quieted hjson]
  cases Expr.ofText expression <;> rfl

end Layouts

/-! ## Commands -/

section Commands

variable [LawfulMonad m] {o : Outside m} {layout : OutputOptions} {settings : Settings}
  {command : Command} {α : Type}

/-- What comes last in a command is what it prints. -/
theorem silenced_bind (x : Run m α) (f : α → Run m String) :
    silenced (x >>= f) = x >>= fun a => silenced (f a) := map_bind _ _ _

theorem silenced_pure (text : String) : silenced (pure text : Run m String) = pure "" :=
  map_pure _ _

/-- A failure prints nothing anyway. -/
theorem silenced_throw (cause : Failure) :
    silenced (throw cause : Run m String) = throw cause := by
  refine ExceptT.ext ?_
  rw [silenced, ExceptT.run_map, ExceptT.run_throw, map_pure]
  rfl

/-- An expression that is not understood fails as it does with noise. -/
theorem silenced_ofExpression (result : Except ExprError String) :
    silenced (Command.ofExpression result : Run m String)
      = Command.ofExpression (result.map fun _ => "") := by
  cases result with
  | error cause => exact silenced_throw _
  | ok text => exact silenced_pure text

/-- Without noise a filter does the same and prints nothing. -/
theorem runFilter_quieted (hjson : layout.json = false) (options : FilterOptions) :
    options.run o layout.quieted settings = silenced (options.run o layout settings) := by
  unfold FilterOptions.run
  split
  · exact (silenced_throw _).symm
  · rw [silenced_bind]
    congr 1
    funext text
    split
    · exact (silenced_throw _).symm
    · simp only [report_quieted hjson, silenced_pure]

/-- Without noise the settings are read and not printed. -/
theorem runShow_quieted (hjson : layout.json = false) :
    Command.runShow o layout.quieted = silenced (Command.runShow o layout) := by
  unfold Command.runShow
  simp only [silenced_bind, silenced_pure, render_quieted hjson]

/-- Without noise a setting is changed and nothing is said about it. -/
theorem runChange_quieted (hjson : layout.json = false) (key value : String) :
    Command.runChange o layout.quieted key value
      = silenced (Command.runChange o layout key value) := by
  unfold Command.runChange
  simp only [silenced_bind, render_quieted hjson]
  congr 1
  funext settings
  congr 1
  funext path
  split
  · exact (silenced_throw _).symm
  · rw [silenced_bind, silenced_pure]

/-- Every command but one leaves its text out, and does nothing else differently. -/
theorem runWith_quieted (hjson : layout.json = false) (hpath : command ≠ .settingsPath)
    (hshell : ∀ shell, command ≠ .completions shell) :
    command.runWith o layout.quieted settings = silenced (command.runWith o layout settings) := by
  cases command with
  | introduction => exact (silenced_pure _).symm
  | tokens expression keepWhitespace =>
    rw [Command.runWith, Command.runWith, runTokens_quieted hjson, silenced_ofExpression]
  | parse expression =>
    rw [Command.runWith, Command.runWith, runParse_quieted hjson, silenced_ofExpression]
  | filter options => exact runFilter_quieted hjson options
  | showSettings => exact runShow_quieted hjson
  | changeSetting key value => exact runChange_quieted hjson key value
  | settingsPath => exact absurd rfl hpath
  | completions shell => exact absurd rfl (hshell shell)

end Commands

/-! ## Invocations -/

section Invocations

variable [LawfulMonad m] {o : Outside m} {i : Invocation}

/-- The layout of a command, if output is not quiet. -/
def loudLayout (common : CommonOptions) (settings : Settings) (noColor : Option String) :
    OutputOptions :=
  ⟨common.json, !common.noColor && !(noColor.any fun value => value != "")
    && settings.color.getD true, false⟩

/-- All that a layout takes from outside is whether a variable switches colours off. -/
theorem outputOptions_bind {α : Type} (settings : Settings) (f : OutputOptions → Run m α) :
    (liftM (OutputOptions.of o i.common settings) : Run m OutputOptions) >>= f
      = (liftM (o.lookup noColorVariable) : Run m (Option String)) >>= fun noColor =>
        f { loudLayout i.common settings noColor with quiet := i.common.quiet } := by
  unfold OutputOptions.of
  simp only [liftM_bind, liftM_pure, bind_assoc, pure_bind]
  rfl

/-- A run reads its settings, looks at one variable and then does what its command is for. -/
theorem run_eq_bind : i.run o
    = (if i.command.usesSettings then Settings.load o else pure .default) >>= fun settings =>
        (liftM (o.lookup noColorVariable) : Run m (Option String)) >>= fun noColor =>
          i.command.runWith o
            { loudLayout i.common settings noColor with quiet := i.common.quiet } settings := by
  unfold Invocation.run
  dsimp only
  split
  · exact bind_congr fun settings => outputOptions_bind settings _
  · exact bind_congr fun settings => outputOptions_bind settings _

/-- With quiet output a command does what it does without, and its text is left out. -/
theorem run_eq_silenced (hquiet : i.common.quiet = true) (hjson : i.common.json = false)
    (hpath : i.command ≠ .settingsPath) (hshell : ∀ shell, i.command ≠ .completions shell) :
    i.run o = silenced (i.loud.run o) := by
  rw [run_eq_bind, run_eq_bind, silenced_bind, hquiet]
  congr 1
  funext settings
  rw [silenced_bind]
  congr 1
  funext noColor
  exact runWith_quieted hjson hpath hshell

/-- The command that shows where the settings are kept does not ask whether output is quiet. -/
theorem run_eq_loud (hpath : i.command = .settingsPath) : i.run o = i.loud.run o := by
  have hloud : i.loud.command = .settingsPath := hpath
  rw [run_eq_bind, run_eq_bind, hloud, hpath]
  rfl

end Invocations

/-! ## Runs -/

section Runs

variable {ω : Type} {o : Outside (StateM ω)} {w : ω} {i : Invocation}

/-- A silenced command fails with the same failure, in the same world. -/
theorem silenced_run (x : Run (StateM ω) String) (w : ω) :
    (silenced x).run.run w = ((x.run.run w).1.map fun _ => "", (x.run.run w).2) := by
  rw [silenced, ExceptT.run_map, StateT.run_map]
  rfl

/-- The command that shows where the settings are kept writes a line if it succeeds. -/
theorem exists_path_of_run (hpath : i.command = .settingsPath) (hjson : i.common.json = false)
    {output : String} {after : ω} (h : (i.run o).run.run w = (.ok output, after)) :
    ∃ path, output = path ++ "\n" := by
  rw [run_eq_bind, hpath] at h
  obtain ⟨_, _, -, h⟩ := exists_of_run_bind_eq_ok h
  obtain ⟨_, _, -, h⟩ := exists_of_run_bind_eq_ok h
  obtain ⟨path, _, -, h⟩ := exists_of_run_bind_eq_ok h
  obtain ⟨_, _, -, h⟩ := exists_of_run_bind_eq_ok h
  cases h
  exact ⟨path, by rw [loudLayout, hjson]; rfl⟩

theorem ending_loud (outcome : Except Failure String) :
    i.loud.ending outcome = i.ending outcome := by
  cases outcome <;> rfl

/-- **Quiet output, and the one line that is written even so.** A command that was asked for quiet
output, and not for a value, ends as it does without this option: it leaves the same behind, and it
succeeds or fails with the same complaint and status. It writes nothing to the standard output but
for the command that shows where the settings are kept, whose line is written as ever. -/
theorem quiet_of_parse {arguments : List String} (h : Arguments.parse arguments = .ok i)
    (hquiet : i.common.quiet = true) (hjson : i.common.json = false)
    (hshell : ∀ shell, i.command ≠ .completions shell) :
    let quiet := (i.run o).run.run w
    let loud := (i.loud.run o).run.run w
    Arguments.parse (Arguments.withoutQuiet .program arguments) = .ok i.loud
      ∧ quiet.2 = loud.2 ∧ cause? quiet.1 = cause? loud.1
      ∧ (i.ending quiet.1).complaint = (i.loud.ending loud.1).complaint
      ∧ (i.ending quiet.1).status = (i.loud.ending loud.1).status
      ∧ (i.command ≠ .settingsPath → (i.ending quiet.1).output = "")
      ∧ (i.command = .settingsPath → quiet = loud
        ∧ ∀ output, quiet.1 = .ok output → ∃ path, output = path ++ "\n") := by
  intro quiet loud
  refine ⟨Arguments.parse_withoutQuiet h, ?_⟩
  rw [ending_loud]
  by_cases hpath : i.command = .settingsPath
  · have hrun : quiet = loud := by simp only [quiet, loud, run_eq_loud hpath]
    rw [← hrun]
    exact ⟨rfl, rfl, rfl, rfl, absurd hpath, fun _ => ⟨rfl, fun output houtput =>
      exists_path_of_run hpath hjson (Prod.ext houtput rfl)⟩⟩
  · have hrun : quiet = (loud.1.map fun _ => "", loud.2) := by
      simp only [quiet, loud, run_eq_silenced hquiet hjson hpath hshell, silenced_run]
    rw [hrun]
    refine ⟨rfl, cause?_map, ?_, ?_, fun _ => ?_, fun heq => absurd heq hpath⟩
    · cases loud.1 <;> rfl
    · cases loud.1 <;> rfl
    · cases loud.1 <;> rfl

open Disk (outside)

/-- A change of a setting, confirmed to nobody. -/
theorem quiet_of_parse_change :
    let s : Disk.Surroundings := ⟨[("LEE_CONFIG", "lee.toml")], none, .ok ""⟩
    let disk : Disk := ⟨[], []⟩
    let arguments := ["config", "-q", "set", "output.pretty", "true"]
    let i : Invocation := ⟨⟨false, true, false, false⟩, .changeSetting "output.pretty" "true"⟩
    Arguments.parse arguments = .ok i
      ∧ Arguments.parse (Arguments.withoutQuiet .program arguments) = .ok i.loud
      ∧ ((i.run (outside s)).run.run disk).2 = ((i.loud.run (outside s)).run.run disk).2
      ∧ (i.ending ((i.run (outside s)).run.run disk).1).output = "" := by
  intro s disk arguments i
  have hparse : Arguments.parse arguments = .ok i := by rfl
  obtain ⟨hloud, hafter, -, -, -, houtput, -⟩ :=
    quiet_of_parse (o := outside s) (w := disk) hparse rfl rfl fun _ => Command.noConfusion
  exact ⟨hparse, hloud, hafter, houtput Command.noConfusion⟩

/-- Quiet output need not be empty: the path of the settings is written. -/
theorem not_silent_of_quiet :
    ¬ ∀ (s : Disk.Surroundings) (disk : Disk) (arguments : List String) (i : Invocation),
      Arguments.parse arguments = .ok i → i.common.quiet = true → i.common.json = false →
        (∀ shell, i.command ≠ .completions shell) →
          (i.ending ((i.run (outside s)).run.run disk).1).output = "" := by
  intro hsilent
  let s : Disk.Surroundings := ⟨[("LEE_CONFIG", "lee.toml")], none, .ok ""⟩
  let i : Invocation := ⟨⟨false, true, false, false⟩, .settingsPath⟩
  have hoff := hsilent s ⟨[], []⟩ ["--quiet", "config", "path"] i rfl rfl rfl
    fun _ => Command.noConfusion
  have houtput : (i.ending ((i.run (outside s)).run.run ⟨[], []⟩).1).output = "lee.toml\n" := by
    rfl
  exact absurd (houtput.symm.trans hoff) (by decide)

end Runs

end RecordFilter
