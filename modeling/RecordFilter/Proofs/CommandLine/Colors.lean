import RecordFilter.Proofs.Record.Input
import RecordFilter.Proofs.Report.Plain
import RecordFilter.Proofs.Settings.Commands

/-!
# Colours switched off

Colours can be refused by an option, by a variable and by the settings. A command that reads the
settings for its layout heeds all three: it writes what it would write with the option, and puts
no escape character into its output but those of texts that it repeats. The command that shows the
settings reads them for their own sake alone: it heeds the option and the variable, but its heading
stays coloured where only the settings speak against it (`run_of_colorsRefused`).
-/

namespace RecordFilter

variable {ω : Type}

/-! ## Refusing colours -/

namespace Invocation

/-- The same invocation with colours switched off by its option. -/
def uncolored (i : Invocation) : Invocation :=
  { i with common := { i.common with noColor := true } }

/-- Whether the command shows the settings in text. -/
def ShowsSettingsText (i : Invocation) : Prop :=
  i.command = .showSettings ∧ i.common.json = false ∧ i.common.quiet = false

variable (i : Invocation) (o : Outside (StateM ω)) (w : ω)

/-- Whether the option or the variable speaks against colours. -/
def RefusesColors : Prop :=
  i.common.noColor = true ∨ ∃ value ∈ ((o.lookup noColorVariable).run w).1, value ≠ ""

/-- Whether the option, the variable or the settings speak against colours. -/
def ColorsRefused : Prop :=
  i.RefusesColors o w
    ∨ ∃ settings, RecordFilter.settingsIn o w = .ok settings ∧ settings.color = some false

end Invocation

section Layouts

variable {o : Outside (StateM ω)} {w : ω} {i : Invocation} {settings : Settings}
  {layout : OutputOptions} {command : Command}

theorem layoutIn_uncolored : layoutIn o i.uncolored.common settings w
    = { layoutIn o i.common settings w with colors := false } := rfl

/-- What speaks against colours: a switch, or a variable that is not empty. -/
theorem refusesColors_iff : i.RefusesColors o w ↔ (i.common.noColor
    || ((o.lookup noColorVariable).run w).1.any fun value => value != "") = true := by
  simp [Invocation.RefusesColors, Option.any_eq_true]

/-- Output has colours if nothing speaks against them, the settings included. -/
theorem colors_layoutIn : (layoutIn o i.common settings w).colors
    = (!(i.common.noColor || ((o.lookup noColorVariable).run w).1.any fun value => value != "")
      && settings.color.getD true) := by
  rw [Bool.not_or]
  rfl

/-- A refusal holds whatever the settings say. -/
theorem colors_layoutIn_of_refusesColors (h : i.RefusesColors o w) :
    (layoutIn o i.common settings w).colors = false := by
  rw [colors_layoutIn, refusesColors_iff.mp h]
  rfl

/-- Where nothing is set there are colours unless they are refused. -/
theorem colors_layoutIn_default (h : ¬ i.RefusesColors o w) :
    (layoutIn o i.common .default w).colors = true := by
  rw [colors_layoutIn, Bool.eq_false_of_not_eq_true (refusesColors_iff.not.mp h)]
  rfl

/-- The settings alone can switch colours off. -/
theorem colors_layoutIn_of_color (h : settings.color = some false) :
    (layoutIn o i.common settings w).colors = false := by
  rw [colors_layoutIn, h]
  exact Bool.and_false _

theorem eq_uncolored (h : layout.colors = false) : { layout with colors := false } = layout := by
  rw [← h]

/-- Commands that neither read the settings for their layout nor show them have no colours. -/
theorem runWith_uncolored (huses : command.usesSettings = false)
    (hshow : command ≠ .showSettings) :
    command.runWith o { layout with colors := false } settings
      = command.runWith o layout settings := by
  cases command with
  | introduction | changeSetting | settingsPath | completions => rfl
  | tokens | parse | filter => cases huses
  | showSettings => exact absurd rfl hshow

/-- There are no colours in a value, nor where nothing is shown. -/
theorem runShow_uncolored (h : layout.json = true ∨ layout.quiet = true) :
    Command.runShow o { layout with colors := false } = Command.runShow o layout := by
  unfold Command.runShow OutputOptions.render
  rcases h with hjson | hquiet
  · simp only [hjson, if_true]
  · simp only [hquiet, if_true]

/-- A command that heeds what speaks against colours runs as it does with the option. -/
theorem run_uncolored (ho : o.IsSteady)
    (h : ∀ settings, i.settingsIn o w = .ok settings →
      i.command.runWith o { layoutIn o i.common settings w with colors := false } settings
        = i.command.runWith o (layoutIn o i.common settings w) settings) :
    (i.uncolored.run o).run.run w = (i.run o).run.run w := by
  cases hsettings : i.settingsIn o w with
  | error cause =>
    rw [run_of_settingsIn_error (i := i.uncolored) ho hsettings,
      run_of_settingsIn_error ho hsettings]
  | ok settings =>
    rw [run_of_settingsIn (i := i.uncolored) ho hsettings, run_of_settingsIn ho hsettings,
      layoutIn_uncolored]
    exact congrArg (fun x => x.run.run w) (h settings hsettings)

end Layouts

/-! ## Output without colours -/

/-- The path at which the settings are kept in a world. -/
def pathIn (o : Outside (StateM ω)) (w : ω) : Except Failure String :=
  ((Settings.path o).run.run w).1

/-- The texts that a command may write as they are: an expression that it shows, a change that it
confirms, and where it shows the settings, their path and the names of the declared fields. -/
def Command.repeated (o : Outside (StateM ω)) (w : ω) : Command → List String
  | tokens expression _ | parse expression => [expression]
  | changeSetting key value => [key, value]
  | settingsPath => (pathIn o w).toOption.toList
  | showSettings => (pathIn o w).toOption.toList
    ++ (settingsIn o w).toOption.elim [] fun settings => settings.fields.map Prod.fst
  | introduction | filter _ | completions _ => []

section Output

variable {o : Outside (StateM ω)} {w after : ω} {settings : Settings} {layout : OutputOptions}
  {command : Command} {text output path : String}

/-- What is printed is JSON, the plain text, or nothing. -/
theorem OutputOptions.plain_render (value : Json) (h : Plain text) :
    Plain (layout.render value text) := by
  unfold OutputOptions.render
  split_ifs
  · exact (Json.plain_pretty value).append (by decide)
  · decide
  · exact h

/-- Looking for the path finds it and changes nothing. -/
theorem path_run_of_isSteady (ho : o.IsSteady) (w : ω) :
    (Settings.path o).run.run w = (pathIn o w, w) := Prod.ext rfl (keeps_path ho w)

/-- Reading the settings finds them and changes nothing. -/
theorem load_run_of_isSteady (ho : o.IsSteady) (w : ω) :
    (Settings.load o).run.run w = (settingsIn o w, w) := Prod.ext rfl (keeps_load ho w)

/-- Where settings are read, there is a path for them. -/
theorem exists_pathIn_of_settingsIn (ho : o.IsSteady) (h : settingsIn o w = .ok settings) :
    ∃ path, pathIn o w = .ok path := by
  have hload := load_run_of_isSteady ho w
  rw [h] at hload
  obtain ⟨path, next, hpath, -⟩ := exists_of_run_bind_eq_ok hload
  exact ⟨path, congrArg Prod.fst hpath⟩

/-- What showing the settings prints, given the settings and their path. -/
theorem runShow_run (ho : o.IsSteady) (hsettings : settingsIn o w = .ok settings)
    (hpath : pathIn o w = .ok path) :
    (Command.runShow o layout).run.run w
      = (let present := ((o.pathExists path).run w).1
        .ok (layout.render (Report.settingsReportJson path present settings)
          (Report.settingsTable layout.colors path present settings)), w) := by
  have hload := load_run_of_isSteady ho w
  have hplace := path_run_of_isSteady ho w
  have hpresent : (o.pathExists path).run w = (((o.pathExists path).run w).1, w) :=
    Prod.ext rfl (ho.pathExists path w)
  rw [hsettings] at hload
  rw [hpath] at hplace
  unfold Command.runShow
  rw [run_bind_of_ok hload, run_bind_of_ok hplace, run_bind_of_ok (run_liftM_of_run hpresent)]
  rfl

/-- An expression that was understood gives what it gives. -/
theorem eq_ok_of_ofExpression {result : Except ExprError String}
    (h : (Command.ofExpression result : Run (StateM ω) String).run.run w = (.ok output, after)) :
    result = .ok output := by
  cases result with
  | error cause => cases h
  | ok text =>
    cases h
    rfl

/-- The tokens under a cursor are plain if the text is. -/
theorem plain_of_cursor {skipWhitespace : Bool} {cursor : Cursor}
    (h : Cursor.ofText text skipWhitespace = .ok cursor) (htext : Plain text) :
    ∀ token ∈ cursor.tokens, Plain token.literal := by
  intro token htoken
  unfold Cursor.ofText at h
  split at h
  · next tokens htokenize =>
    cases h
    refine plain_of_tokenize htokenize htext token ?_
    unfold Cursor.ofTokens at htoken
    dsimp only at htoken
    split at htoken
    · exact List.mem_of_mem_filter htoken
    · exact htoken
  · cases h

/-- Without colours the tokens of a plain text are printed as plain text. -/
theorem plain_runTokens (hcolors : layout.colors = false) {keepWhitespace : Bool}
    (htext : Plain text) (h : Command.runTokens layout text keepWhitespace = .ok output) :
    Plain output := by
  obtain ⟨cursor, hcursor, h⟩ := exists_of_bind_eq_ok h
  cases h
  rw [hcolors]
  exact OutputOptions.plain_render _ (Report.plain_tokenTable (plain_of_cursor hcursor htext))

/-- Without colours an expression in plain text is printed as plain text. -/
theorem plain_runParse (hcolors : layout.colors = false) (htext : Plain text)
    (h : Command.runParse layout text = .ok output) : Plain output := by
  obtain ⟨e, he, h⟩ := exists_of_bind_eq_ok h
  cases h
  rw [hcolors]
  exact OutputOptions.plain_render _ (Report.plain_expressionTable (Expr.plain_of_ofText he htext))

/-- Without colours a filter prints plain text, whatever the records contain. -/
theorem plain_report (hcolors : layout.colors = false) {options : FilterOptions} {pretty : Bool}
    {levels : Nat} {records : List Json} (h : ∀ record ∈ records, Json.Nested levels record) :
    Plain (options.report layout pretty records) := by
  unfold FilterOptions.report
  split_ifs
  · rw [hcolors]
    exact OutputOptions.plain_render _ (Report.plain_countLine _)
  · exact OutputOptions.plain_render _ (Report.plain_recordLines h pretty)

/-- A filter writes JSON and numbers. -/
theorem plain_filter (hcolors : layout.colors = false) {options : FilterOptions}
    (h : (options.run o layout settings).run.run w = (.ok output, after)) : Plain output := by
  unfold FilterOptions.run at h
  cases hcompile : options.compile settings with
  | error cause =>
    rw [hcompile] at h
    cases h
  | ok compiled =>
    rw [hcompile] at h
    obtain ⟨text, next, -, h⟩ := exists_of_run_bind_eq_ok h
    cases hrecords : Record.ofText text with
    | error cause =>
      rw [hrecords] at h
      cases h
    | ok records =>
      rw [hrecords] at h
      cases h
      exact plain_report hcolors fun record hrecord =>
        Record.nested_of_ofText hrecords record (Record.forall_of_select record hrecord).1

/-- Without colours the settings are printed as plain text, if their path and their names are. -/
theorem plain_runShow (ho : o.IsSteady) (hcolors : layout.colors = false)
    (hpath : ∀ path, pathIn o w = .ok path → Plain path)
    (hfields : ∀ settings, settingsIn o w = .ok settings →
      ∀ field ∈ settings.fields, Plain field.1)
    (h : (Command.runShow o layout).run.run w = (.ok output, after)) : Plain output := by
  cases hsettings : settingsIn o w with
  | error cause =>
    have hload := load_run_of_isSteady ho w
    rw [hsettings] at hload
    unfold Command.runShow at h
    rw [run_bind_of_error hload] at h
    cases h
  | ok settings =>
    obtain ⟨path, hplace⟩ := exists_pathIn_of_settingsIn ho hsettings
    rw [runShow_run ho hsettings hplace, hcolors] at h
    cases h
    exact OutputOptions.plain_render _ (Report.plain_settingsTable (hpath path hplace)
      (hfields settings hsettings) _)

/-- A changed setting is reported in its own words, without colours. -/
theorem plain_runChange {key value : String} (hkey : Plain key) (hvalue : Plain value)
    (h : (Command.runChange o layout key value).run.run w = (.ok output, after)) :
    Plain output := by
  obtain ⟨settings, _, -, h⟩ := exists_of_run_bind_eq_ok h
  obtain ⟨path, _, -, h⟩ := exists_of_run_bind_eq_ok h
  split at h
  · cases h
  · obtain ⟨_, _, -, h⟩ := exists_of_run_bind_eq_ok h
    cases h
    refine OutputOptions.plain_render _ ?_
    exact (((Plain.append (by decide) hkey).append (by decide)).append hvalue).append (by decide)

/-- The path is printed as it is. -/
theorem plain_runPath (hpath : ∀ path, pathIn o w = .ok path → Plain path)
    (h : (Command.runPath o layout).run.run w = (.ok output, after)) : Plain output := by
  obtain ⟨path, next, hplace, h⟩ := exists_of_run_bind_eq_ok h
  obtain ⟨present, _, -, h⟩ := exists_of_run_bind_eq_ok h
  cases h
  split_ifs
  · exact (Json.plain_pretty _).append (by decide)
  · exact (hpath path (congrArg Prod.fst hplace)).append (by decide)

/-- Without colours, a command puts no escape character into its output but those of texts that it
repeats. -/
theorem plain_runWith (ho : o.IsSteady) (hcolors : layout.colors = false)
    (hrepeated : ∀ text ∈ command.repeated o w, Plain text)
    (h : (command.runWith o layout settings).run.run w = (.ok output, after)) : Plain output := by
  cases command with
  | introduction =>
    cases h
    split_ifs <;> decide +kernel
  | tokens expression keepWhitespace =>
    exact plain_runTokens hcolors (hrepeated _ List.mem_cons_self) (eq_ok_of_ofExpression h)
  | parse expression =>
    exact plain_runParse hcolors (hrepeated _ List.mem_cons_self) (eq_ok_of_ofExpression h)
  | filter options => exact plain_filter hcolors h
  | showSettings =>
    refine plain_runShow ho hcolors (fun path hpath => hrepeated path ?_)
      (fun settings hsettings field hfield => hrepeated field.1 ?_) h
    · rw [Command.repeated, hpath]
      exact List.mem_append_left _ List.mem_cons_self
    · rw [Command.repeated, hsettings]
      exact List.mem_append_right _ (List.mem_map_of_mem hfield)
  | changeSetting key value =>
    exact plain_runChange (hrepeated key List.mem_cons_self)
      (hrepeated value (List.mem_cons_of_mem _ List.mem_cons_self)) h
  | settingsPath =>
    refine plain_runPath (fun path hpath => hrepeated path ?_) h
    rw [Command.repeated, hpath]
    exact List.mem_cons_self
  | completions shell =>
    cases h
    cases shell <;> decide +kernel

end Output

/-! ## Where colours are refused -/

section Refused

variable {o : Outside (StateM ω)} {w : ω} {i : Invocation} {output : String}

/-- With the option, a command puts no escape character into its output but those of texts that it
repeats. -/
theorem plain_uncolored (ho : o.IsSteady) (hrepeated : ∀ text ∈ i.command.repeated o w, Plain text)
    (h : ((i.uncolored.run o).run.run w).1 = .ok output) : Plain output := by
  cases hsettings : i.settingsIn o w with
  | error cause =>
    rw [run_of_settingsIn_error (i := i.uncolored) ho hsettings] at h
    cases h
  | ok settings =>
    rw [run_of_settingsIn (i := i.uncolored) ho hsettings] at h
    exact plain_runWith ho rfl hrepeated (Prod.ext h rfl)

/-- A command that does not show the settings in text heeds them. -/
theorem run_uncolored_of_settings (ho : o.IsSteady) (hshows : ¬ i.ShowsSettingsText)
    {settings : Settings} (hsettings : settingsIn o w = .ok settings)
    (hcolor : settings.color = some false) :
    (i.uncolored.run o).run.run w = (i.run o).run.run w := by
  refine run_uncolored ho fun used hused => ?_
  -- the layout follows from the settings only for a command that uses them; of the others, only
  -- the one that shows them has colours at all
  by_cases huses : i.command.usesSettings = true
  · rw [Invocation.settingsIn_of_usesSettings huses, hsettings] at hused
    cases hused
    rw [eq_uncolored (colors_layoutIn_of_color hcolor)]
  · by_cases hshow : i.command = .showSettings
    · have hlayout : (layoutIn o i.common used w).json = true
          ∨ (layoutIn o i.common used w).quiet = true := by
        by_contra hneither
        obtain ⟨hjson, hquiet⟩ := not_or.mp hneither
        exact hshows ⟨hshow, Bool.not_eq_true _ ▸ hjson, Bool.not_eq_true _ ▸ hquiet⟩
      rw [hshow]
      exact runShow_uncolored hlayout
    · exact runWith_uncolored (Bool.not_eq_true _ ▸ huses) hshow

/-- Colours change nothing over the settings but their heading. -/
theorem exists_settingsTable_eq (path : String) (present : Bool) (settings : Settings) :
    ∃ rest, ∀ colors, Report.settingsTable colors path present settings
      = Report.heading colors "Configuration" ++ rest := by
  let below := if present then Report.settingsText settings else Report.noDocumentText
  refine ⟨"\n\nFile: " ++ (path ++ ("\nExists: " ++ (Settings.booleanText present
    ++ ("\n\n" ++ below)))), fun colors => ?_⟩
  simp only [Report.settingsTable, String.append_assoc, below]

/-- The settings are shown with a heading that is coloured unless the option or the variable
speaks against it. -/
theorem run_showsSettingsText (ho : o.IsSteady) (hshows : i.ShowsSettingsText)
    {settings : Settings} (hsettings : settingsIn o w = .ok settings) :
    ∃ rest, ((i.run o).run.run w).1
      = .ok (Report.heading (layoutIn o i.common .default w).colors "Configuration" ++ rest)
        ∧ ((i.uncolored.run o).run.run w).1 = .ok ("Configuration" ++ rest) := by
  obtain ⟨hshow, hjson, hquiet⟩ := hshows
  obtain ⟨path, hpath⟩ := exists_pathIn_of_settingsIn ho hsettings
  obtain ⟨rest, hrest⟩ := exists_settingsTable_eq path ((o.pathExists path).run w).1 settings
  have hdefault : i.settingsIn o w = .ok .default := by
    rw [Invocation.settingsIn, hshow]
    rfl
  have htext : ∀ layout : OutputOptions, layout.json = false → layout.quiet = false →
      ((i.command.runWith o layout .default).run.run w).1
        = .ok (Report.heading layout.colors "Configuration" ++ rest) := by
    intro layout hjson hquiet
    rw [hshow]
    show ((Command.runShow o layout).run.run w).1 = _
    rw [runShow_run ho hsettings hpath, ← hrest]
    unfold OutputOptions.render
    rw [hjson, hquiet]
    rfl
  refine ⟨rest, ?_, ?_⟩
  · rw [run_of_settingsIn ho hdefault]
    exact htext _ hjson hquiet
  · rw [run_of_settingsIn (i := i.uncolored) ho hdefault]
    exact htext _ hjson hquiet

/-- **Where colours are refused, there are none, except in the heading over the settings.** If the
option or the variable speaks against colours, or the settings do and they are not what is shown in
text, then a command runs as it does with the option, and puts no escape character into its output
but those of texts that it repeats. Where the settings alone speak against colours, they are shown
in text under a heading that is coloured, and otherwise as they are with the option. -/
theorem run_of_colorsRefused (ho : o.IsSteady) (h : i.ColorsRefused o w) :
    (i.RefusesColors o w ∨ ¬ i.ShowsSettingsText →
        (i.run o).run.run w = (i.uncolored.run o).run.run w
          ∧ ((∀ text ∈ i.command.repeated o w, Plain text) →
            ∀ output, ((i.run o).run.run w).1 = .ok output → Plain output))
      ∧ (¬ i.RefusesColors o w → i.ShowsSettingsText →
        ∃ rest, ((i.run o).run.run w).1 = .ok (Report.heading true "Configuration" ++ rest)
          ∧ ((i.uncolored.run o).run.run w).1 = .ok ("Configuration" ++ rest)) := by
  constructor
  · intro hheeds
    have hrun : (i.uncolored.run o).run.run w = (i.run o).run.run w := by
      by_cases hrefuses : i.RefusesColors o w
      · refine run_uncolored ho fun settings _ => ?_
        rw [eq_uncolored (colors_layoutIn_of_refusesColors hrefuses)]
      · obtain ⟨settings, hsettings, hcolor⟩ := h.resolve_left hrefuses
        exact run_uncolored_of_settings ho (hheeds.resolve_left hrefuses) hsettings hcolor
    refine ⟨hrun.symm, fun hrepeated output houtput => ?_⟩
    rw [← hrun] at houtput
    exact plain_uncolored ho hrepeated houtput
  · intro hheedless hshows
    obtain ⟨settings, hsettings, -⟩ := h.resolve_left hheedless
    have hrun := run_showsSettingsText ho hshows hsettings
    rwa [colors_layoutIn_default hheedless] at hrun

open Disk (outside)

/-- The settings speak against colours, and tokens are shown without them. -/
theorem run_of_colorsRefused_tokens :
    let s : Disk.Surroundings := ⟨[("LEE_CONFIG", "lee.toml")], none, .ok ""⟩
    let disk : Disk := ⟨[], [(["lee.toml"], .file "[output]\ncolor = false\n")]⟩
    let i : Invocation := ⟨⟨false, false, false, false⟩, .tokens "a = 1" false⟩
    i.ColorsRefused (outside s) disk
      ∧ (i.run (outside s)).run.run disk = (i.uncolored.run (outside s)).run.run disk
      ∧ ∀ output, ((i.run (outside s)).run.run disk).1 = .ok output → Plain output := by
  intro s disk i
  have hsettings : settingsIn (outside s) disk = .ok ⟨some false, none, none, []⟩ := by
    decide +kernel
  have hrefused : i.ColorsRefused (outside s) disk := .inr ⟨_, hsettings, rfl⟩
  have hshows : ¬ i.ShowsSettingsText := fun h => Command.noConfusion h.1
  obtain ⟨hrun, hplain⟩ := (run_of_colorsRefused isSteady_outside hrefused).1 (.inr hshows)
  exact ⟨hrefused, hrun, hplain (by decide +kernel)⟩

/-- Where colours are refused and no text with an escape character is repeated, output need not be
plain: the settings that speak against colours are shown under a coloured heading. -/
theorem not_plain_of_colorsRefused :
    ¬ ∀ (s : Disk.Surroundings) (disk : Disk) (i : Invocation) (output : String),
      i.ColorsRefused (outside s) disk →
        (∀ text ∈ i.command.repeated (outside s) disk, Plain text) →
          ((i.run (outside s)).run.run disk).1 = .ok output → Plain output := by
  intro hplain
  let s : Disk.Surroundings := ⟨[("LEE_CONFIG", "lee.toml")], none, .ok ""⟩
  let disk : Disk := ⟨[], [(["lee.toml"], .file "[output]\ncolor = false\n")]⟩
  let i : Invocation := ⟨⟨false, false, false, false⟩, .showSettings⟩
  let output := "\x1b[1m\x1b[32mConfiguration\x1b[39m\x1b[0m\n\nFile: lee.toml\nExists: true\n\n"
    ++ "[output]\n  color: false\n\n[filter]\n"
  have hsettings : settingsIn (outside s) disk = .ok ⟨some false, none, none, []⟩ := by
    decide +kernel
  have hrun : ((i.run (outside s)).run.run disk).1 = .ok output := by decide +kernel
  have hoff := hplain s disk i output (.inr ⟨_, hsettings, rfl⟩) (by decide +kernel) hrun
  exact absurd hoff (by decide +kernel)

end Refused

end RecordFilter
