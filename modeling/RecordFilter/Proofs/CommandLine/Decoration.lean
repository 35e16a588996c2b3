import RecordFilter.Proofs.CommandLine.Colors
import RecordFilter.Proofs.CommandLine.Outcome
import RecordFilter.Proofs.Report.Decoration

/-!
# Runs with and without colours

What a command has to show is found without regard to colours: a value, and a text that may be
decorated (`Command.presentation?`). Colours come in where this is laid out. So two runs that
differ in what is said of colours fail alike, and where they succeed the one without colours writes
what the other one does, less the escape sequences (`run_decorated`).
-/

namespace RecordFilter

variable {ω : Type}

/-! ## What a command has to show -/

/-- What a command has to show: a value, and a text with or without colours. -/
structure Presentation where
  value : Json
  text : Bool → String

/-- A presentation in a layout. -/
def OutputOptions.present (layout : OutputOptions) (shown : Presentation) : String :=
  layout.render shown.value (shown.text layout.colors)

/-- What a filter has to show of records. -/
def FilterOptions.presentation (options : FilterOptions) (pretty : Bool) (matched : List Json) :
    Presentation :=
  if options.count then
    ⟨Report.countJson matched.length, fun colors => Report.countLine colors matched.length⟩
  else ⟨Report.recordsJson matched, fun _ => Report.recordLines pretty matched⟩

/-- What a command that uses the settings has to show, given these and the text with the records
of a filter. -/
def Command.presentation? (settings : Settings) (text : FilterOptions → Except Failure String) :
    Command → Option (Except Failure Presentation)
  | tokens expression keepWhitespace => some <|
    ((Cursor.ofText expression (!keepWhitespace)).mapError Failure.expression).map fun cursor =>
      ⟨Report.tokensJson cursor.tokens, fun colors => Report.tokenTable colors cursor.tokens⟩
  | parse expression => some <|
    ((Expr.ofText expression).mapError Failure.expression).map fun e =>
      ⟨Report.expressionJson e, fun colors => Report.expressionTable colors e⟩
  | filter options => some <|
    (options.selection settings (text options)).map
      (options.presentation (settings.pretty.getD false))
  | introduction | showSettings | changeSetting _ _ | settingsPath | completions _ => none

section Presentations

variable {o : Outside (StateM ω)} {w : ω} {i : Invocation} {command : Command}
  {settings : Settings} {text text' : FilterOptions → Except Failure String}
  {presented : Except Failure Presentation} {shown : Presentation}

theorem Command.exists_presentation (settings : Settings)
    (text : FilterOptions → Except Failure String) (huses : command.usesSettings = true) :
    ∃ presented, command.presentation? settings text = some presented := by
  cases command with
  | tokens | parse | filter => exact ⟨_, rfl⟩
  | introduction | showSettings | changeSetting | settingsPath | completions => cases huses

/-- What is said of colours has no part in what there is to show. -/
theorem Command.presentation?_color (color : Option Bool)
    (htext : ∀ options, command = .filter options → text' options = text options) :
    command.presentation? { settings with color := color } text'
      = command.presentation? settings text := by
  cases command with
  | filter options =>
    show some ((options.selection settings (text' options)).map _) = _
    rw [htext options rfl]
    rfl
  | tokens | parse | introduction | showSettings | changeSetting | settingsPath | completions => rfl

theorem FilterOptions.report_eq_present (options : FilterOptions) (layout : OutputOptions)
    (pretty : Bool) (matched : List Json) :
    options.report layout pretty matched
      = layout.present (options.presentation pretty matched) := by
  unfold FilterOptions.report FilterOptions.presentation
  split_ifs <;> rfl

theorem fst_run_ofExpression {α β : Type} (result : Except ExprError α) (f : α → β) :
    ((Command.ofExpression (result >>= fun a => pure (f a)) : Run (StateM ω) β).run.run w).1
      = (result.mapError Failure.expression).map f := by
  cases result <;> rfl

/-- A command that uses the settings lays out what it has to show. -/
theorem run_eq_present (ho : o.IsSteady) (hsettings : settingsIn o w = .ok settings)
    (h : i.command.presentation? settings (fun options => options.textIn o w) = some presented) :
    ((i.run o).run.run w).1 = presented.map (layoutIn o i.common settings w).present := by
  have hrun (huses : i.command.usesSettings = true) :=
    run_of_settingsIn ho ((Invocation.settingsIn_of_usesSettings huses).trans hsettings)
  cases hcommand : i.command with
  | tokens expression keepWhitespace =>
    rw [hcommand] at h hrun
    cases h
    rw [hrun rfl]
    refine (fst_run_ofExpression (Cursor.ofText expression _) _).trans ?_
    cases (Cursor.ofText expression (!keepWhitespace)).mapError Failure.expression <;> rfl
  | parse expression =>
    rw [hcommand] at h hrun
    cases h
    rw [hrun rfl]
    refine (fst_run_ofExpression (Expr.ofText expression) _).trans ?_
    cases (Expr.ofText expression).mapError Failure.expression <;> rfl
  | filter options =>
    rw [hcommand] at h
    cases h
    rw [run_filter_eq ho hcommand, bind_of_ok hsettings]
    cases options.selection settings (options.textIn o w) with
    | error cause => rfl
    | ok matched => exact congrArg Except.ok (options.report_eq_present _ _ matched)
  | introduction | showSettings | changeSetting | settingsPath | completions =>
    rw [hcommand] at h
    cases h

/-- A text with colours is the one without, decorated, if the texts that it repeats are plain. -/
theorem Command.decorates_of_presentation
    (h : command.presentation? settings text = some (.ok shown))
    (hrepeated : ∀ text ∈ command.repeated o w, Plain text) (colors : Bool) :
    Decorates (shown.text colors) (shown.text false) := by
  cases command with
  | tokens expression keepWhitespace =>
    obtain ⟨cursor, hcursor, rfl⟩ := exists_of_map_eq_ok (Option.some.inj h)
    exact Report.decorates_tokenTable (plain_of_cursor (ok_of_mapError_eq_ok hcursor)
      (hrepeated _ List.mem_cons_self)) colors
  | parse expression =>
    obtain ⟨e, he, rfl⟩ := exists_of_map_eq_ok (Option.some.inj h)
    exact Report.decorates_expressionTable (Expr.plain_of_ofText (ok_of_mapError_eq_ok he)
      (hrepeated _ List.mem_cons_self)) colors
  | filter options =>
    obtain ⟨matched, hmatched, rfl⟩ := exists_of_map_eq_ok (Option.some.inj h)
    obtain ⟨compiled, input, records, -, -, hrecords, rfl⟩ := exists_of_selection hmatched
    unfold FilterOptions.presentation
    split_ifs
    · exact Report.decorates_countLine _ colors
    · exact (Report.plain_recordLines (fun record hrecord =>
        Record.nested_of_ofText hrecords record
          (Record.forall_of_select record hrecord).1) _).decorates
  | introduction | showSettings | changeSetting | settingsPath | completions => cases h

/-- There are no colours in the records of a filter. -/
theorem Command.text_of_presentation {options : FilterOptions} (hcount : options.count = false)
    (h : (Command.filter options).presentation? settings text = some (.ok shown)) (colors : Bool) :
    shown.text colors = shown.text false := by
  obtain ⟨matched, -, rfl⟩ := exists_of_map_eq_ok (Option.some.inj h)
  rw [FilterOptions.presentation, hcount]
  rfl

theorem OutputOptions.present_congr {layout layout' : OutputOptions}
    (hjson : layout'.json = layout.json) (hquiet : layout'.quiet = layout.quiet)
    (h : layout.json = true ∨ shown.text layout'.colors = shown.text layout.colors) :
    layout'.present shown = layout.present shown := by
  unfold OutputOptions.present OutputOptions.render
  rcases h with h | h
  · simp only [hjson, h, if_true]
  · rw [hjson, hquiet, h]

theorem OutputOptions.decorates_present {layout layout' : OutputOptions}
    (hjson : layout'.json = layout.json) (hquiet : layout'.quiet = layout.quiet)
    (hcolors : layout'.colors = false)
    (h : ∀ colors, Decorates (shown.text colors) (shown.text false)) :
    Decorates (layout.present shown) (layout'.present shown) := by
  unfold OutputOptions.present OutputOptions.render
  rw [hjson, hquiet, hcolors]
  split_ifs
  · exact ((Json.plain_pretty shown.value).append (by decide)).decorates
  · exact Plain.decorates (by decide)
  · exact h layout.colors

end Presentations

/-! ## Runs that differ in colours -/

/-- Two invocations in their worlds that differ at most in what is said of colours there, by
options, variables or settings. -/
structure DifferInColors (i : Invocation) (o : Outside (StateM ω)) (w : ω) (i' : Invocation)
    (o' : Outside (StateM ω)) (w' : ω) : Prop where
  command : i'.command = i.command
  json : i'.common.json = i.common.json
  quiet : i'.common.quiet = i.common.quiet
  settings : ∃ color, settingsIn o' w'
    = (settingsIn o w).map fun settings => { settings with color := color }
  text : ∀ options, i.command = .filter options → options.textIn o' w' = options.textIn o w

section Runs

variable {o o' : Outside (StateM ω)} {w w' : ω} {i i' : Invocation}

/-- Two such runs fail alike, or show the same in layouts that differ in colours only. -/
theorem DifferInColors.cases (ho : o.IsSteady) (ho' : o'.IsSteady)
    (huses : i.command.usesSettings = true) (h : DifferInColors i o w i' o' w') :
    (∃ cause, ((i.run o).run.run w).1 = .error cause ∧ ((i'.run o').run.run w').1 = .error cause)
      ∨ ∃ settings color shown,
        i.command.presentation? settings (fun options => options.textIn o w) = some (.ok shown)
          ∧ ((i.run o).run.run w).1 = .ok ((layoutIn o i.common settings w).present shown)
          ∧ settingsIn o' w' = .ok { settings with color := color }
          ∧ ((i'.run o').run.run w').1
            = .ok ((layoutIn o' i'.common { settings with color := color } w').present shown) := by
  obtain ⟨color, hcolor⟩ := h.settings
  have huses' : i'.command.usesSettings = true := h.command ▸ huses
  cases hsettings : settingsIn o w with
  | error cause =>
    rw [hsettings] at hcolor
    rw [run_of_settingsIn_error ho ((Invocation.settingsIn_of_usesSettings huses).trans hsettings),
      run_of_settingsIn_error ho' ((Invocation.settingsIn_of_usesSettings huses').trans hcolor)]
    exact .inl ⟨cause, rfl, rfl⟩
  | ok settings =>
    rw [hsettings] at hcolor
    obtain ⟨presented, hpresented⟩ :=
      Command.exists_presentation settings (fun options => options.textIn o w) huses
    have hpresented' : i'.command.presentation? { settings with color := color }
        (fun options => options.textIn o' w') = some presented := by
      rw [h.command, Command.presentation?_color color h.text, hpresented]
    rw [run_eq_present ho hsettings hpresented, run_eq_present ho' hcolor hpresented']
    cases presented with
    | error cause => exact .inl ⟨cause, rfl, rfl⟩
    | ok shown => exact .inr ⟨settings, color, shown, hpresented, rfl, hcolor, rfl⟩

/-- **Colours only decorate.** Let two runs of a command that lays its output out by the settings
differ in nothing but what is said of colours. They fail alike, and end with the same status and
the same complaint. A value is shown alike in both, and so are the records of a filter. If colours
are refused in the second run, and the expression that is shown holds no escape character, then the
second run writes what the first one writes, less the escape sequences. -/
theorem run_decorated (ho : o.IsSteady) (ho' : o'.IsSteady)
    (huses : i.command.usesSettings = true) (h : DifferInColors i o w i' o' w') :
    let outcome := ((i.run o).run.run w).1
    let outcome' := ((i'.run o').run.run w').1
    cause? outcome' = cause? outcome
      ∧ (i'.ending outcome').status = (i.ending outcome).status
      ∧ (i'.ending outcome').complaint = (i.ending outcome).complaint
      ∧ (i.common.json = true ∨ (∃ options, i.command = .filter options ∧ options.count = false) →
        outcome' = outcome)
      ∧ (i'.ColorsRefused o' w' → (∀ text ∈ i.command.repeated o w, Plain text) →
        ∀ output, outcome = .ok output → outcome' = .ok (withoutSequences output)) := by
  rcases h.cases ho ho' huses with
    ⟨cause, hrun, hrun'⟩ | ⟨settings, color, shown, hshown, hrun, hsettings, hrun'⟩
  · rw [hrun, hrun']
    refine ⟨rfl, rfl, ?_, fun _ => rfl, fun _ _ output houtput => ?_⟩
    · rw [Invocation.ending, Invocation.ending, h.json]
    · cases houtput
  · rw [hrun, hrun']
    refine ⟨rfl, rfl, rfl, fun halike => ?_, fun hrefused hrepeated output houtput => ?_⟩
    · refine congrArg Except.ok (OutputOptions.present_congr h.json h.quiet ?_)
      rcases halike with hjson | ⟨options, hcommand, hcount⟩
      · exact .inl hjson
      · rw [hcommand] at hshown
        have htext := Command.text_of_presentation hcount hshown
        exact .inr ((htext _).trans (htext _).symm)
    · cases houtput
      have hcolors :
          (layoutIn o' i'.common { settings with color := color } w').colors = false := by
        rcases hrefused with hrefuses | ⟨other, hother, hoff⟩
        · exact colors_layoutIn_of_refusesColors hrefuses
        · rw [hsettings] at hother
          cases hother
          exact colors_layoutIn_of_color hoff
      have hdecorates : Decorates ((layoutIn o i.common settings w).present shown)
          ((layoutIn o' i'.common { settings with color := color } w').present shown) :=
        OutputOptions.decorates_present h.json h.quiet hcolors
          (Command.decorates_of_presentation hshown hrepeated)
      rw [hdecorates.withoutSequences_eq]

end Runs

open Disk (outside)

/-- The structure of an expression, once in colours and once where the settings refuse them. The
string in it would end a style if there were an escape character in front. -/
theorem run_decorated_parse :
    let s : Disk.Surroundings := ⟨[("LEE_CONFIG", "lee.toml")], none, .ok ""⟩
    let disk : Disk := ⟨[], [(["lee.toml"], .file "[output]\ncolor = false\n")]⟩
    let i : Invocation := ⟨⟨false, false, false, false⟩, .parse "a = '[0m' or (b > 1.5)"⟩
    ∃ output, ((i.run (outside s)).run.run ⟨[], []⟩).1 = .ok output ∧ ¬ Plain output
      ∧ ((i.run (outside s)).run.run disk).1 = .ok (withoutSequences output) := by
  intro s disk i
  have hcause : cause? ((i.run (outside s)).run.run ⟨[], []⟩).1 = none := by decide +kernel
  obtain ⟨output, hrun⟩ := cause?_eq_none_iff.mp hcause
  have hcolored : ((i.run (outside s)).run.run ⟨[], []⟩).1.toOption.any
      (fun text => text.toList.contains '\x1b') = true := by decide +kernel
  have hoff : settingsIn (outside s) disk = .ok ⟨some false, none, none, []⟩ := by decide +kernel
  have hdiffer : DifferInColors i (outside s) ⟨[], []⟩ i (outside s) disk := {
    command := rfl
    json := rfl
    quiet := rfl
    settings := ⟨some false, by decide +kernel⟩
    text := fun options h => Command.noConfusion h }
  obtain ⟨-, -, -, -, hdecorated⟩ :=
    run_decorated isSteady_outside isSteady_outside rfl hdiffer
  refine ⟨output, hrun, fun hplain => ?_, ?_⟩
  · rw [hrun] at hcolored
    exact hplain (List.contains_iff_mem.mp hcolored)
  · exact hdecorated (.inr ⟨_, hoff, rfl⟩) (by decide +kernel) output hrun

end RecordFilter
