import RecordFilter.Proofs.CommandLine.Failures

/-!
# What a filter comes to

A filter reaches outside for three things only: its settings, its layout and the text with the
records. Given these, what it comes to is a plain function of them (`run_filter_eq`): it selects
records, or finds a fault on the way, and reports on what it has selected. How the report is laid
out has no influence on the selection.
-/

namespace RecordFilter

variable {ω : Type}

/-! ## Selecting -/

/-- The records that a filter selects, given its settings and the text with the records. -/
def FilterOptions.selection (options : FilterOptions) (settings : Settings)
    (text : Except Failure String) : Except Failure (List Json) := do
  let compiled ← (options.compile settings).mapError .expression
  let text ← text
  let records ← (Record.ofText text).mapError .input
  return Record.select options.limit compiled.evaluate records

section Selecting

variable {options : FilterOptions} {settings : Settings} {text : Except Failure String}
  {matched : List Json}

/-- A selection comes from records that were read and an expression that is understood. -/
theorem exists_of_selection (h : options.selection settings text = .ok matched) :
    ∃ compiled input records, options.compile settings = .ok compiled ∧ text = .ok input
      ∧ Record.ofText input = .ok records
      ∧ matched = Record.select options.limit compiled.evaluate records := by
  obtain ⟨compiled, hcompiled, h⟩ := exists_of_bind_eq_ok h
  obtain ⟨input, hinput, h⟩ := exists_of_bind_eq_ok h
  obtain ⟨records, hrecords, h⟩ := exists_of_bind_eq_ok h
  exact ⟨compiled, input, records, ok_of_mapError_eq_ok hcompiled, hinput,
    ok_of_mapError_eq_ok hrecords, (Except.ok.inj h).symm⟩

theorem selection_of_read {compiled : Compiled Json} {input : String} {records : List Json}
    (hcompile : options.compile settings = .ok compiled) (htext : text = .ok input)
    (hrecords : Record.ofText input = .ok records) :
    options.selection settings text
      = .ok (Record.select options.limit compiled.evaluate records) := by
  rw [FilterOptions.selection, hcompile, htext]
  show (Record.ofText input).mapError Failure.input >>= _ = _
  rw [hrecords]
  rfl

end Selecting

/-! ## Running -/

/-- What a filter with the given options comes to. -/
def filterOutcome (o : Outside (StateM ω)) (w : ω) (common : CommonOptions)
    (options : FilterOptions) : Except Failure String :=
  ((Invocation.run o ⟨common, .filter options⟩).run.run w).1

section Running

variable {o : Outside (StateM ω)} {w : ω} {i : Invocation} {common : CommonOptions}
  {options : FilterOptions}

/-- A filter reports on the records that it selects. -/
theorem fst_run_filterOptions (layout : OutputOptions) (settings : Settings) :
    ((options.run o layout settings).run.run w).1
      = (options.selection settings (options.textIn o w)).map
          (options.report layout (settings.pretty.getD false)) := by
  unfold FilterOptions.run FilterOptions.selection
  cases options.compile settings with
  | error cause => rfl
  | ok compiled =>
    rcases hread : (options.readInput o).run.run w with ⟨read, after⟩
    have htext : options.textIn o w = read := congrArg Prod.fst hread
    rw [htext]
    cases read with
    | error cause =>
      dsimp only
      rw [run_bind_of_error hread]
      rfl
    | ok text =>
      dsimp only
      rw [run_bind_of_ok hread]
      show _ = ((Record.ofText text).mapError Failure.input >>= fun records =>
        Except.ok (Record.select options.limit compiled.evaluate records)).map _
      cases Record.ofText text <;> rfl

/-- What a filter comes to, by the settings, the text with the records and the layout that it
finds in a world. -/
theorem run_filter_eq (ho : o.IsSteady) (hcommand : i.command = .filter options) :
    ((i.run o).run.run w).1 = settingsIn o w >>= fun settings =>
      (options.selection settings (options.textIn o w)).map
        (options.report (layoutIn o i.common settings w) (settings.pretty.getD false)) := by
  have huses : i.command.usesSettings = true := by
    rw [hcommand]
    rfl
  have hstart : i.settingsIn o w = settingsIn o w := Invocation.settingsIn_of_usesSettings huses
  cases hsettings : settingsIn o w with
  | error cause =>
    rw [run_of_settingsIn_error ho (hstart.trans hsettings)]
    rfl
  | ok settings =>
    rw [run_of_settingsIn ho (hstart.trans hsettings), hcommand]
    exact fst_run_filterOptions _ settings

theorem filterOutcome_eq (ho : o.IsSteady) :
    filterOutcome o w common options = settingsIn o w >>= fun settings =>
      (options.selection settings (options.textIn o w)).map
        (options.report (layoutIn o common settings w) (settings.pretty.getD false)) :=
  run_filter_eq ho rfl

/-- A filter that succeeds has found settings and selected records. -/
theorem exists_selection_of_run (ho : o.IsSteady) (hcommand : i.command = .filter options)
    {output : String} (hrun : ((i.run o).run.run w).1 = .ok output) :
    ∃ settings matched, settingsIn o w = .ok settings
      ∧ options.selection settings (options.textIn o w) = .ok matched
      ∧ output = options.report (layoutIn o i.common settings w) (settings.pretty.getD false)
          matched := by
  rw [run_filter_eq ho hcommand] at hrun
  obtain ⟨settings, hsettings, hrun⟩ := exists_of_bind_eq_ok hrun
  obtain ⟨matched, hmatched, hreport⟩ := exists_of_map_eq_ok hrun
  exact ⟨settings, matched, hsettings, hmatched, hreport.symm⟩

end Running

end RecordFilter
