import RecordFilter.Proofs.Record.Influence
import RecordFilter.Proofs.Record.Input
import RecordFilter.Proofs.Settings.Runs

/-!
# Filtering what was filtered

What a filter writes is a text of records again: one line for each record that it holds of. A
filter that reads its own output finds these records, holds of each of them, and writes the same
output (`filter_output`). It matters that a filter holds of nothing but objects: an array on the
first line would be taken for the whole input.
-/

namespace RecordFilter

open Disk (outside)

/-! ## Running a filter on a disk -/

section Running

variable {s : Disk.Surroundings} {disk after : Disk} {settings : Settings}
  {options : FilterOptions} {layout : OutputOptions}

/-- A filter starts with the settings that are read. -/
theorem exists_run_filter {i : Invocation} (hcommand : i.command = .filter options)
    (hsettings : settingsRead s disk = .ok settings) :
    ∃ layout : OutputOptions, layout.json = i.common.json ∧ layout.quiet = i.common.quiet ∧
      (i.run (outside s)).run.run disk
        = (options.run (outside s) layout settings).run.run disk := by
  have huses : i.command.usesSettings = true := by
    rw [hcommand]
    rfl
  have hstart : i.settingsIn (outside s) disk = .ok settings :=
    (Invocation.settingsIn_of_usesSettings huses).trans hsettings
  refine ⟨layoutIn (outside s) i.common settings disk, rfl, rfl, ?_⟩
  rw [run_of_settingsIn isSteady_outside hstart, hcommand]
  rfl

theorem readInput_of_fileText {path text : String} (h : disk.fileText path = .ok text) :
    ({ options with input := some path }.readInput (outside s)).run.run disk
      = (.ok text, disk) := by
  have hread : ((outside s).fileText path).run disk = (.ok text, disk) := Prod.ext h rfl
  exact orFail_run hread

theorem readInput_of_input {text : String} (h : s.input = .ok text) :
    ({ options with input := none }.readInput (outside s)).run.run disk = (.ok text, disk) := by
  have hread : (outside s).inputText.run disk = (.ok text, disk) := Prod.ext h rfl
  exact orFail_run hread

/-- What a filter writes of the records that it reads. -/
theorem filter_run_of_read {compiled : Compiled Json} {text : String} {records : List Json}
    (hcompile : options.compile settings = .ok compiled)
    (hread : (options.readInput (outside s)).run.run disk = (.ok text, disk))
    (hrecords : Record.ofText text = .ok records) :
    (options.run (outside s) layout settings).run.run disk
      = (.ok (options.report layout (settings.pretty.getD false)
          (Record.select options.limit compiled.evaluate records)), disk) := by
  rw [FilterOptions.run, hcompile]
  dsimp only
  rw [run_bind_of_ok hread, hrecords]
  rfl

/-- A filter that succeeds has an expression that is understood and reads records. -/
theorem exists_of_filter_run {output : String}
    (hrun : (options.run (outside s) layout settings).run.run disk = (.ok output, after)) :
    ∃ compiled text records, options.compile settings = .ok compiled
      ∧ (options.readInput (outside s)).run.run disk = (.ok text, disk)
      ∧ Record.ofText text = .ok records := by
  unfold FilterOptions.run at hrun
  cases hcompile : options.compile settings with
  | error cause =>
    rw [hcompile] at hrun
    cases hrun
  | ok compiled =>
    rw [hcompile] at hrun
    obtain ⟨text, next, hread, hrest⟩ := exists_of_run_bind_eq_ok hrun
    have hnext : next = disk := by
      have hleaves := leaves_readInput (s := s) options disk
      rwa [hread] at hleaves
    rw [hnext] at hread
    cases hrecords : Record.ofText text with
    | error cause =>
      rw [hrecords] at hrest
      cases hrest
    | ok records => exact ⟨compiled, text, records, rfl, hread, hrecords⟩

theorem report_eq_recordLines (hcount : options.count = false) (hjson : layout.json = false)
    (hquiet : layout.quiet = false) (records : List Json) :
    options.report layout false records = Report.recordLines false records := by
  rw [FilterOptions.report, hcount, if_neg Bool.false_ne_true, OutputOptions.render, hjson,
    hquiet, if_neg Bool.false_ne_true, if_neg Bool.false_ne_true]

/-- A command that filters and lays nothing out writes the records that it selects line by line. -/
theorem run_eq_recordLines {i : Invocation} (hcommand : i.command = .filter options)
    (hjson : i.common.json = false) (hquiet : i.common.quiet = false)
    (hcount : options.count = false) (hsettings : settingsRead s disk = .ok settings)
    (hpretty : settings.pretty.getD false = false) {compiled : Compiled Json} {text : String}
    {records : List Json} (hcompile : options.compile settings = .ok compiled)
    (hread : (options.readInput (outside s)).run.run disk = (.ok text, disk))
    (hrecords : Record.ofText text = .ok records) :
    (i.run (outside s)).run.run disk
      = (.ok (Report.recordLines false
          (Record.select options.limit compiled.evaluate records)), disk) := by
  obtain ⟨layout, hlayoutJson, hlayoutQuiet, hfilter⟩ := exists_run_filter hcommand hsettings
  rw [hfilter, filter_run_of_read hcompile hread hrecords, hpretty,
    report_eq_recordLines hcount (hlayoutJson.trans hjson) (hlayoutQuiet.trans hquiet)]

end Running

/-! ## Filtering again -/

section Again

variable {s : Disk.Surroundings} {disk after : Disk} {settings : Settings}
  {options : FilterOptions}

/-- What a filter holds of is fit for being written and read back. -/
theorem nested_of_select {text : String} {records : List Json}
    (hrecords : Record.ofText text = .ok records) (limit : Option Nat) (test : Json → Bool) :
    ∀ record ∈ Record.select limit test records,
      Json.Nested Json.maxDepth record := fun record hrecord =>
  Record.nested_of_ofText hrecords record (Record.forall_of_select record hrecord).1

theorem ne_array_of_select {compiled : Compiled Json}
    (hcompile : options.compile settings = .ok compiled) (records : List Json) :
    ∀ record ∈ Record.select options.limit compiled.evaluate records,
      ∀ items, record ≠ .array items := by
  rintro record hrecord items rfl
  obtain ⟨e, -, hcompiled⟩ := exists_of_bind_eq_ok hcompile
  obtain ⟨members, hmembers⟩ :=
    exists_members_of_evaluate hcompiled (Record.forall_of_select _ hrecord).2
  cases hmembers

/-- The same filter with its records taken from elsewhere. -/
def Invocation.readingFrom (i : Invocation) (options : FilterOptions) (input : Option String) :
    Invocation :=
  { i with command := .filter { options with input := input } }

/-- **A filter reads its own output, and finds in it what it has found already.** Each line that
it writes is a record that it holds of, and the whole is read as these records. Wherever the same
filter with the same settings reads this text, from a file or from the standard input, it writes
the text again. -/
theorem filter_output {i : Invocation} {output : String} (hcommand : i.command = .filter options)
    (hjson : i.common.json = false) (hquiet : i.common.quiet = false)
    (hcount : options.count = false) (hsettings : settingsRead s disk = .ok settings)
    (hpretty : settings.pretty.getD false = false)
    (hrun : (i.run (outside s)).run.run disk = (.ok output, after)) :
    ∃ compiled text records,
      options.compile settings = .ok compiled
        ∧ (options.readInput (outside s)).run.run disk = (.ok text, disk)
        ∧ Record.ofText text = .ok records
        ∧ (let matched := Record.select options.limit compiled.evaluate records
          Text.lines output.toList = matched.map (fun record => record.write.toList)
            ∧ Record.ofText output = .ok matched)
        ∧ (∀ (other : Disk.Surroundings) (disk : Disk) (path : String),
          settingsRead other disk = .ok settings → disk.fileText path = .ok output →
          ((i.readingFrom options (some path)).run (outside other)).run.run disk
            = (.ok output, disk))
        ∧ (∀ (other : Disk.Surroundings) (disk : Disk),
          settingsRead other disk = .ok settings → other.input = .ok output →
          ((i.readingFrom options none).run (outside other)).run.run disk = (.ok output, disk))
        ∧ ((i.readingFrom options none).run (outside { s with input := .ok output })).run.run disk
          = (.ok output, disk) := by
  obtain ⟨layout, -, -, hfilter⟩ := exists_run_filter hcommand hsettings
  obtain ⟨compiled, text, records, hcompile, hread, hrecords⟩ :=
    exists_of_filter_run (hfilter.symm.trans hrun)
  set matched := Record.select options.limit compiled.evaluate records with hmatched
  have hnested := nested_of_select hrecords options.limit compiled.evaluate
  have hfirst := ne_array_of_select hcompile records
  have houtput : output = Report.recordLines false matched := by
    rw [run_eq_recordLines hcommand hjson hquiet hcount hsettings hpretty hcompile hread
      hrecords] at hrun
    exact (Except.ok.inj (Prod.mk.inj hrun).1).symm
  have hlines : Text.lines output.toList = matched.map fun record => record.write.toList := by
    rw [houtput, Record.lines_recordLines hnested]
  have hoftext : Record.ofText output = .ok matched := by
    rw [houtput]
    exact Record.ofText_recordLines hnested fun record hrecord =>
      hfirst record (List.mem_of_mem_head? hrecord)
  -- the second run has the same test and the same limit, and selects from what was selected
  have hselect : Record.select options.limit compiled.evaluate matched = matched :=
    Record.select_select _ _ _
  have hagain : ∀ (other : Disk.Surroundings) (disk : Disk) (input : Option String),
      settingsRead other disk = .ok settings →
      ({ options with input := input }.readInput (outside other)).run.run disk
        = (.ok output, disk) →
      ((i.readingFrom options input).run (outside other)).run.run disk = (.ok output, disk) := by
    intro other disk input hother hinput
    have hrun := run_eq_recordLines (i := i.readingFrom options input) rfl hjson hquiet hcount
      hother hpretty hcompile hinput hoftext
    rwa [hselect, ← houtput] at hrun
  have hfile : ∀ (other : Disk.Surroundings) (disk : Disk) (path : String),
      settingsRead other disk = .ok settings → disk.fileText path = .ok output →
      ((i.readingFrom options (some path)).run (outside other)).run.run disk
        = (.ok output, disk) := fun other disk path hother hpath =>
    hagain other disk (some path) hother (readInput_of_fileText hpath)
  have hstandard : ∀ (other : Disk.Surroundings) (disk : Disk),
      settingsRead other disk = .ok settings → other.input = .ok output →
      ((i.readingFrom options none).run (outside other)).run.run disk = (.ok output, disk) :=
    fun other disk hother hinput => hagain other disk none hother (readInput_of_input hinput)
  exact ⟨compiled, text, records, hcompile, hread, hrecords, ⟨hlines, hoftext⟩, hfile, hstandard,
    hstandard { s with input := .ok output } disk hsettings rfl⟩

/-- Two of four items of an array, the first with a number that is written shorter than it was
read. -/
theorem filter_output_array :
    let input := "[\x7b\"b\": \"x\", \"a\": 2.50\x7d, 7, \x7b\"a\": 0\x7d, \x7b\"a\": 3\x7d]"
    let output := "\x7b\"a\":2.5,\"b\":\"x\"\x7d\n\x7b\"a\":3\x7d\n"
    let s : Disk.Surroundings := ⟨[("HOME", "/home")], none, .ok input⟩
    let options : FilterOptions := ⟨"a > 1 or b = 'y'", none, [], true, some 5, false⟩
    let i : Invocation := ⟨⟨false, false, false, false⟩, .filter options⟩
    (i.run (outside s)).run.run ⟨[], []⟩ = (.ok output, ⟨[], []⟩)
      ∧ (∃ matched, Record.ofText output = .ok matched
        ∧ Text.lines output.toList = matched.map fun record => record.write.toList)
      ∧ ((i.readingFrom options none).run (outside { s with input := .ok output })).run.run ⟨[], []⟩
        = (.ok output, ⟨[], []⟩) := by
  intro input output s options i
  have hresult : ((i.run (outside s)).run.run ⟨[], []⟩).1.toOption = some output := by
    decide +kernel
  have hrun : (i.run (outside s)).run.run ⟨[], []⟩ = (.ok output, ⟨[], []⟩) := by
    refine Prod.ext ?_ (by decide +kernel)
    cases h : ((i.run (outside s)).run.run ⟨[], []⟩).1 with
    | error cause =>
      rw [h] at hresult
      cases hresult
    | ok text =>
      rw [h] at hresult
      exact congrArg Except.ok (Option.some.inj hresult)
  obtain ⟨compiled, text, records, -, -, -, ⟨hlines, hoftext⟩, -, -, hstandard⟩ :=
    @filter_output s ⟨[], []⟩ ⟨[], []⟩ .default options i output rfl rfl rfl rfl rfl rfl hrun
  exact ⟨hrun, ⟨_, hoftext, hlines⟩, hstandard⟩

end Again

end RecordFilter
