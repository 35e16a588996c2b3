import RecordFilter.Proofs.CommandLine.Filter

/-!
# Failures have no effect

The program is used time and again in a world in which something is kept, such as the texts of its
files. A use that fails writes nothing to the standard output and leaves alone what is kept. Over a
row of uses, what is kept changes only where a setting is changed with success
(`exists_changes_of_worldAfter`).

A filter goes through five stages, and each of them may find a fault (`FilterOptions.faults`). It
fails with the first one (`cause?_run_filter`). The first three stages do not look at the input, so
what they object to is reported whatever the input is (`run_filter_of_refused`).
-/

namespace RecordFilter

variable {ω ω' γ : Type}

/-! ## Uses of the program -/

/-- One use of the program: what lies outside, and the command. -/
structure Use (ω : Type) where
  outside : Outside (StateM ω)
  invocation : Invocation

namespace Use

/-- What a use comes to, and the world behind it. -/
def run (use : Use ω) (w : ω) : Except Failure String × ω :=
  (use.invocation.run use.outside).run.run w

/-- What is seen of a use. -/
def ending (use : Use ω) (w : ω) : Ending := use.invocation.ending (use.run w).1

/-- Whether a use changes a setting with success. -/
def Changes (use : Use ω) (w : ω) : Prop :=
  (∃ key value, use.invocation.command = .changeSetting key value)
    ∧ ∃ output, (use.run w).1 = .ok output

end Use

/-- The world behind a row of uses. -/
def worldAfter (uses : List (Use ω)) (w : ω) : ω := uses.foldl (fun w use => (use.run w).2) w

section Uses

variable {kept : ω → γ} {use : Use ω} {uses : List (Use ω)} {w : ω}

/-- What is kept is changed by nothing but a successful change of a setting. -/
theorem changes_of_kept_ne (h : use.outside.Guards kept) (hne : kept (use.run w).2 ≠ kept w) :
    use.Changes w := by
  constructor
  · by_contra hcommand
    refine hne (keeps_invocation h.toIsSteady h.inputText (fun key value heq => ?_) w)
    exact hcommand ⟨key, value, heq⟩
  · cases hrun : (use.run w).1 with
    | ok output => exact ⟨output, rfl⟩
    | error cause => exact absurd (keepsOnFailure_invocation h use.invocation w cause hrun) hne

/-- If a row of uses changes what is kept, then one of them changes a setting with success. -/
theorem exists_changes_of_worldAfter (h : ∀ use ∈ uses, use.outside.Guards kept)
    (hne : kept (worldAfter uses w) ≠ kept w) :
    ∃ front use back, uses = front ++ use :: back ∧ use.Changes (worldAfter front w) := by
  induction uses generalizing w with
  | nil => exact absurd rfl hne
  | cons use uses ih =>
    by_cases hfirst : kept (use.run w).2 = kept w
    · have hrest : kept (worldAfter uses (use.run w).2) ≠ kept (use.run w).2 := by
        rw [hfirst]
        exact hne
      obtain ⟨front, later, back, rfl, hchanges⟩ :=
        ih (fun use huse => h use (List.mem_cons_of_mem _ huse)) hrest
      exact ⟨use :: front, later, back, rfl, hchanges⟩
    · exact ⟨[], use, uses, rfl, changes_of_kept_ne (h use List.mem_cons_self) hfirst⟩

end Uses

/-! ## The stages of a filter -/

namespace FilterOptions

variable (options : FilterOptions) (o : Outside (StateM ω)) (w : ω)

/-- The text with the records that is read in a world. -/
def textIn : Except Failure String := ((options.readInput o).run.run w).1

/-- The fault of an expression that does not read. -/
def misread? : Option Failure := (cause? (Expr.ofText options.expression)).map .expression

/-- The fault of an expression that has no meaning with the settings. -/
def meaningless? : Option Failure :=
  match settingsIn o w, Expr.ofText options.expression with
  | .ok settings, .ok e => (cause? (e.compileFor (options.rules settings))).map .expression
  | _, _ => none

/-- The fault of a text that holds no records. -/
def recordless? : Option Failure :=
  match options.textIn o w with
  | .ok text => (cause? (Record.ofText text)).map .input
  | .error _ => none

/-- The faults of the stages that do not look at the input: reading the settings, reading the
expression, and giving it a meaning. -/
def earlyFaults : List (Option Failure) :=
  [cause? (settingsIn o w), options.misread?, options.meaningless? o w]

/-- The faults of the stages that do: reading the input, and finding the records in it. -/
def lateFaults : List (Option Failure) := [cause? (options.textIn o w), options.recordless? o w]

/-- What the stages of a filter find wrong, each by itself, in the order in which they are gone
through. -/
def faults : List (Option Failure) := options.earlyFaults o w ++ options.lateFaults o w

end FilterOptions

section Stages

variable {o : Outside (StateM ω)} {w : ω} {options : FilterOptions} {settings : Settings}
  {i : Invocation}

theorem firstFault_faults : firstFault (options.faults o w)
    = (firstFault (options.earlyFaults o w)).or (firstFault (options.lateFaults o w)) :=
  firstFault_append

/-- Once the settings are read, two stages remain in front of the input. -/
theorem firstFault_earlyFaults (h : settingsIn o w = .ok settings) :
    firstFault (options.earlyFaults o w)
      = (cause? (options.compile settings)).map Failure.expression := by
  unfold FilterOptions.earlyFaults FilterOptions.misread? FilterOptions.meaningless?
    FilterOptions.compile
  rw [h]
  cases Expr.ofText options.expression with
  | error cause => rfl
  | ok e =>
    show firstFault [none, none, (cause? (e.compileFor (options.rules settings))).map .expression]
      = (cause? (e.compileFor (options.rules settings))).map Failure.expression
    cases cause? (e.compileFor (options.rules settings)) <;> rfl

theorem firstFault_earlyFaults_of_error {cause : Failure} (h : settingsIn o w = .error cause) :
    firstFault (options.earlyFaults o w) = some cause := by
  rw [FilterOptions.earlyFaults, h]
  rfl

/-- A filter that is understood fails in one of the late stages, if it does. -/
theorem cause?_run_of_compile {layout : OutputOptions} {compiled : Compiled Json}
    (h : options.compile settings = .ok compiled) :
    cause? ((options.run o layout settings).run.run w).1 = firstFault (options.lateFaults o w) := by
  rcases hread : (options.readInput o).run.run w with ⟨read, after⟩
  have htext : options.textIn o w = read := congrArg Prod.fst hread
  rw [FilterOptions.run, h, FilterOptions.lateFaults, FilterOptions.recordless?, htext]
  dsimp only
  cases read with
  | error cause =>
    rw [run_bind_of_error hread]
    rfl
  | ok text =>
    rw [run_bind_of_ok hread]
    dsimp only
    cases Record.ofText text <;> rfl

/-- A filter fails with the first fault that its stages find, and succeeds if they find none. -/
theorem cause?_run_filter (ho : o.IsSteady) (hcommand : i.command = .filter options) :
    cause? ((i.run o).run.run w).1 = firstFault (options.faults o w) := by
  have huses : i.command.usesSettings = true := by
    rw [hcommand]
    rfl
  have hstart : i.settingsIn o w = settingsIn o w := Invocation.settingsIn_of_usesSettings huses
  rw [firstFault_faults]
  cases hsettings : settingsIn o w with
  | error cause =>
    rw [run_of_settingsIn_error ho (hstart.trans hsettings),
      firstFault_earlyFaults_of_error hsettings]
    rfl
  | ok settings =>
    rw [run_of_settingsIn ho (hstart.trans hsettings), hcommand, firstFault_earlyFaults hsettings]
    show cause? ((options.run o (layoutIn o i.common settings w) settings).run.run w).1 = _
    cases hcompile : options.compile settings with
    | error cause =>
      rw [FilterOptions.run, hcompile]
      rfl
    | ok compiled =>
      rw [cause?_run_of_compile hcompile]
      rfl

/-- An expression that is not understood is objected to in the same way whatever the input is,
wherever it comes from. -/
theorem run_filter_of_refused {o' : Outside (StateM ω')} {w' : ω'} (ho : o.IsSteady)
    (ho' : o'.IsSteady) (hcommand : i.command = .filter options)
    (hsame : settingsIn o' w' = settingsIn o w)
    (hrefused : ∀ settings, settingsIn o w = .ok settings →
      ∃ cause, options.compile settings = .error cause) (input : Option String) :
    (((i.readingFrom options input).run o').run.run w').1 = ((i.run o).run.run w).1 := by
  have hfault : ∃ failure, firstFault (options.earlyFaults o w) = some failure := by
    cases hsettings : settingsIn o w with
    | error cause => exact ⟨cause, firstFault_earlyFaults_of_error hsettings⟩
    | ok settings =>
      obtain ⟨cause, hcause⟩ := hrefused settings hsettings
      refine ⟨.expression cause, ?_⟩
      rw [firstFault_earlyFaults hsettings, hcause]
      rfl
  obtain ⟨failure, hfailure⟩ := hfault
  have hother : { options with input := input }.earlyFaults o' w' = options.earlyFaults o w := by
    unfold FilterOptions.earlyFaults FilterOptions.meaningless?
    rw [hsame]
    rfl
  have hrun := cause?_run_filter (w := w) ho hcommand
  have hrun' := cause?_run_filter (i := i.readingFrom options input) (w := w') ho' rfl
  rw [firstFault_faults, hfailure] at hrun
  rw [firstFault_faults, hother, hfailure] at hrun'
  rw [cause?_eq_some_iff.mp hrun, cause?_eq_some_iff.mp hrun']

end Stages

/-! ## Failures over a row of uses -/

open Disk (outside)

section Disks

variable {change : Disk → Except FileError Disk} {disk : Disk}

theorem attempt_run_snd_of_error {cause : FileError}
    (h : ((Disk.attempt change).run disk).1 = .error cause) :
    ((Disk.attempt change).run disk).2 = disk := by
  cases hchange : change disk with
  | error reason => rw [attempt_run_of_error hchange]
  | ok changed =>
    rw [attempt_run_of_ok hchange] at h
    cases h

/-- On a disk, texts are touched by nothing but a write. -/
theorem guards_outside {s : Disk.Surroundings} : (outside s).Guards Disk.textAt? where
  toIsSteady := isSteady_outside
  inputText _ := rfl
  makeDirectories _ _ := Disk.textAt?_makeAlong _ _ _
  storeText _ _ _ _ hcause := congrArg Disk.textAt? (attempt_run_snd_of_error hcause)

end Disks

/-- **What fails has no effect, and a filter fails with the first fault there is.** Over a row of
uses, what is kept changes only in successful changes of a setting, and a use that fails writes
nothing and changes nothing. A filter fails with the first fault that its stages find in the order
in which they are gone through, and succeeds if there is none. As long as the expression is not
understood, that outcome does not depend on the input, be it there or not. -/
theorem failures_without_effect {kept : ω → γ} {uses : List (Use ω)}
    (h : ∀ use ∈ uses, use.outside.Guards kept) (w : ω) :
    (kept (worldAfter uses w) ≠ kept w →
        ∃ front use back, uses = front ++ use :: back ∧ use.Changes (worldAfter front w))
      ∧ ∀ use ∈ uses, ∀ w,
        (kept (use.run w).2 ≠ kept w → use.Changes w)
          ∧ (∀ cause, (use.run w).1 = .error cause →
            (use.ending w).output = "" ∧ kept (use.run w).2 = kept w)
          ∧ ∀ options, use.invocation.command = .filter options →
            cause? (use.run w).1 = firstFault (options.faults use.outside w)
              ∧ ((∀ settings, settingsIn use.outside w = .ok settings →
                  ∃ cause, options.compile settings = .error cause) →
                ∀ (other : Outside (StateM ω)) (w' : ω) (input : Option String), other.IsSteady →
                  settingsIn other w' = settingsIn use.outside w →
                  (Use.run ⟨other, use.invocation.readingFrom options input⟩ w').1
                    = (use.run w).1) := by
  refine ⟨exists_changes_of_worldAfter h, fun use huse w => ⟨?_, fun cause hcause => ⟨?_, ?_⟩, ?_⟩⟩
  · exact changes_of_kept_ne (h use huse)
  · rw [Use.ending, hcause]
    rfl
  · exact keepsOnFailure_invocation (h use huse) use.invocation w cause hcause
  · intro options hcommand
    have hsteady := (h use huse).toIsSteady
    refine ⟨cause?_run_filter hsteady hcommand, fun hrefused other w' input hother hsame => ?_⟩
    exact run_filter_of_refused hsteady hother hcommand hsame hrefused input

/-- A change that is refused, and a filter with two faults: its expression does not end, and there
is no such file. -/
theorem failures_without_effect_twoUses :
    let s : Disk.Surroundings := ⟨[("LEE_CONFIG", "lee.toml")], none, .ok "7"⟩
    let disk : Disk := ⟨[], [(["lee.toml"], .file "[output]\ncolor = true\n")]⟩
    let use := fun command => (⟨outside s, ⟨⟨false, false, false, false⟩, command⟩⟩ : Use Disk)
    let options : FilterOptions := ⟨"a = ", some "none.json", [], false, none, false⟩
    let refused := use (.changeSetting "output.color" "maybe")
    let filter := use (.filter options)
    let unfinished := Failure.expression (.unexpectedEndOfInput ⟨1, 5⟩)
    options.faults (outside s) disk
        = [none, some unfinished, none, some (.inputFile "none.json" .notFound), none]
      ∧ cause? (filter.run disk).1 = some unfinished
      ∧ ((use (.filter { options with input := none })).run disk).1 = (filter.run disk).1
      ∧ (worldAfter [refused, filter] disk).textAt? = disk.textAt? := by
  intro s disk use options refused filter unfinished
  have hguards : ∀ use ∈ [refused, filter], use.outside.Guards Disk.textAt? := by
    simp only [List.forall_mem_cons]
    exact ⟨guards_outside, guards_outside, List.forall_mem_nil _⟩
  obtain ⟨hrow, huses⟩ := failures_without_effect hguards disk
  have hfaults : options.faults (outside s) disk
      = [none, some unfinished, none, some (.inputFile "none.json" .notFound), none] := by
    decide +kernel
  have hmisread : cause? (Expr.ofText "a = ") = some (.unexpectedEndOfInput ⟨1, 5⟩) := by
    decide +kernel
  have hfilter := huses filter (List.mem_cons_of_mem _ List.mem_cons_self) disk
  obtain ⟨hcause, hinputs⟩ := hfilter.2.2 options rfl
  refine ⟨hfaults, ?_, ?_, ?_⟩
  · rw [hcause]
    show firstFault (options.faults (outside s) disk) = _
    rw [hfaults]
    rfl
  · refine hinputs (fun settings _ => ⟨.unexpectedEndOfInput ⟨1, 5⟩, ?_⟩) (outside s) disk none
      isSteady_outside rfl
    show FilterOptions.compile options settings = _
    rw [FilterOptions.compile, cause?_eq_some_iff.mp hmisread]
    rfl
  · by_contra hne
    obtain ⟨front, use, back, hsplit, ⟨key, value, hcommand⟩, output, houtput⟩ := hrow hne
    rcases front with _ | ⟨first, front⟩
    · have hfails : cause? (refused.run disk).1 ≠ none := by decide +kernel
      obtain ⟨rfl, -⟩ := List.cons.inj hsplit
      exact hfails (cause?_eq_none_iff.mpr ⟨output, houtput⟩)
    · have hlast : use ∈ [filter] := by
        rw [(List.cons.inj hsplit).2]
        exact List.mem_append_right front List.mem_cons_self
      rw [List.mem_singleton.mp hlast] at hcommand
      cases hcommand

end RecordFilter
