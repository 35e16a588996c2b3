import RecordFilter.Proofs.Settings.Commands

/-!
# Settings over runs of the program

The program is run time and again on one disk, with any commands and in changing surroundings that
agree on where the settings are kept. The settings that are read in the end are those of the
beginning with every change that was made, in its order, as long as a document can be where they are
kept (`settings_after_runs`). It cannot at a path like `new/../new`, whose directory is made where
the document would be; there the first attempt to keep settings ends all reading of them
(`not_settings_after_runs_upwards`).
-/

namespace RecordFilter

open Disk (outside)
open Settings (Change)

/-- A command with the surroundings that it runs in. -/
structure Step where
  surroundings : Disk.Surroundings
  invocation : Invocation

namespace Step

/-- What a step gives, and the disk behind it. -/
def run (step : Step) (disk : Disk) : Except Failure String × Disk :=
  (step.invocation.run (outside step.surroundings)).run.run disk

/-- The change of a setting that a step makes. -/
def change? (step : Step) (disk : Disk) : Option Change :=
  step.invocation.command.changeMade (step.run disk).1

end Step

/-- The settings that a user reads. -/
def settingsRead (user : Disk.Surroundings) (disk : Disk) : Except Failure Settings :=
  ((Settings.load (outside user)).run.run disk).1

/-- The disk behind a row of steps. -/
def diskAfter : List Step → Disk → Disk
  | [], disk => disk
  | step :: steps, disk => diskAfter steps (step.run disk).2

/-- The changes that a row of steps makes, in their order. -/
def changesMade : List Step → Disk → List Change
  | [], _ => []
  | step :: steps, disk => (step.change? disk).toList ++ changesMade steps (step.run disk).2

section Runs

variable {path : String} {step : Step} {steps : List Step} {disk : Disk} {settings : Settings}
  {cause : Failure}

theorem settingsRead_eq {user : Disk.Surroundings} (h : user.KeepsSettingsAt path) (disk : Disk) :
    settingsRead user disk = disk.settingsAt path :=
  congrArg Prod.fst (load_run h disk)

theorem turn_of_step (h : step.surroundings.KeepsSettingsAt path) (disk : Disk) :
    disk.Turn path (step.change? disk) (step.run disk).2 :=
  turn_of_invocation h (Prod.ext rfl rfl)

/-- A step that has set something has made the change that it spells. -/
theorem change?_of_success {key value text : String}
    (hcommand : step.invocation.command = .changeSetting key value)
    (h : (step.run disk).1 = .ok text) :
    ∃ c, step.change? disk = some c ∧ Change.ofText key value = .ok c := by
  have hrun : (step.invocation.run (outside step.surroundings)).run.run disk
      = (.ok text, (step.run disk).2) := Prod.ext h rfl
  obtain ⟨output, hchange⟩ := exists_run_changeSetting hcommand disk
  rw [hchange] at hrun
  obtain ⟨c, hc⟩ := exists_ofText_of_runChange hrun
  refine ⟨c, ?_, hc⟩
  rw [Step.change?, hcommand, h, Command.changeMade, hc]
  rfl

theorem change?_of_failure (h : (step.run disk).1 = .error cause) : step.change? disk = none := by
  rw [Step.change?, h]
  unfold Command.changeMade
  split
  · next heq => cases heq
  · rfl

/-- Only a command for it changes a setting. -/
theorem change?_of_other (h : ∀ key value, step.invocation.command ≠ .changeSetting key value) :
    step.change? disk = none := by
  unfold Step.change? Command.changeMade
  split
  · next key value text heq _ => exact absurd heq (h key value)
  · rfl

/-- Settings that cannot be read stay as they are, whatever is tried. -/
theorem diskAfter_of_error (hsteps : ∀ step ∈ steps, step.surroundings.KeepsSettingsAt path)
    (h : disk.settingsAt path = .error cause) :
    changesMade steps disk = [] ∧ diskAfter steps disk = disk := by
  induction steps with
  | nil => exact ⟨rfl, rfl⟩
  | cons step steps ih =>
    have hturn := turn_of_step (hsteps step List.mem_cons_self) disk
    obtain ⟨hnone, hafter⟩ := hturn.of_error h
    rw [changesMade, diskAfter, hnone, hafter]
    exact ih fun step hstep => hsteps step (List.mem_cons_of_mem _ hstep)

/-- Behind a row of steps the settings are those in front of it with the changes made, or they
cannot be read. This takes that there has been no room for their document, so no change was made. -/
theorem settingsAt_diskAfter (hsteps : ∀ step ∈ steps, step.surroundings.KeepsSettingsAt path)
    (h : disk.settingsAt path = .ok settings) :
    (diskAfter steps disk).settingsAt path
        = .ok ((changesMade steps disk).foldl Settings.apply settings) ∨
      ¬ disk.HasRoomFor path ∧ changesMade steps disk = []
        ∧ (diskAfter steps disk).settingsAt path
          = .error (.settings (.unreadable .isDirectory)) := by
  induction steps generalizing disk settings with
  | nil => exact .inl h
  | cons step steps ih =>
    have hrest : ∀ step ∈ steps, step.surroundings.KeepsSettingsAt path := fun step hstep =>
      hsteps step (List.mem_cons_of_mem _ hstep)
    have hturn := turn_of_step (hsteps step List.mem_cons_self) disk
    rw [diskAfter, changesMade, List.foldl_append]
    rcases hturn.settingsAt h with hnext | ⟨hroom, hnone, hnext⟩
    · rcases ih hrest hnext with hlast | ⟨hroom, hchanges, hlast⟩
      · exact .inl hlast
      · -- a change would have found room, which would have been kept
        have hnone : step.change? disk = none := by
          cases hchange : step.change? disk with
          | none => rfl
          | some change =>
            rw [hchange] at hturn
            exact absurd hturn.hasRoomFor_of_some hroom
        rw [hnone, hchanges]
        exact .inr ⟨fun hbefore => hroom (hturn.hasRoomFor hbefore), rfl, hlast⟩
    · obtain ⟨hchanges, hafter⟩ := diskAfter_of_error hrest hnext
      rw [hnone, hchanges, hafter]
      exact .inr ⟨hroom, rfl, hnext⟩

/-- **Settings behind runs.** If there is room for their document, the settings that are read behind
any row of steps are those that were read in front of it with the changes of the steps that
succeeded, in their order; there is room at every path that does not lead upwards. If there is none,
this holds as well, or no step has succeeded and a directory is where the document would be. A
change sets the setting that its key is the text of, whatever the name of a field contains, and
leaves the others as they are, and changes of different settings commute. -/
theorem settings_after_runs {user : Disk.Surroundings} {initial : Settings}
    (huser : user.KeepsSettingsAt path)
    (hsteps : ∀ step ∈ steps, step.surroundings.KeepsSettingsAt path)
    (hload : settingsRead user disk = .ok initial) :
    (disk.HasRoomFor path → settingsRead user (diskAfter steps disk)
        = .ok ((changesMade steps disk).foldl Settings.apply initial))
      ∧ (disk.IsTree → ".." ∉ Disk.names path → disk.HasRoomFor path)
      ∧ (settingsRead user (diskAfter steps disk)
          = .ok ((changesMade steps disk).foldl Settings.apply initial)
        ∨ changesMade steps disk = [] ∧ settingsRead user (diskAfter steps disk)
          = .error (.settings (.unreadable .isDirectory)))
      ∧ (∀ (step : Step) (disk : Disk) (key value : String),
        step.invocation.command = .changeSetting key value →
        (∀ text, (step.run disk).1 = .ok text →
            ∃ c, step.change? disk = some c ∧ Change.ofText key value = .ok c)
          ∧ ∀ cause, (step.run disk).1 = .error cause → step.change? disk = none)
      ∧ (∀ (step : Step) (disk : Disk),
        (∀ key value, step.invocation.command ≠ .changeSetting key value) →
          step.change? disk = none ∧ (step.run disk).2 = disk)
      ∧ (∀ (key value : String) (c : Change), Change.ofText key value = .ok c →
        key = c.key.text ∧
          ∀ (s : Settings) k, (s.apply c).get? k = if c.key = k then some c.value else s.get? k)
      ∧ (∀ (name value : String) (type : FieldType), name ≠ "" →
        FieldType.ofText? value = some type →
        Change.ofText ("fields." ++ name) value = .ok (.field name type))
      ∧ ∀ (c d : Change), c.key ≠ d.key →
        ∀ s : Settings, (s.apply c).apply d = (s.apply d).apply c := by
  simp only [settingsRead_eq huser] at hload ⊢
  have hafter := settingsAt_diskAfter hsteps hload
  refine ⟨fun hroom => ?_, fun htree hup => ?_, ?_, fun step disk key value hcommand => ?_,
    fun step disk hcommand => ?_, ?_, ?_, ?_⟩
  · rcases hafter with hok | ⟨hnone, -⟩
    · exact hok
    · exact absurd hroom hnone
  · exact Disk.hasRoomFor_of_settingsAt htree hup hload
  · rcases hafter with hok | ⟨-, herror⟩
    · exact .inl hok
    · exact .inr herror
  · exact ⟨fun text h => change?_of_success hcommand h, fun cause h => change?_of_failure h⟩
  · exact ⟨change?_of_other hcommand, leaves_invocation hcommand disk⟩
  · intro key value c h
    exact ⟨(Change.ofText_eq_ok_iff.mp h).1, fun s k => Settings.get?_apply s c k⟩
  · intro name value type hname htype
    exact Change.ofText_eq_ok_iff.mpr ⟨rfl, hname, htype⟩
  · intro c d h s
    exact Settings.apply_comm h s

/-- A name with a dot and a quote, on a disk with nothing on it. -/
theorem settings_after_runs_quoted :
    let user : Disk.Surroundings := ⟨[("LEE_CONFIG", "conf/lee.toml")], none, .ok ""⟩
    let step := fun command => (⟨user, ⟨⟨false, false, false, false⟩, command⟩⟩ : Step)
    let steps := [step (.changeSetting "fields.a.b\"c" "string"),
      step (.changeSetting "output.color" "maybe"), step .showSettings,
      step (.changeSetting "output.color" "off")]
    user.KeepsSettingsAt "conf/lee.toml"
      ∧ settingsRead user ⟨[], []⟩ = .ok .default
      ∧ settingsRead user (diskAfter steps ⟨[], []⟩)
        = .ok ⟨some false, none, none, [("a.b\"c", .string)]⟩ := by
  intro user step steps
  have huser : user.KeepsSettingsAt "conf/lee.toml" := fun _ => rfl
  have hsteps : ∀ step ∈ steps, step.surroundings.KeepsSettingsAt "conf/lee.toml" := by
    simp only [steps, List.forall_mem_cons]
    exact ⟨huser, huser, huser, huser, List.forall_mem_nil _⟩
  have hload : settingsRead user ⟨[], []⟩ = .ok .default := rfl
  have htree : (⟨[], []⟩ : Disk).IsTree := fun place name entry h => by
    simp [Disk.entry?] at h
  have hchanges : changesMade steps ⟨[], []⟩ = [.field "a.b\"c" .string, .color false] := by
    decide +kernel
  obtain ⟨hread, hroom, -⟩ := settings_after_runs huser hsteps hload
  have hafter := hread (hroom htree (by decide))
  rw [hchanges] at hafter
  exact ⟨huser, hload, hafter⟩

/-- Without room for a document it fails: making the directory of `new/../new` puts one at the path
itself, so that the settings cannot be written, nor read any more. -/
theorem not_settings_after_runs_upwards :
    ¬ ∀ (user : Disk.Surroundings) (path : String) (steps : List Step) (disk : Disk)
      (initial : Settings), user.KeepsSettingsAt path →
      (∀ step ∈ steps, step.surroundings.KeepsSettingsAt path) →
      settingsRead user disk = .ok initial →
      settingsRead user (diskAfter steps disk)
        = .ok ((changesMade steps disk).foldl Settings.apply initial) := by
  intro h
  let user : Disk.Surroundings := ⟨[("LEE_CONFIG", "new/../new")], none, .ok ""⟩
  let step : Step := ⟨user, ⟨⟨false, false, false, false⟩, .changeSetting "output.color" "true"⟩⟩
  have huser : user.KeepsSettingsAt "new/../new" := fun _ => rfl
  have hread := h user _ [step] ⟨[], []⟩ .default huser
    (List.forall_mem_singleton.mpr huser) rfl
  have hrefused : settingsRead user (diskAfter [step] ⟨[], []⟩)
      = .error (.settings (.unreadable .isDirectory)) := by
    decide +kernel
  rw [hrefused] at hread
  cases hread

end Runs

end RecordFilter
