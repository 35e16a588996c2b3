import RecordFilter.Proofs.CommandLine.Effects
import RecordFilter.Proofs.Settings.Change
import RecordFilter.Proofs.Settings.Document
import RecordFilter.Proofs.Settings.Location

/-!
# What a command does to the settings

One command changes settings and all others leave the disk as it is. `Disk.Turn` lists how a
command can leave the disk: untouched, with part of the way to a document whose directory could not
be made, with a directory for a document that could not be written, or with a changed document
(`turn_of_invocation`). `Disk.Turn.settingsAt` says which settings are kept there then.
-/

namespace RecordFilter

/-! ## Running commands on a disk -/

section Running

variable {α : Type} {disk after : Disk}

/-- A change that is made. -/
theorem attempt_run_of_ok {change : Disk → Except FileError Disk} (h : change disk = .ok after) :
    (Disk.attempt change).run disk = (.ok (), after) := by
  show Disk.attempt change disk = _
  rw [Disk.attempt, h]

/-- A change that is refused leaves the disk as it is. -/
theorem attempt_run_of_error {change : Disk → Except FileError Disk} {reason : FileError}
    (h : change disk = .error reason) :
    (Disk.attempt change).run disk = (.error reason, disk) := by
  show Disk.attempt change disk = _
  rw [Disk.attempt, h]

/-- Whether a command in progress leaves every disk as it is. -/
def Leaves (x : Run (StateM Disk) α) : Prop := ∀ disk, (x.run.run disk).2 = disk

end Running

/-! ## Settings on a disk -/

namespace Disk

/-- Whether the settings are kept at a path, whatever is on a disk. -/
def Surroundings.KeepsSettingsAt (s : Surroundings) (path : String) : Prop :=
  ∀ disk, (Settings.path? (outside s)).run disk = (some path, disk)

/-- The settings that a disk keeps at a path. -/
def settingsAt (disk : Disk) (path : String) : Except Failure Settings :=
  if disk.pathExists path then
    match disk.fileText path with
    | .error cause => .error (.settings (.unreadable cause))
    | .ok text =>
      match Settings.ofText text with
      | .error cause => .error (.settings (.malformed cause))
      | .ok settings => .ok settings
  else .ok .default

end Disk

section Keeping

open Disk (outside)

variable {s : Disk.Surroundings} {path : String}

/-- The path of the settings, wherever the program has got to. -/
theorem path_run (h : s.KeepsSettingsAt path) (disk : Disk) :
    (Settings.path (outside s)).run.run disk = (.ok path, disk) := by
  unfold Settings.path
  rw [run_bind_of_ok (run_liftM_of_run (h disk))]
  rfl

/-- The settings are read from their path, and nothing changes. -/
theorem load_run (h : s.KeepsSettingsAt path) (disk : Disk) :
    (Settings.load (outside s)).run.run disk = (disk.settingsAt path, disk) := by
  have hpresent : (liftM ((outside s).pathExists path) : Run (StateM Disk) Bool).run.run disk
      = (.ok (disk.pathExists path), disk) := rfl
  have htext : ((outside s).fileText path).run disk = (disk.fileText path, disk) := rfl
  unfold Settings.load Disk.settingsAt
  rw [run_bind_of_ok (path_run h disk), run_bind_of_ok hpresent]
  split
  · cases hread : disk.fileText path with
    | error cause =>
      rw [hread] at htext
      exact run_bind_of_error (orFail_run htext)
    | ok text =>
      rw [hread] at htext
      rw [run_bind_of_ok (orFail_run htext)]
      cases hof : Settings.ofText text <;> (dsimp only; rw [hof]; rfl)
  · rfl

theorem makeDirectories_run {disk made : Disk} {result : Except FileError Unit}
    (h : disk.makeDirectories path = (result, made)) :
    ((outside s).makeDirectories path).run disk = (result, made) := h

/-- Settings are written once there is a directory for them. -/
theorem save_run (h : s.KeepsSettingsAt path) (disk : Disk) (settings : Settings) :
    (Settings.save (outside s) settings).run.run disk = match disk.prepare path with
      | (.error cause, made) => (.error (.settings (.noDirectory cause)), made)
      | (.ok _, made) => (orFail (fun cause => .settings (.unwritable cause))
          ((outside s).storeText path settings.toText)).run.run made := by
  unfold Settings.save Disk.prepare
  rw [run_bind_of_ok (path_run h disk)]
  cases Settings.parent? path with
  | none => rfl
  | some directory =>
    dsimp only
    rcases hmade : disk.makeDirectories directory with ⟨cause | _, made⟩
    · exact run_bind_of_error (orFail_run (makeDirectories_run hmade))
    · exact run_bind_of_ok (orFail_run (makeDirectories_run hmade))

/-! ## How commands leave the disk -/

/-- How a command can leave the disk that keeps the settings, and the change that it has made. -/
inductive Disk.Turn (path : String) (disk : Disk) : Option Settings.Change → Disk → Prop where
  | untouched : Turn path disk none disk
  /-- There is only a part of the way to the document. -/
  | unprepared {settings : Settings} {made : Disk} {reason : FileError}
    (hsettings : disk.settingsAt path = .ok settings)
    (hmade : disk.prepare path = (.error reason, made)) : Turn path disk none made
  /-- There is a directory for the document, but no document. -/
  | unwritten {settings : Settings} {text : String} {made : Disk} {reason : FileError}
    (hsettings : disk.settingsAt path = .ok settings)
    (hmade : disk.prepare path = (.ok (), made))
    (hstore : made.storeText path text = .error reason) : Turn path disk none made
  | written {settings : Settings} {change : Settings.Change} {made stored : Disk}
    (hsettings : disk.settingsAt path = .ok settings)
    (hmade : disk.prepare path = (.ok (), made))
    (hstore : made.storeText path (settings.apply change).toText = .ok stored) :
    Turn path disk (some change) stored

/-- The change that a command has made: the one that it spells, if it has succeeded. -/
def Command.changeMade : Command → Except Failure String → Option Settings.Change
  | changeSetting key value, .ok _ => (Settings.Change.ofText key value).toOption
  | _, _ => none

/-- Keeping settings leaves the disk in one of the ways that are listed. -/
theorem turn_of_save (h : s.KeepsSettingsAt path) {disk after : Disk} {settings : Settings}
    (hsettings : disk.settingsAt path = .ok settings) {change : Settings.Change}
    {outcome : Except Failure Unit}
    (hrun : (Settings.save (outside s) (settings.apply change)).run.run disk = (outcome, after)) :
    disk.Turn path (outcome.toOption.map fun _ => change) after := by
  rw [save_run h] at hrun
  rcases hmade : disk.prepare path with ⟨cause | _, made⟩
  · rw [hmade] at hrun
    cases hrun
    exact .unprepared hsettings hmade
  · rw [hmade] at hrun
    cases hstore : made.storeText path (settings.apply change).toText with
    | error reason =>
      have hend := hrun.symm.trans (orFail_run (attempt_run_of_error hstore))
      cases hend
      exact .unwritten hsettings hmade hstore
    | ok stored =>
      have hend := hrun.symm.trans (orFail_run (attempt_run_of_ok hstore))
      cases hend
      exact .written hsettings hmade hstore

/-- So does changing a setting. -/
theorem turn_of_runChange (h : s.KeepsSettingsAt path) {output : OutputOptions}
    {key value : String} {disk after : Disk} {outcome : Except Failure String}
    (hrun : (Command.runChange (outside s) output key value).run.run disk = (outcome, after)) :
    disk.Turn path ((Command.changeSetting key value).changeMade outcome) after := by
  have hload := load_run h disk
  unfold Command.runChange at hrun
  cases hsettings : disk.settingsAt path with
  | error cause =>
    rw [hsettings] at hload
    rw [run_bind_of_error hload] at hrun
    cases hrun
    exact .untouched
  | ok settings =>
    rw [hsettings] at hload
    rw [run_bind_of_ok hload, run_bind_of_ok (path_run h disk)] at hrun
    cases hchange : Settings.Change.ofText key value with
    | error cause =>
      rw [hchange] at hrun
      cases hrun
      exact .untouched
    | ok change =>
      rw [hchange] at hrun
      dsimp only at hrun
      rcases hsave : (Settings.save (outside s) (settings.apply change)).run.run disk
        with ⟨saved, last⟩
      have hturn := turn_of_save h hsettings hsave
      cases saved with
      | error cause =>
        rw [run_bind_of_error hsave] at hrun
        cases hrun
        exact hturn
      | ok _ =>
        rw [run_bind_of_ok hsave] at hrun
        cases hrun
        rw [Command.changeMade, hchange]
        exact hturn

/-- A setting that is changed is one that key and value spell. -/
theorem exists_ofText_of_runChange {output : OutputOptions} {key value text : String}
    {disk after : Disk}
    (hrun : (Command.runChange (outside s) output key value).run.run disk = (.ok text, after)) :
    ∃ change, Settings.Change.ofText key value = .ok change := by
  cases hchange : Settings.Change.ofText key value with
  | ok change => exact ⟨change, rfl⟩
  | error cause =>
    obtain ⟨_, _, -, hrest⟩ := exists_of_run_bind_eq_ok hrun
    obtain ⟨_, _, -, hrest⟩ := exists_of_run_bind_eq_ok hrest
    rw [hchange] at hrest
    cases hrest

/-- Looking around on a disk leaves it as it is. -/
theorem isSteady_outside : (outside s).IsSteady where
  lookup _ _ := rfl
  accountHome _ := rfl
  pathExists _ _ := rfl
  fileText _ _ := rfl

theorem keeps_inputText : Keeps id (outside s).inputText := fun _ => rfl

theorem leaves_readInput (options : FilterOptions) : Leaves (options.readInput (outside s)) :=
  keeps_readInput isSteady_outside keeps_inputText options

/-- Every command leaves the disk as it is but the one that changes a setting. -/
theorem leaves_invocation {i : Invocation}
    (hcommand : ∀ key value, i.command ≠ .changeSetting key value) :
    Leaves (i.run (outside s)) :=
  keeps_invocation isSteady_outside keeps_inputText hcommand

/-- A setting is changed without looking at the settings for the layout of output. -/
theorem exists_run_changeSetting {i : Invocation} {key value : String}
    (hcommand : i.command = .changeSetting key value) (disk : Disk) :
    ∃ output, (i.run (outside s)).run.run disk
      = (Command.runChange (outside s) output key value).run.run disk := by
  have hstart : i.settingsIn (outside s) disk = .ok .default := by
    rw [Invocation.settingsIn, hcommand]
    rfl
  refine ⟨layoutIn (outside s) i.common .default disk, ?_⟩
  rw [run_of_settingsIn isSteady_outside hstart, hcommand]
  rfl

/-- Every command leaves the disk in one of the ways that are listed. -/
theorem turn_of_invocation (h : s.KeepsSettingsAt path) {i : Invocation} {disk after : Disk}
    {outcome : Except Failure String}
    (hrun : (i.run (outside s)).run.run disk = (outcome, after)) :
    disk.Turn path (i.command.changeMade outcome) after := by
  by_cases hcommand : ∃ key value, i.command = .changeSetting key value
  · obtain ⟨key, value, hcommand⟩ := hcommand
    obtain ⟨output, hchange⟩ := exists_run_changeSetting (s := s) hcommand disk
    rw [hchange] at hrun
    rw [hcommand]
    exact turn_of_runChange h hrun
  · have hother : ∀ key value, i.command ≠ .changeSetting key value := fun key value heq =>
      hcommand ⟨key, value, heq⟩
    have hafter : after = disk := by
      have hdisk := leaves_invocation (s := s) hother disk
      rwa [hrun] at hdisk
    have hnone : i.command.changeMade outcome = none := by
      unfold Command.changeMade
      split
      · next key value text heq => exact absurd heq (hother key value)
      · rfl
    rw [hnone, hafter]
    exact .untouched

end Keeping

/-! ## Settings behind commands -/

namespace Disk

variable {disk after : Disk} {path text : String} {place : Place} {reason : FileError}
  {cause : Failure} {settings : Settings} {change? : Option Settings.Change}

/-- The settings are those that the text of their document spells. -/
theorem settingsAt_of_fileText (h : disk.fileText path = .ok text)
    (hof : Settings.ofText text = .ok settings) : disk.settingsAt path = .ok settings := by
  rw [settingsAt, if_pos (pathExists_of_fileText h), h]
  dsimp only
  rw [hof]

/-- A directory at the path of the document keeps the settings from being read. -/
theorem settingsAt_of_directory (hplace : disk.locate path = .ok place)
    (hdirectory : disk.entry? place = some .directory) :
    disk.settingsAt path = .error (.settings (.unreadable .isDirectory)) := by
  have hpresent : disk.pathExists path = true := by
    rw [pathExists, hplace]
    show (disk.entry? place).isSome = true
    rw [hdirectory]
    rfl
  rw [settingsAt, if_pos hpresent, fileText_of_directory hplace hdirectory]

/-- Where the path leads nowhere, nothing is set. -/
theorem settingsAt_of_locate_error (h : disk.locate path = .error reason) :
    disk.settingsAt path = .ok .default := by
  have habsent : ¬ disk.pathExists path = true := by
    rw [pathExists, h]
    exact Bool.false_ne_true
  rw [settingsAt, if_neg habsent]

/-- Settings that were read have their fields in order. -/
theorem ordered_of_settingsAt (h : disk.settingsAt path = .ok settings) :
    Keyed.Ordered settings.fields := by
  unfold settingsAt at h
  split at h
  · split at h
    · cases h
    · split at h
      · cases h
      · next hof =>
        cases h
        exact Settings.ordered_of_ofText hof
  · cases h
    exact Keyed.ordered_nil

/-- Where the settings can be read there is room for their document, if its path does not lead
upwards. -/
theorem hasRoomFor_of_settingsAt (htree : disk.IsTree) (hup : ".." ∉ names path)
    (h : disk.settingsAt path = .ok settings) : disk.HasRoomFor path := by
  refine hasRoomFor_of_isTree htree hup fun place hplace hdirectory => ?_
  rw [settingsAt_of_directory hplace hdirectory] at h
  cases h

/-- Where a document was written there is room for it. -/
theorem hasRoomFor_of_storeText (h : disk.storeText path text = .ok after) :
    after.HasRoomFor path := by
  intro made place hmade hplace hdirectory
  have htext := fileText_of_storeText h
  obtain ⟨stored, hstored, -⟩ := exists_of_bind_eq_ok htext
  rw [prepare_of_locate hstored] at hmade
  cases hmade
  rw [fileText_of_directory hplace hdirectory] at htext
  cases htext

/-- A command keeps the room that there is for the document. -/
theorem Turn.hasRoomFor (h : disk.Turn path change? after) (hroom : disk.HasRoomFor path) :
    after.HasRoomFor path := by
  cases h with
  | untouched => exact hroom
  | unprepared hsettings hmade =>
    intro made place hagain
    have hrefused := (prepare_again disk path).2
    rw [hmade, hagain] at hrefused
    cases hrefused.mp rfl
  | unwritten hsettings hmade hstore =>
    intro made place hagain hplace
    rw [prepare_idem hmade] at hagain
    cases hagain
    exact hroom _ place hmade hplace
  | written hsettings hmade hstore => exact hasRoomFor_of_storeText hstore

/-- A command that has changed a setting has found room for the document. -/
theorem Turn.hasRoomFor_of_some {change : Settings.Change}
    (h : disk.Turn path (some change) after) : after.HasRoomFor path := by
  cases h with
  | written hsettings hmade hstore => exact hasRoomFor_of_storeText hstore

/-- Nothing is changed where the settings cannot be read. -/
theorem Turn.of_error (h : disk.Turn path change? after)
    (hcause : disk.settingsAt path = .error cause) : change? = none ∧ after = disk := by
  cases h with
  | untouched => exact ⟨rfl, rfl⟩
  | unprepared hsettings _ | unwritten hsettings _ _ | written hsettings _ _ =>
    rw [hcause] at hsettings
    cases hsettings

/-- A path that leads nowhere before a command and behind it stands for the same settings. -/
theorem settingsAt_of_locate_errors (hdisk : ∃ reason, disk.locate path = .error reason)
    (hafter : ∃ reason, after.locate path = .error reason) :
    after.settingsAt path = disk.settingsAt path := by
  obtain ⟨_, hdisk⟩ := hdisk
  obtain ⟨_, hafter⟩ := hafter
  rw [settingsAt_of_locate_error hdisk, settingsAt_of_locate_error hafter]

/-- Behind a command the settings are those in front of it with the change that it has made. They
cannot be read only where there has been no room for their document, so that none was made. -/
theorem Turn.settingsAt (h : disk.Turn path change? after)
    (hsettings : disk.settingsAt path = .ok settings) :
    after.settingsAt path = .ok (change?.toList.foldl Settings.apply settings) ∨
      ¬ disk.HasRoomFor path ∧ change? = none
        ∧ after.settingsAt path = .error (.settings (.unreadable .isDirectory)) := by
  cases h with
  | untouched => exact .inl hsettings
  | unprepared _ hmade =>
    obtain ⟨hbefore, hbehind⟩ := locate_of_prepare_error hmade
    rw [settingsAt_of_locate_errors hbefore hbehind]
    exact .inl hsettings
  | unwritten _ hmade hstore =>
    cases hplace : after.locate path with
    | error reason =>
      -- there has been nothing at the path, or else no directory would have had to be made
      have hnothing : ∃ reason, disk.locate path = .error reason := by
        cases hbefore : disk.locate path with
        | error reason => exact ⟨reason, rfl⟩
        | ok place =>
          rw [prepare_of_locate hbefore] at hmade
          cases hmade
          rw [hplace] at hbefore
          cases hbefore
      rw [settingsAt_of_locate_errors hnothing ⟨reason, hplace⟩]
      exact .inl hsettings
    | ok place =>
      have hdirectory := directory_of_storeText hplace hstore
      refine .inr ⟨fun hroom => hroom after place hmade hplace hdirectory, rfl, ?_⟩
      exact settingsAt_of_directory hplace hdirectory
  | @written _ change _ _ hbefore _ hstore =>
    rw [hsettings] at hbefore
    cases hbefore
    have hordered := Settings.ordered_apply (ordered_of_settingsAt hsettings) change
    exact .inl (settingsAt_of_fileText (fileText_of_storeText hstore)
      (Settings.ofText_toText hordered))

end Disk

end RecordFilter
