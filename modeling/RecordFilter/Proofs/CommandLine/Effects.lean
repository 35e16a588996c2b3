import RecordFilter.CommandLine.Run
import RecordFilter.Proofs.Execution

/-!
# What commands leave alone

Commands run in a world of any kind, and something is kept in it, such as the texts of its files.
Of what lies outside it is assumed that looking around changes nothing (`Outside.IsSteady`), and
that nothing that is kept is changed by reading the standard input, by making directories, or by
a write that is refused (`Outside.Guards`). Then every command but the one that changes a setting
leaves alone what is kept (`keeps_invocation`), and so does that one if it fails
(`keepsOnFailure_invocation`): it writes once, as the last thing that can fail.
-/

namespace RecordFilter

variable {ω γ α β : Type} {kept : ω → γ}

/-! ## Actions -/

/-- Whether an action leaves what is kept as it is. -/
def Keeps (kept : ω → γ) (x : StateM ω α) : Prop := ∀ w, kept (x.run w).2 = kept w

theorem keeps_pure (a : α) : Keeps kept (pure a : StateM ω α) := fun _ => rfl

/-- An action that changes nothing keeps everything. -/
theorem Keeps.of_id {x : StateM ω α} (h : Keeps id x) : Keeps kept x := fun w =>
  congrArg kept (h w)

/-- What two actions keep is kept by one behind the other. -/
theorem Keeps.bind {x : StateM ω α} {f : α → StateM ω β} (hx : Keeps kept x)
    (hf : ∀ a, Keeps kept (f a)) : Keeps kept (x >>= f) := by
  intro w
  rw [run_bind_of_run (Prod.ext rfl rfl : x.run w = ((x.run w).1, (x.run w).2)), hf, hx]

/-! ## Commands in progress -/

section Running

variable {w after : ω}

/-- Something that reaches outside gives a command what it gives. -/
theorem run_liftM_of_run {x : StateM ω α} {a : α} (h : x.run w = (a, after)) :
    (liftM x : Run (StateM ω) α).run.run w = (.ok a, after) := by
  show (Except.ok (x.run w).1, (x.run w).2) = _
  rw [h]

/-- An action that may be refused fails the command if it is, and has its effect either way. -/
theorem orFail_run {failure : FileError → Failure} {action : StateM ω (Except FileError α)}
    {result : Except FileError α} (h : action.run w = (result, after)) :
    (orFail failure action).run.run w = (result.mapError failure, after) := by
  unfold orFail
  rw [run_bind_of_ok (run_liftM_of_run h)]
  cases result <;> rfl

theorem keeps_throw (cause : Failure) : Keeps kept (throw cause : Run (StateM ω) α).run :=
  fun _ => rfl

theorem keeps_liftM {x : StateM ω α} (h : Keeps kept x) :
    Keeps kept (liftM x : Run (StateM ω) α).run := fun w => h w

/-- The same for commands in progress, whether the first one fails or not. -/
theorem Keeps.runBind {x : Run (StateM ω) α} {f : α → Run (StateM ω) β} (hx : Keeps kept x.run)
    (hf : ∀ a, Keeps kept (f a).run) : Keeps kept (x >>= f).run := by
  intro w
  rcases hrun : x.run.run w with ⟨outcome, after⟩
  have hafter : kept after = kept w := by
    have h := hx w
    rwa [hrun] at h
  cases outcome with
  | error cause => rw [run_bind_of_error hrun, hafter]
  | ok a => rw [run_bind_of_ok hrun, hf a after, hafter]

/-- What an action keeps is kept by the command that it may fail. -/
theorem keeps_orFail {failure : FileError → Failure} {action : StateM ω (Except FileError α)}
    (h : Keeps kept action) : Keeps kept (orFail failure action).run := fun w => by
  rw [orFail_run (Prod.ext rfl rfl : action.run w = ((action.run w).1, (action.run w).2))]
  exact h w

/-- Whether a command in progress leaves what is kept as it is if it fails. -/
def KeepsOnFailure (kept : ω → γ) (x : Run (StateM ω) α) : Prop :=
  ∀ w cause, (x.run.run w).1 = .error cause → kept (x.run.run w).2 = kept w

theorem Keeps.onFailure {x : Run (StateM ω) α} (h : Keeps kept x.run) : KeepsOnFailure kept x :=
  fun w _ _ => h w

/-- A failure behind something that keeps everything is as good as one at the start. -/
theorem KeepsOnFailure.bind {x : Run (StateM ω) α} {f : α → Run (StateM ω) β}
    (hx : Keeps kept x.run) (hf : ∀ a, KeepsOnFailure kept (f a)) :
    KeepsOnFailure kept (x >>= f) := by
  intro w cause hcause
  rcases hrun : x.run.run w with ⟨outcome, after⟩
  have hafter : kept after = kept w := by
    have h := hx w
    rwa [hrun] at h
  cases outcome with
  | error cause => rw [run_bind_of_error hrun, hafter]
  | ok a =>
    rw [run_bind_of_ok hrun] at hcause ⊢
    rw [hf a after cause hcause, hafter]

/-- What cannot fail may stand behind anything. -/
theorem KeepsOnFailure.bind_pure {x : Run (StateM ω) α} (hx : KeepsOnFailure kept x) (f : α → β) :
    KeepsOnFailure kept (x >>= fun a => pure (f a)) := by
  intro w cause hcause
  rcases hrun : x.run.run w with ⟨outcome, after⟩
  cases outcome with
  | error reason =>
    have h := hx w reason
    rw [hrun] at h
    rw [run_bind_of_error hrun]
    exact h rfl
  | ok a =>
    rw [run_bind_of_ok hrun] at hcause
    cases hcause

/-- An action that is refused without effect fails without effect. -/
theorem keepsOnFailure_orFail {failure : FileError → Failure}
    {action : StateM ω (Except FileError α)}
    (h : ∀ w cause, (action.run w).1 = .error cause → kept (action.run w).2 = kept w) :
    KeepsOnFailure kept (orFail failure action) := by
  intro w cause hcause
  have hrun : (orFail failure action).run.run w
      = ((action.run w).1.mapError failure, (action.run w).2) := orFail_run (Prod.ext rfl rfl)
  rw [hrun] at hcause ⊢
  cases hresult : (action.run w).1 with
  | error reason => exact h w reason hresult
  | ok a =>
    rw [hresult] at hcause
    cases hcause

end Running

/-! ## What lies outside -/

/-- Whether looking around changes nothing: looking up variables, asking what exists and reading
files. -/
structure Outside.IsSteady (o : Outside (StateM ω)) : Prop where
  lookup : ∀ name, Keeps id (o.lookup name)
  accountHome : Keeps id o.accountHome?
  pathExists : ∀ path, Keeps id (o.pathExists path)
  fileText : ∀ path, Keeps id (o.fileText path)

/-- What is assumed of the texts that are kept outside: they are not touched by anything but a
write, and not by a write that is refused. -/
structure Outside.Guards (o : Outside (StateM ω)) (kept : ω → γ) : Prop extends o.IsSteady where
  inputText : Keeps kept o.inputText
  makeDirectories : ∀ path, Keeps kept (o.makeDirectories path)
  storeText : ∀ path text w cause, ((o.storeText path text).run w).1 = .error cause →
    kept ((o.storeText path text).run w).2 = kept w

/-- The settings that a command starts with. -/
def Invocation.loadFor (i : Invocation) (o : Outside (StateM ω)) : Run (StateM ω) Settings :=
  if i.command.usesSettings then Settings.load o else pure .default

/-- A command reads its settings, finds its layout, and then does what it is there for. -/
theorem Invocation.run_eq (i : Invocation) (o : Outside (StateM ω)) :
    i.run o = i.loadFor o >>= fun settings =>
      (liftM (OutputOptions.of o i.common settings) : Run (StateM ω) OutputOptions)
        >>= fun layout => i.command.runWith o layout settings := by
  unfold Invocation.run Invocation.loadFor
  dsimp only
  split <;> rfl

section Parts

variable {o : Outside (StateM ω)}

theorem keeps_home? (ho : o.IsSteady) : Keeps id (Settings.home? o) := by
  refine (ho.lookup _).bind fun found => ?_
  split
  · split_ifs
    · exact ho.accountHome
    · exact keeps_pure _
  · exact ho.accountHome

/-- Looking for the path of the settings changes nothing. -/
theorem keeps_path? (ho : o.IsSteady) : Keeps id (Settings.path? o) := by
  refine (ho.lookup _).bind fun found => ?_
  split
  · exact keeps_pure _
  · refine (ho.lookup _).bind fun found => ?_
    split
    · exact keeps_pure _
    · exact (keeps_home? ho).bind fun home => keeps_pure _

/-- Nor does complaining that there is none. -/
theorem keeps_path (ho : o.IsSteady) : Keeps id (Settings.path o).run := by
  refine (keeps_liftM (keeps_path? ho)).runBind fun found => ?_
  cases found with
  | none => exact keeps_throw _
  | some path => exact keeps_pure _

/-- Reading the settings changes nothing. -/
theorem keeps_load (ho : o.IsSteady) : Keeps id (Settings.load o).run := by
  refine (keeps_path ho).runBind fun path => (keeps_liftM (ho.pathExists path)).runBind fun _ => ?_
  split
  · refine (keeps_orFail (ho.fileText path)).runBind fun text => ?_
    split
    · exact keeps_pure _
    · exact keeps_throw _
  · exact keeps_pure _

/-- Finding out how to lay out the output changes nothing. -/
theorem keeps_outputOptions (ho : o.IsSteady) (common : CommonOptions) (settings : Settings) :
    Keeps id (OutputOptions.of o common settings) :=
  (ho.lookup _).bind fun _ => keeps_pure _

theorem keeps_ofExpression (result : Except ExprError String) :
    Keeps kept (Command.ofExpression result : Run (StateM ω) String).run := by
  cases result with
  | error cause => exact keeps_throw _
  | ok text => exact keeps_pure _

/-- Reading the input of a filter keeps all that the standard input does not change. -/
theorem keeps_readInput (ho : o.IsSteady) (hinput : Keeps kept o.inputText)
    (options : FilterOptions) : Keeps kept (options.readInput o).run := by
  unfold FilterOptions.readInput
  split
  · exact keeps_orFail (ho.fileText _).of_id
  · exact keeps_orFail hinput

/-- A filter does no more than read its input. -/
theorem keeps_filter (ho : o.IsSteady) (hinput : Keeps kept o.inputText)
    (options : FilterOptions) (layout : OutputOptions) (settings : Settings) :
    Keeps kept (options.run o layout settings).run := by
  unfold FilterOptions.run
  split
  · exact keeps_throw _
  · refine (keeps_readInput ho hinput options).runBind fun text => ?_
    split
    · exact keeps_throw _
    · exact keeps_pure _

/-- Every command leaves alone what is kept but the one that changes a setting. -/
theorem keeps_runWith (ho : o.IsSteady) (hinput : Keeps kept o.inputText)
    (layout : OutputOptions) (settings : Settings) {command : Command}
    (hcommand : ∀ key value, command ≠ .changeSetting key value) :
    Keeps kept (command.runWith o layout settings).run := by
  cases command with
  | introduction => exact keeps_pure _
  | tokens expression keepWhitespace => exact keeps_ofExpression _
  | parse expression => exact keeps_ofExpression _
  | filter options => exact keeps_filter ho hinput options layout settings
  | showSettings =>
    refine (keeps_load ho).of_id.runBind fun settings => ?_
    refine (keeps_path ho).of_id.runBind fun path => ?_
    exact (keeps_liftM (ho.pathExists path).of_id).runBind fun present => keeps_pure _
  | changeSetting key value => exact absurd rfl (hcommand key value)
  | settingsPath =>
    refine (keeps_path ho).of_id.runBind fun path => ?_
    exact (keeps_liftM (ho.pathExists path).of_id).runBind fun present => keeps_pure _
  | completions shell => exact keeps_pure _

/-- Reading the settings changes nothing. -/
theorem keeps_loadFor (ho : o.IsSteady) (i : Invocation) : Keeps id (i.loadFor o).run := by
  unfold Invocation.loadFor
  split
  · exact keeps_load ho
  · exact keeps_pure _

/-- No command but the one that changes a setting changes what is kept. -/
theorem keeps_invocation (ho : o.IsSteady) (hinput : Keeps kept o.inputText) {i : Invocation}
    (hcommand : ∀ key value, i.command ≠ .changeSetting key value) :
    Keeps kept (i.run o).run := by
  rw [i.run_eq o]
  refine (keeps_loadFor ho i).of_id.runBind fun settings => ?_
  refine (keeps_liftM (keeps_outputOptions ho _ _).of_id).runBind fun layout => ?_
  exact keeps_runWith ho hinput layout settings hcommand

/-! ## Commands that fail -/

variable (h : o.Guards kept)
include h

/-- Settings that could not be written are as they were. -/
theorem keepsOnFailure_save (settings : Settings) :
    KeepsOnFailure kept (Settings.save o settings) := by
  have hstore : ∀ path, KeepsOnFailure kept (orFail (fun cause => .settings (.unwritable cause))
      (o.storeText path settings.toText)) := fun path =>
    keepsOnFailure_orFail (h.storeText path settings.toText)
  refine KeepsOnFailure.bind (keeps_path h.toIsSteady).of_id fun path => ?_
  split
  · exact KeepsOnFailure.bind (keeps_orFail (h.makeDirectories _)) fun _ => hstore path
  · exact hstore path

/-- A change of a setting that fails has not written. -/
theorem keepsOnFailure_runChange (layout : OutputOptions) (key value : String) :
    KeepsOnFailure kept (Command.runChange o layout key value) := by
  refine KeepsOnFailure.bind (keeps_load h.toIsSteady).of_id fun settings => ?_
  refine KeepsOnFailure.bind (keeps_path h.toIsSteady).of_id fun path => ?_
  split
  · exact (keeps_throw _).onFailure
  · exact (keepsOnFailure_save h _).bind_pure _

/-- A command that fails has changed nothing. -/
theorem keepsOnFailure_runWith (layout : OutputOptions) (settings : Settings) (command : Command) :
    KeepsOnFailure kept (command.runWith o layout settings) := by
  by_cases hcommand : ∃ key value, command = .changeSetting key value
  · obtain ⟨key, value, rfl⟩ := hcommand
    exact keepsOnFailure_runChange h layout key value
  · have hother : ∀ key value, command ≠ .changeSetting key value := fun key value heq =>
      hcommand ⟨key, value, heq⟩
    exact (keeps_runWith h.toIsSteady h.inputText layout settings hother).onFailure

/-- A command that fails leaves alone what is kept. -/
theorem keepsOnFailure_invocation (i : Invocation) : KeepsOnFailure kept (i.run o) := by
  rw [i.run_eq o]
  refine KeepsOnFailure.bind (keeps_loadFor h.toIsSteady i).of_id fun settings => ?_
  have hlayout := keeps_outputOptions h.toIsSteady i.common settings
  refine KeepsOnFailure.bind (keeps_liftM hlayout.of_id) fun layout => ?_
  exact keepsOnFailure_runWith h layout settings i.command

end Parts

/-! ## How commands start -/

/-- The settings that are read in a world. -/
def settingsIn (o : Outside (StateM ω)) (w : ω) : Except Failure Settings :=
  ((Settings.load o).run.run w).1

/-- The settings that a command starts with: those that are read, if it uses any. -/
def Invocation.settingsIn (i : Invocation) (o : Outside (StateM ω)) (w : ω) :
    Except Failure Settings :=
  if i.command.usesSettings then RecordFilter.settingsIn o w else .ok .default

/-- The layout that a command is given in a world. -/
def layoutIn (o : Outside (StateM ω)) (common : CommonOptions) (settings : Settings) (w : ω) :
    OutputOptions :=
  ((OutputOptions.of o common settings).run w).1

section Starting

variable {o : Outside (StateM ω)} {w : ω} {i : Invocation}

theorem Invocation.settingsIn_of_usesSettings (h : i.command.usesSettings = true) :
    i.settingsIn o w = RecordFilter.settingsIn o w := if_pos h

/-- The settings that a command starts with, and the world as it was. -/
theorem loadFor_run (ho : o.IsSteady) (i : Invocation) (w : ω) :
    (i.loadFor o).run.run w = (i.settingsIn o w, w) := by
  refine Prod.ext ?_ (keeps_loadFor ho i w)
  unfold Invocation.loadFor Invocation.settingsIn
  split <;> rfl

/-- A command whose settings cannot be read fails at once. -/
theorem run_of_settingsIn_error (ho : o.IsSteady) {cause : Failure}
    (h : i.settingsIn o w = .error cause) : (i.run o).run.run w = (.error cause, w) := by
  have hsettings := loadFor_run ho i w
  rw [h] at hsettings
  rw [i.run_eq o, run_bind_of_error hsettings]

/-- A command is run with its settings and the layout that follows from them. -/
theorem run_of_settingsIn (ho : o.IsSteady) {settings : Settings}
    (h : i.settingsIn o w = .ok settings) : (i.run o).run.run w
      = (i.command.runWith o (layoutIn o i.common settings w) settings).run.run w := by
  have hsettings := loadFor_run ho i w
  rw [h] at hsettings
  have hlayout : (OutputOptions.of o i.common settings).run w
      = (layoutIn o i.common settings w, w) :=
    Prod.ext rfl (keeps_outputOptions ho i.common settings w)
  rw [i.run_eq o, run_bind_of_ok hsettings, run_bind_of_ok (run_liftM_of_run hlayout)]

end Starting

end RecordFilter
