import RecordFilter.Proofs.CommandLine.Arguments
import RecordFilter.Proofs.CommandLine.Outcome
import RecordFilter.Proofs.Record.Declarations

/-!
# Settings and options

What the settings say of a filter may as well be said by its options: the declared fields and
whether patterns disregard case. All that counts is the expression that comes out of both
(`filterOutcome_declaring`), and for it the last declaration of each name and, if it matches
anything, whether case is disregarded (`filter_sources`).
-/

namespace RecordFilter

open Arguments (parse behindCommand fieldArgument caseArguments Declarable)

variable {ω : Type}

/-! ## Other declarations -/

/-- The same filter with these declarations, and disregarding case or not. -/
def FilterOptions.declaring (options : FilterOptions) (fields : List (String × FieldType))
    (ignoreCase : Bool) : FilterOptions :=
  { options with fields := fields, ignoreCase := ignoreCase }

/-- The same settings with these declarations, and with this choice about case, if any. -/
def Settings.declaring (settings : Settings) (fields : List (String × FieldType))
    (ignoreCase : Option Bool) : Settings :=
  { settings with fields := fields, ignoreCase := ignoreCase }

/-- Whether a filter finds these settings in another world, and all else as it is in the first. -/
structure FindsSettings (o : Outside (StateM ω)) (options : FilterOptions) (w w' : ω)
    (settings : Settings) : Prop where
  settings : settingsIn o w' = .ok settings
  /-- The records are the same. -/
  text : options.textIn o w' = options.textIn o w
  /-- So is the variable that switches colours off. -/
  colors : ((o.lookup noColorVariable).run w').1 = ((o.lookup noColorVariable).run w).1

/-- Whether an expression, if it reads, has no condition that matches. -/
def MatchesNothing (expression : String) : Prop :=
  ∀ e, Expr.ofText expression = .ok e → ∀ c ∈ e.conditions, ¬ c.operator.IsMatch

instance (expression : String) : Decidable (MatchesNothing expression) :=
  match h : Expr.ofText expression with
  | .ok e => decidable_of_iff (∀ c ∈ e.conditions, ¬ c.operator.IsMatch)
      ⟨fun hall _ hread => Except.ok.inj (h.symm.trans hread) ▸ hall, fun hall => hall e h⟩
  | .error _ => isTrue fun _ hread => nomatch h.symm.trans hread

section Sources

variable {o : Outside (StateM ω)} {w w' : ω} {common : CommonOptions} {options : FilterOptions}
  {settings : Settings} {fields given row : List (String × FieldType)} {ignoreCase : Bool}
  {choice : Option Bool}

/-- The fields of settings that were read stand in the order of their names. -/
theorem ordered_of_settingsIn (h : settingsIn o w = .ok settings) :
    Keyed.Ordered settings.fields := by
  rcases hload : (Settings.load o).run.run w with ⟨outcome, after⟩
  obtain rfl : outcome = .ok settings := (congrArg Prod.fst hload).symm.trans h
  obtain ⟨path, _, -, hload⟩ := exists_of_run_bind_eq_ok hload
  obtain ⟨present, _, -, hload⟩ := exists_of_run_bind_eq_ok hload
  cases present with
  | false =>
    obtain rfl : Settings.default = settings := Except.ok.inj (congrArg Prod.fst hload)
    exact Keyed.ordered_nil
  | true =>
    obtain ⟨text, _, -, hload⟩ := exists_of_run_bind_eq_ok hload
    cases htext : Settings.ofText text with
    | error cause =>
      rw [htext] at hload
      cases congrArg Prod.fst hload
    | ok read =>
      rw [htext] at hload
      obtain rfl : read = settings := Except.ok.inj (congrArg Prod.fst hload)
      exact Settings.ordered_of_ofText htext

theorem FindsSettings.layoutIn_eq
    (h : FindsSettings o options w w' (settings.declaring fields choice)) :
    layoutIn o common (settings.declaring fields choice) w' = layoutIn o common settings w := by
  have hlayout : ∀ w settings, layoutIn o common settings w
      = ⟨common.json, !common.noColor
          && !(((o.lookup noColorVariable).run w).1.any fun value => value != "")
          && settings.color.getD true, common.quiet⟩ := fun _ _ => rfl
  rw [hlayout, hlayout, h.colors]
  rfl

/-- All that a filter takes from declarations and choices is its expression. -/
theorem filterOutcome_declaring (ho : o.IsSteady) (hsettings : settingsIn o w = .ok settings)
    (h : FindsSettings o options w w' (settings.declaring fields choice))
    (hcompile : (options.declaring given ignoreCase).compile (settings.declaring fields choice)
      = options.compile settings) :
    filterOutcome o w' common (options.declaring given ignoreCase)
      = filterOutcome o w common options := by
  have hselection : (options.declaring given ignoreCase).selection
      (settings.declaring fields choice) (options.textIn o w)
        = options.selection settings (options.textIn o w) := by
    unfold FilterOptions.selection
    rw [hcompile]
    rfl
  calc filterOutcome o w' common (options.declaring given ignoreCase)
      = ((options.declaring given ignoreCase).selection (settings.declaring fields choice)
          (options.textIn o w')).map (options.report
            (layoutIn o common (settings.declaring fields choice) w')
            (settings.pretty.getD false)) := by
        rw [filterOutcome_eq ho, bind_of_ok h.settings]
        rfl
    _ = (options.selection settings (options.textIn o w)).map
          (options.report (layoutIn o common settings w) (settings.pretty.getD false)) := by
        rw [h.text, hselection, h.layoutIn_eq]
    _ = filterOutcome o w common options := by
        rw [filterOutcome_eq ho, bind_of_ok hsettings]

theorem rules_eq : options.rules settings
    = ⟨Schema.empty.declare (settings.fields ++ options.fields),
        options.ignoreCase || settings.ignoreCase.getD false⟩ := by
  rw [← Schema.declare_declare]
  rfl

theorem compile_of_rules {options' : FilterOptions} {settings' : Settings}
    (hexpression : options'.expression = options.expression)
    (h : options'.rules settings' = options.rules settings) :
    options'.compile settings' = options.compile settings := by
  unfold FilterOptions.compile
  rw [hexpression, h]

/-- Declarations and the choice about case may move from the settings to the options. -/
theorem compile_behind (h : Keyed.Ordered settings.fields) (hrow : row.Perm settings.fields) :
    (options.behind row (settings.ignoreCase.getD false)).compile (settings.declaring [] none)
      = options.compile settings := by
  have hschema : Schema.empty.declare (row ++ options.fields)
      = Schema.empty.declare (settings.fields ++ options.fields) :=
    Schema.declare_perm_append hrow h.nodup
  refine compile_of_rules rfl ?_
  rw [rules_eq, rules_eq, ← hschema]
  exact congrArg (Rules.mk _) (Bool.or_false _)

/-- Which declarations are made, and where, makes no difference unless it is the last ones. -/
theorem compile_of_lastDeclared (h : ∀ name type, LastDeclared (fields ++ given) name type
    ↔ LastDeclared (settings.fields ++ options.fields) name type) :
    (options.declaring given options.ignoreCase).compile
        (settings.declaring fields settings.ignoreCase)
      = options.compile settings := by
  refine compile_of_rules rfl ?_
  rw [rules_eq, rules_eq]
  exact congrArg (Rules.mk · _) (Schema.declare_eq_iff.mpr h)

/-- Case makes no difference to an expression that matches nothing. -/
theorem compile_of_matchesNothing (h : MatchesNothing options.expression) :
    (options.declaring options.fields ignoreCase).compile
        (settings.declaring settings.fields choice)
      = options.compile settings := by
  show Expr.ofText options.expression >>= _ = Expr.ofText options.expression >>= _
  cases hread : Expr.ofText options.expression with
  | error cause => rfl
  | ok e =>
    show e.compileFor
      { options.rules settings with ignoreCase := ignoreCase || choice.getD false } = _
    exact compileFor_ignoreCase (h e hread) _

/-- Arguments of a filter, with what the settings say put in behind the name of the command. -/
theorem parse_takenOver {arguments : List String}
    (hparse : parse arguments = .ok ⟨common, .filter options⟩)
    (hnames : ∀ field ∈ settings.fields, Declarable field.1) (hrow : row.Perm settings.fields) :
    parse (behindCommand (row.map fieldArgument
        ++ caseArguments (settings.ignoreCase.getD false && !options.ignoreCase)) arguments)
      = .ok ⟨common, .filter (options.behind row (settings.ignoreCase.getD false))⟩ := by
  have hfields : ∀ field ∈ row, Declarable field.1 := fun field hfield =>
    hnames field (hrow.subset hfield)
  have hcase : (settings.ignoreCase.getD false && !options.ignoreCase) = true →
      options.ignoreCase = false := by
    intro h
    exact (Bool.not_eq_true' _).mp (Bool.and_eq_true_iff.mp h).2
  have hchoice : (options.ignoreCase || (settings.ignoreCase.getD false && !options.ignoreCase))
      = (options.ignoreCase || settings.ignoreCase.getD false) := by
    cases options.ignoreCase <;> simp
  rw [Arguments.parse_behindCommand hparse rfl hfields hcase, FilterOptions.behind,
    FilterOptions.behind, hchoice]

theorem lastDeclared_swap {before after : List (String × FieldType)}
    {first second : String × FieldType} (h : first.1 ≠ second.1)
    (hgiven : given = before ++ first :: second :: after) (name : String) (type : FieldType) :
    LastDeclared (fields ++ (before ++ second :: first :: after)) name type
      ↔ LastDeclared (fields ++ given) name type := by
  refine Schema.declare_eq_iff.mp ?_ name type
  rw [hgiven, ← List.append_assoc, ← List.append_assoc]
  exact Schema.declare_swap h

/-- **Settings and options say the same of a filter.** Where the settings declare fields and choose
about case, the outcome is that with all this left out of them and put into the options: the
declarations in any order in front of those among the options, and the option for case where it
is given already or the settings choose so; arguments can spell these options. The outcome depends
on the last declaration of each name only, the options coming behind the settings, and not on the
order of different names; and on the choice about case only if the expression has a condition that
matches. -/
theorem filter_sources (ho : o.IsSteady) (common : CommonOptions) (options : FilterOptions)
    (hsettings : settingsIn o w = .ok settings) :
    (∀ w' row, FindsSettings o options w w' (settings.declaring [] none) →
        row.Perm settings.fields →
        filterOutcome o w' common (options.behind row (settings.ignoreCase.getD false))
            = filterOutcome o w common options
          ∧ ∀ arguments, parse arguments = .ok ⟨common, .filter options⟩ →
            (∀ field ∈ settings.fields, Declarable field.1) →
            parse (behindCommand (row.map fieldArgument
                ++ caseArguments (settings.ignoreCase.getD false && !options.ignoreCase)) arguments)
              = .ok ⟨common, .filter (options.behind row (settings.ignoreCase.getD false))⟩)
      ∧ (∀ w' fields given,
        FindsSettings o options w w' (settings.declaring fields settings.ignoreCase) →
        (∀ name type, LastDeclared (fields ++ given) name type
          ↔ LastDeclared (settings.fields ++ options.fields) name type) →
        filterOutcome o w' common (options.declaring given options.ignoreCase)
          = filterOutcome o w common options)
      ∧ (∀ before first second after, options.fields = before ++ first :: second :: after →
        first.1 ≠ second.1 →
        filterOutcome o w common
            (options.declaring (before ++ second :: first :: after) options.ignoreCase)
          = filterOutcome o w common options)
      ∧ (MatchesNothing options.expression → ∀ w' choice ignoreCase,
        FindsSettings o options w w' (settings.declaring settings.fields choice) →
        filterOutcome o w' common (options.declaring options.fields ignoreCase)
          = filterOutcome o w common options) := by
  refine ⟨fun w' row h hrow => ⟨?_, ?_⟩, fun w' fields given h hlast => ?_,
    fun before first second after hgiven hne => ?_, fun hmatch w' choice ignoreCase h => ?_⟩
  · exact filterOutcome_declaring ho hsettings h
      (compile_behind (ordered_of_settingsIn hsettings) hrow)
  · intro arguments hparse hnames
    exact parse_takenOver hparse hnames hrow
  · exact filterOutcome_declaring ho hsettings h (compile_of_lastDeclared hlast)
  · have hsame : FindsSettings o options w w
        (settings.declaring settings.fields settings.ignoreCase) := ⟨hsettings, rfl, rfl⟩
    exact filterOutcome_declaring ho hsettings hsame
      (compile_of_lastDeclared (lastDeclared_swap hne hgiven))
  · exact filterOutcome_declaring ho hsettings h (compile_of_matchesNothing hmatch)

end Sources

open Disk (outside)

/-- Settings that declare two fields and disregard case, and an option that declares one of them
anew. -/
theorem filter_sources_redeclared :
    let input := "\x7b\"a\": 1, \"b\": \"X1\"\x7d\n\x7b\"a\": 3, \"b\": \"y\"\x7d\n"
    let s : Disk.Surroundings := ⟨[("LEE_CONFIG", "lee.toml")], none, .ok input⟩
    let disk := fun document : String => (⟨[], [(["lee.toml"], .file document)]⟩ : Disk)
    let choice := "[filter]\ncase_insensitive = true\n"
    let full := disk (choice ++ "[fields]\na = \"string\"\nb = \"string\"\n")
    let short := disk (choice ++ "[fields]\nb = \"string\"\n")
    let common : CommonOptions := ⟨false, false, false, false⟩
    let filter := fun expression fields ignoreCase =>
      (⟨expression, none, fields, ignoreCase, none, false⟩ : FilterOptions)
    let outcome := fun disk => filterOutcome (outside s) disk common
    let first := "\x7b\"a\":1,\"b\":\"X1\"\x7d\n"
    let row := [("b", FieldType.string), ("a", .string), ("a", .number)]
    outcome full (filter "b =~ \"x\" and a > 0" [("a", .number)] false) = .ok first
      ∧ outcome (disk "") (filter "b =~ \"x\" and a > 0" row true) = .ok first
      ∧ parse ["f", "--field=b:string", "--field=a:string", "-I", "--field", "a:number",
          "b =~ \"x\" and a > 0"]
        = .ok ⟨common, .filter (filter "b =~ \"x\" and a > 0" row true)⟩
      ∧ outcome (disk "") (filter "b =~ \"x\" and a > 0"
          [("a", .string), ("b", .string), ("a", .number)] true) = .ok first
      ∧ outcome short (filter "b =~ \"x\" and a > 0" [("a", .number)] false) = .ok first
      ∧ outcome (disk "[fields]\na = \"string\"\nb = \"string\"\n")
          (filter "b = \"X1\"" [("a", .number)] false)
        = outcome full (filter "b = \"X1\"" [("a", .number)] false) := by
  intro input s disk choice full short common filter outcome first row
  have hfull : settingsIn (outside s) full
      = .ok ⟨none, none, some true, [("a", .string), ("b", .string)]⟩ := by decide +kernel
  have hempty : settingsIn (outside s) (disk "") = .ok .default := by decide +kernel
  have hshort : settingsIn (outside s) short = .ok ⟨none, none, some true, [("b", .string)]⟩ := by
    decide +kernel
  have hunset : settingsIn (outside s) (disk "[fields]\na = \"string\"\nb = \"string\"\n")
      = .ok ⟨none, none, none, [("a", .string), ("b", .string)]⟩ := by decide +kernel
  have hmatched : outcome full (filter "b =~ \"x\" and a > 0" [("a", .number)] false)
      = .ok first := by decide +kernel
  have hparse : parse ["f", "--field", "a:number", "b =~ \"x\" and a > 0"]
      = .ok ⟨common, .filter (filter "b =~ \"x\" and a > 0" [("a", .number)] false)⟩ := by
    decide +kernel
  have hnames : ∀ field ∈ [("a", FieldType.string), ("b", .string)], Declarable field.1 :=
    List.forall_mem_cons.mpr ⟨⟨by decide, by decide, by decide⟩,
      List.forall_mem_singleton.mpr ⟨by decide, by decide, by decide⟩⟩
  obtain ⟨htaken, hlast, -, -⟩ := filter_sources isSteady_outside common
    (filter "b =~ \"x\" and a > 0" [("a", .number)] false) hfull
  obtain ⟨-, -, hswap, -⟩ := filter_sources isSteady_outside common
    (filter "b =~ \"x\" and a > 0" row true) hempty
  obtain ⟨-, -, -, hcase⟩ := filter_sources isSteady_outside common
    (filter "b = \"X1\"" [("a", .number)] false) hfull
  obtain ⟨houtcome, harguments⟩ := htaken (disk "") [("b", .string), ("a", .string)]
    ⟨hempty, rfl, rfl⟩ (List.Perm.swap _ _ _)
  have hrow : outcome (disk "") (filter "b =~ \"x\" and a > 0" row true) = .ok first :=
    houtcome.trans hmatched
  refine ⟨hmatched, hrow, harguments _ hparse hnames, ?_, ?_, ?_⟩
  · exact (hswap [] _ _ _ rfl (by decide)).trans hrow
  · exact (hlast short [("b", .string)] [("a", .number)] ⟨hshort, rfl, rfl⟩
      (Schema.declare_eq_iff.mp (by decide))).trans hmatched
  · exact hcase (by decide +kernel) _ none false ⟨hunset, rfl, rfl⟩

end RecordFilter
