import RecordFilter.Proofs.CommandLine.Arguments

/-!
# Arguments without quiet output

Quiet output is asked for by a name or by a letter, which may stand among other letters, in front
of the name of a command or behind it. Arguments that are accepted are accepted without it too, and
spell the same invocation but for this option (`parse_withoutQuiet`).

The two are read side by side. The option makes the reader look at what is pending, which it looks
at later without the option; so what has been read agrees only up to looking at what is pending
(`Trails`). Nothing can be seen of the difference: whatever comes next looks at it first.
-/

namespace RecordFilter

/-- The same invocation without quiet output. -/
def Invocation.loud (i : Invocation) : Invocation :=
  { i with common := { i.common with quiet := false } }

namespace Arguments

/-! ## Leaving the option out -/

/-- The letters of options but that of quiet output. Behind the letter of an option with a value
stands the value. -/
def lettersWithoutQuiet (level : Level) : List Char → List Char
  | [] => []
  | letter :: rest =>
    match level.byLetter? letter with
    | some (.switch s) =>
      if s = .quiet then lettersWithoutQuiet level rest
      else letter :: lettersWithoutQuiet level rest
    | _ => letter :: rest

/-- What is left of an argument that is no command. -/
def argumentWithoutQuiet (level : Level) (argument : String) : List String :=
  match argument.toList with
  | '-' :: '-' :: _ => if argument = "--quiet" then [] else [argument]
  | '-' :: letter :: letters =>
    match lettersWithoutQuiet level (letter :: letters) with
    | [] => []
    | left => [String.ofList ('-' :: left)]
  | _ => [argument]

/-- Arguments at a level without the option for quiet output. Behind two dashes there are no
options. -/
def withoutQuiet (level : Level) : List String → List String
  | [] => []
  | argument :: rest =>
    if argument = "--" then argument :: rest
    else
      match level.commands.lookup argument with
      | some below => argument :: withoutQuiet below rest
      | none => argumentWithoutQuiet level argument ++ withoutQuiet level rest

/-! ## Looking at what is pending -/

/-- What has been read without the option for quiet output. -/
def Reading.loud (r : Reading) : Reading :=
  { r with switches := r.switches.filter fun s => s ≠ .quiet }

section Reading

variable {level : Level} {r r' after : Reading}

/-- The other switches stay when the one for quiet is taken away. -/
theorem mem_loud {s : Switch} (hs : s ≠ .quiet) : s ∈ r.loud.switches ↔ s ∈ r.switches := by
  simp [Reading.loud, hs]

theorem contains_loud {s : Switch} (hs : s ≠ .quiet) :
    r.loud.switches.contains s = r.switches.contains s := by
  rw [Bool.eq_iff_iff, List.contains_iff_mem, List.contains_iff_mem, mem_loud hs]

/-- The switch for quiet is taken away. -/
theorem contains_quiet_loud : r.loud.switches.contains .quiet = false := by
  simp [Reading.loud]

/-- Looking at a value does not depend on the switches. -/
theorem store_loud {v : Valued} {value : String} (h : r.store v value = .ok after) :
    r.loud.store v value = .ok after.loud := by
  cases store_eq_ok_iff.mp h with
  | input hfirst hvalue => exact store_eq_ok_iff.mpr (.input hfirst hvalue)
  | field hread => exact store_eq_ok_iff.mpr (.field hread)
  | limit hfirst hread => exact store_eq_ok_iff.mpr (.limit hfirst hread)

/-- A value that was stored leaves nothing waiting. -/
theorem idle_store {v : Valued} {value : String} (hidle : r.Idle)
    (h : r.store v value = .ok after) : after.Idle := by
  cases store_eq_ok_iff.mp h <;> exact ⟨hidle.pending, hidle.awaiting⟩

/-- What has been looked at is no longer pending, counts as before, and is looked at in the same
way without the option. -/
structure Settles (level : Level) (r after : Reading) : Prop where
  idle : after.Idle
  count : after.positionalCount = r.positionalCount
  loud : r.loud.settle level = .ok after.loud

/-- Settling leaves nothing pending, and it is the same without the option. -/
theorem settles_of_settle (h : r.settle level = .ok after) : Settles level r after := by
  obtain ⟨switches, input, fields, limit, positionals, pending, awaiting⟩ := r
  match pending with
  | none =>
    cases h
    exact ⟨⟨rfl, rfl⟩, rfl, rfl⟩
  | some (.valued v none) => cases h
  | some (.valued v (some value)) =>
    have hloud := store_loud h
    cases store_eq_ok_iff.mp h <;> exact ⟨⟨rfl, rfl⟩, rfl, hloud⟩
  | some (.positional value) =>
    simp only [Reading.settle, Reading.storePositional] at h
    split_ifs at h with hshell
    cases h
    refine ⟨⟨rfl, rfl⟩, ?_, ?_⟩
    · simp [Reading.positionalCount]
    · simp only [Reading.settle, Reading.storePositional, Reading.loud]
      rw [if_neg hshell]

end Reading

/-! ## Reading side by side -/

/-- What has been read with the option for quiet output, and without it: the same, but what has
been looked at on the one side may be pending on the other. A value can only be awaited where there
are no commands, and then it is awaited on both sides. -/
structure Trails (level : Level) (r r' : Reading) : Prop where
  awaiting : r'.awaiting = r.awaiting
  count : r'.positionalCount = r.positionalCount
  awaited : r.awaiting = true →
    level.commands = [] ∧ (∃ v, r.pending = some (.valued v none)) ∧ r' = r.loud
  settle : ∀ after, r.settle level = .ok after → r'.settle level = .ok after.loud

section Steps

variable {level : Level} {r r' after : Reading}

theorem Trails.of_loud (h : r.awaiting = true →
    level.commands = [] ∧ ∃ v, r.pending = some (.valued v none)) : Trails level r r.loud where
  awaiting := rfl
  count := rfl
  awaited hawaiting := ⟨(h hawaiting).1, (h hawaiting).2, rfl⟩
  settle _ hsettle := (settles_of_settle hsettle).loud

/-- Where nothing waits, the reading without the switch has nothing to catch up with. -/
theorem Trails.of_idle (h : r.awaiting = false) : Trails level r r.loud :=
  .of_loud fun hawaiting => Bool.noConfusion (h.symm.trans hawaiting)

/-- Looking at what is pending brings the two sides together. -/
theorem Trails.of_settle (h : Trails level r r') {step : Reading → Except UsageError Reading}
    (hstep : ∀ between, between.Idle → step between = .ok after →
      step between.loud = .ok after.loud ∧ (after.awaiting = true →
        level.commands = [] ∧ ∃ v, after.pending = some (.valued v none)))
    (hrun : r.settle level >>= step = .ok after) :
    r'.settle level >>= step = .ok after.loud ∧ Trails level after after.loud := by
  obtain ⟨between, hsettle, hafter⟩ := exists_of_bind_eq_ok hrun
  obtain ⟨hloud, hawaited⟩ := hstep between (settles_of_settle hsettle).idle hafter
  rw [bind_of_ok (h.settle between hsettle)]
  exact ⟨hloud, .of_loud hawaited⟩

/-- A reading that is idle waits for nothing. -/
theorem Reading.Idle.not_awaiting {P : Prop} (h : r.Idle) : r.awaiting = true → P :=
  fun hawaiting => Bool.noConfusion (h.awaiting.symm.trans hawaiting)

/-- Another switch is switched on in both readings. -/
theorem switchOn_loud {s : Switch} (hs : s ≠ .quiet) (h : r.switchOn s = .ok after) :
    r.loud.switchOn s = .ok after.loud ∧ after.awaiting = r.awaiting := by
  obtain ⟨hhelp, hversion, hfirst, rfl⟩ := switchOn_eq_ok_iff.mp h
  refine ⟨switchOn_eq_ok_iff.mpr ⟨hhelp, hversion, mt (mem_loud hs).mp hfirst, ?_⟩, rfl⟩
  simp only [Reading.loud, List.filter_cons, decide_eq_true hs, if_true]

/-- Another switch keeps the two readings together. -/
theorem addSwitch_trails (h : Trails level r r') {s : Switch} (hs : s ≠ .quiet)
    (hadd : r.addSwitch level s = .ok after) :
    r'.addSwitch level s = .ok after.loud ∧ Trails level after after.loud := by
  refine h.of_settle (fun between hidle hswitch => ?_) hadd
  obtain ⟨hloud, hawaiting⟩ := switchOn_loud hs hswitch
  exact ⟨hloud, fun hwaits => hidle.not_awaiting (hawaiting ▸ hwaits)⟩

/-- The option itself is left out: what it has made be looked at stays pending. -/
theorem addQuiet_trails (h : Trails level r r') (hadd : r.addSwitch level .quiet = .ok after) :
    Trails level after r' := by
  obtain ⟨between, hsettle, hswitch⟩ := exists_of_bind_eq_ok hadd
  obtain ⟨hidle, hcount, -⟩ := settles_of_settle hsettle
  obtain ⟨-, -, -, hafter⟩ := switchOn_eq_ok_iff.mp hswitch
  have hloud : after.loud = between.loud := by
    rw [hafter]
    rfl
  have hafterIdle : after.Idle := by
    rw [hafter]
    exact ⟨hidle.pending, hidle.awaiting⟩
  refine ⟨?_, ?_, hafterIdle.not_awaiting, ?_⟩
  · -- where a value is awaited the option is refused
    rw [hafterIdle.awaiting, h.awaiting]
    by_contra hwaits
    obtain ⟨-, ⟨v, hpending⟩, -⟩ := h.awaited (Bool.not_eq_false _ ▸ hwaits)
    rw [Reading.settle, hpending] at hsettle
    cases hsettle
  · rw [h.count, ← hcount, hafter]
    rfl
  · intro settled hsettled
    rw [settle_of_idle hafterIdle] at hsettled
    rw [← Except.ok.inj hsettled, hloud]
    exact h.settle between hsettle

/-- An option with a value, or one that waits for it, keeps the two readings together. -/
theorem addValued_trails (h : Trails level r r') (hlevel : level.commands = []) {v : Valued}
    {attached : Option String} (hadd : r.addValued level v attached = .ok after) :
    r'.addValued level v attached = .ok after.loud ∧ Trails level after after.loud := by
  cases attached with
  | none =>
    refine h.of_settle (fun between hidle hawait => ?_) hadd
    cases hawait
    exact ⟨rfl, fun _ => ⟨hlevel, v, rfl⟩⟩
  | some value =>
    refine h.of_settle (fun between hidle hstore => ?_) hadd
    exact ⟨store_loud hstore, (idle_store hidle hstore).not_awaiting⟩

/-- A value without an option keeps the two readings together. -/
theorem addPositional_trails (h : Trails level r r') {optionsOver : Bool} {argument : String}
    (hadd : addPositional level optionsOver r argument = .ok after) :
    addPositional level optionsOver r' argument = .ok after.loud
      ∧ Trails level after after.loud := by
  unfold addPositional at hadd ⊢
  rw [h.count]
  split_ifs at hadd ⊢ with hroom
  refine h.of_settle (fun between hidle hplace => ?_) hadd
  cases hplace
  exact ⟨rfl, hidle.not_awaiting⟩

/-- Whatever an argument without a dash comes to, it keeps the two readings together. -/
theorem addPlain_trails (h : Trails level r r') {argument : String}
    (hadd : addPlain level argument r = .ok after) :
    addPlain level argument r' = .ok after.loud ∧ Trails level after after.loud := by
  cases hawaiting : r.awaiting with
  | true =>
    obtain ⟨-, ⟨v, hpending⟩, rfl⟩ := h.awaited hawaiting
    simp only [addPlain, hawaiting, hpending] at hadd
    cases hadd
    refine ⟨?_, .of_idle rfl⟩
    simp only [addPlain, Reading.loud, hawaiting, hpending]
  | false =>
    simp only [addPlain, hawaiting] at hadd
    simp only [addPlain, h.awaiting, hawaiting]
    exact addPositional_trails h hadd

end Steps

/-! ## Options -/

section Options

variable {level : Level} {r r' after : Reading}

/-- Options with values belong to levels without commands. -/
theorem commands_of_valued {flag : Option Char × String × Flag} (hflag : flag ∈ level.flags)
    {v : Valued} (hv : flag.2.2 = .valued v) : level.commands = [] := by
  have hswitches : ∀ flag ∈ commonFlags, flag.2.2 ≠ .valued v := by simp [commonFlags]
  cases level with
  | program | settings => exact absurd hv (hswitches flag hflag)
  | tokens | parse | filter | showSettings | changeSetting | settingsPath | completions => rfl

/-- An option with a value that is given by name belongs to a level without commands. -/
theorem commands_of_byName? {name : String} {v : Valued}
    (h : level.byName? name = some (.valued v)) : level.commands = [] := by
  obtain ⟨flag, hflag, hv⟩ := Option.map_eq_some_iff.mp h
  exact commands_of_valued (List.mem_of_find?_eq_some hflag) hv

/-- An option with a value that is given by letter belongs to a level without commands. -/
theorem commands_of_byLetter? {letter : Char} {v : Valued}
    (h : level.byLetter? letter = some (.valued v)) : level.commands = [] := by
  obtain ⟨flag, hflag, hv⟩ := Option.map_eq_some_iff.mp h
  exact commands_of_valued (List.mem_of_find?_eq_some hflag) hv

/-- No other name spells the switch. -/
theorem eq_quiet_of_byName? {name : String} (h : level.byName? name = some (.switch .quiet)) :
    name = "quiet" := by
  obtain ⟨flag, hflag, hquiet⟩ := Option.map_eq_some_iff.mp h
  have hname : flag.2.1 = name := by simpa using List.find?_some hflag
  have hall : ∀ flag ∈ level.flags, flag.2.2 = .switch .quiet → flag.2.1 = "quiet" := by
    cases level <;> simp [Level.flags, commonFlags]
  rw [← hname, hall flag (List.mem_of_find?_eq_some hflag) hquiet]

theorem byName?_quiet : level.byName? "quiet" = some (.switch .quiet) := by
  cases level <;> decide

/-- Options by name: that of quiet output is left out, all others stay. -/
theorem addLong_trails (h : Trails level r r') {name : List Char}
    (hadd : addLong level r name = .ok after) :
    name = "quiet".toList ∧ Trails level after r'
      ∨ name ≠ "quiet".toList ∧ addLong level r' name = .ok after.loud
        ∧ Trails level after after.loud := by
  unfold addLong at hadd ⊢
  dsimp only at hadd ⊢
  have hwhole : name.dropWhile (· != '=') = [] → name.takeWhile (· != '=') = name := by
    intro hdrop
    have happend := List.takeWhile_append_dropWhile (p := (· != '=')) (l := name)
    rwa [hdrop, List.append_nil] at happend
  have hbare : name = "quiet".toList →
      level.byName? (String.ofList (name.takeWhile (· != '='))) = some (.switch .quiet) := by
    rintro rfl
    exact byName?_quiet
  split at hadd
  · next v hflag =>
    obtain ⟨hadd', htrails⟩ := addValued_trails h (commands_of_byName? hflag) hadd
    exact .inr ⟨fun hname => Flag.noConfusion (Option.some.inj (hflag.symm.trans (hbare hname))),
      hadd', htrails⟩
  · next s hflag hattached =>
    by_cases hs : s = .quiet
    · subst hs
      refine .inl ⟨?_, addQuiet_trails h hadd⟩
      split at hattached
      · next hdrop =>
        have hname := eq_quiet_of_byName? hflag
        rw [hwhole hdrop] at hname
        rw [← hname, String.toList_ofList]
      · cases hattached
    · obtain ⟨hadd', htrails⟩ := addSwitch_trails h hs hadd
      exact .inr ⟨fun hname =>
          hs (Flag.switch.inj (Option.some.inj (hflag.symm.trans (hbare hname)))), hadd', htrails⟩
  · cases hadd
  · cases hadd

/-- The value that is attached to the letter of an option. -/
def attachedValue : List Char → Option String
  | [] => none
  | '=' :: value => some (String.ofList value)
  | value => some (String.ofList value)

/-- An option with a value takes all letters behind it. -/
theorem addShort_valued {letter : Char} {v : Valued} (rest : List Char)
    (h : level.byLetter? letter = some (.valued v)) :
    addShort level r (letter :: rest) = r.addValued level v (attachedValue rest) := by
  rw [addShort, h]
  dsimp only
  split
  · rfl
  · rfl
  · next hnone hequals => rw [attachedValue.eq_3 rest hnone hequals]

/-- Options by letters: that of quiet output is left out, all others stay. -/
theorem addShort_trails (h : Trails level r r') {letters : List Char}
    (hadd : addShort level r letters = .ok after) :
    ∃ after', addShort level r' (lettersWithoutQuiet level letters) = .ok after'
      ∧ Trails level after after' := by
  induction letters generalizing r r' with
  | nil =>
    obtain rfl := Except.ok.inj hadd
    exact ⟨r', rfl, h⟩
  | cons letter rest ih =>
    unfold lettersWithoutQuiet
    cases hletter : level.byLetter? letter with
    | none =>
      rw [addShort, hletter] at hadd
      cases hadd
    | some flag =>
      cases flag with
      | valued v =>
        rw [addShort_valued rest hletter] at hadd
        obtain ⟨hadd', htrails⟩ := addValued_trails h (commands_of_byLetter? hletter) hadd
        exact ⟨after.loud, (addShort_valued rest hletter).trans hadd', htrails⟩
      | switch s =>
        rw [addShort, hletter] at hadd
        obtain ⟨next, hnext, hrest⟩ := exists_of_bind_eq_ok hadd
        dsimp only
        split_ifs with hs
        · subst hs
          exact ih (addQuiet_trails h hnext) hrest
        · obtain ⟨hnext', htrails⟩ := addSwitch_trails h hs hnext
          obtain ⟨after', hrest', hafter⟩ := ih htrails hrest
          refine ⟨after', ?_, hafter⟩
          rw [addShort, hletter]
          exact (bind_of_ok hnext').trans hrest'

end Options

/-! ## Arguments -/

section Arguments

variable {level : Level} {r r' after : Reading} {i : Invocation} {argument : String}
  {arguments : List String}

/-- A dash is no letter of an option. -/
theorem byLetter?_dash : level.byLetter? '-' = none := by
  cases level <;> decide

/-- An argument with a name is dropped if the name is that of the switch. -/
theorem argumentWithoutQuiet_long {name : List Char} (h : argument.toList = '-' :: '-' :: name) :
    argumentWithoutQuiet level argument = if name = "quiet".toList then [] else [argument] := by
  have hquiet : argument = "--quiet" ↔ name = "quiet".toList := by
    rw [← String.toList_inj, h]
    exact ⟨fun heq => (List.cons.inj (List.cons.inj heq).2).2, fun heq => heq ▸ rfl⟩
  simp only [argumentWithoutQuiet, h, hquiet]

/-- An argument with letters loses the letter of the switch, and is dropped if it was the only one.
-/
theorem argumentWithoutQuiet_short {letter : Char} {letters : List Char}
    (h : argument.toList = '-' :: letter :: letters) (hletter : letter ≠ '-') :
    argumentWithoutQuiet level argument
      = match lettersWithoutQuiet level (letter :: letters) with
        | [] => []
        | left => [String.ofList ('-' :: left)] := by
  rw [argumentWithoutQuiet, h]
  split
  · next heq => exact absurd (List.cons.inj (List.cons.inj heq).2).1 hletter
  · next heq =>
    cases heq
    rfl
  · next hshort => exact absurd rfl (hshort letter letters)

/-- Any other argument stays. -/
theorem argumentWithoutQuiet_plain
    (h : ∀ letter letters, argument.toList ≠ '-' :: letter :: letters) :
    argumentWithoutQuiet level argument = [argument] := by
  unfold argumentWithoutQuiet
  split
  · next heq => exact absurd heq (h _ _)
  · next heq => exact absurd heq (h _ _)
  · rfl

/-- An argument is left out if all that it asks for is quiet output. Otherwise it stays, perhaps
with fewer letters. -/
inductive Leaves (level : Level) (argument : String) (after r' : Reading) : Prop where
  | nothing (hleft : argumentWithoutQuiet level argument = []) (htrails : Trails level after r')
  | option {left : String} {after' : Reading}
    (hleft : argumentWithoutQuiet level argument = [left]) (hdashes : left ≠ "--")
    (hsame : left = argument ∨ left.toList.head? = some '-')
    (hadd : addArgument level false left r' = .ok after') (htrails : Trails level after after')

/-- One argument keeps the two readings together, whichever part of it is left. -/
theorem addArgument_trails (h : Trails level r r') (hdashes : argument ≠ "--")
    (hadd : addArgument level false argument r = .ok after) : Leaves level argument after r' := by
  by_cases hoption : ∃ letter letters, argument.toList = '-' :: letter :: letters
  · obtain ⟨letter, letters, hchars⟩ := hoption
    by_cases hletter : letter = '-'
    · subst hletter
      have hname : letters ≠ [] := by
        rintro rfl
        exact hdashes (String.toList_inj.mp hchars)
      have hleft : argumentWithoutQuiet level argument = _ := argumentWithoutQuiet_long hchars
      rw [addArgument_long hchars hname] at hadd
      rcases addLong_trails h hadd with ⟨hquiet, htrails⟩ | ⟨hquiet, hadd', htrails⟩
      · exact .nothing (hleft.trans (if_pos hquiet)) htrails
      · exact .option (hleft.trans (if_neg hquiet)) hdashes (.inl rfl)
          ((addArgument_long hchars hname).trans hadd') htrails
    · have hleft : argumentWithoutQuiet level argument = _ :=
        argumentWithoutQuiet_short hchars hletter
      rw [addArgument_short hchars hletter] at hadd
      obtain ⟨after', hadd', htrails⟩ := addShort_trails h hadd
      generalize lettersWithoutQuiet level (letter :: letters) = left at hleft hadd'
      cases left with
      | nil =>
        obtain rfl := Except.ok.inj hadd'
        exact .nothing hleft htrails
      | cons first rest =>
        have hfirst : first ≠ '-' := by
          rintro rfl
          rw [addShort, byLetter?_dash] at hadd'
          cases hadd'
        have hchars' : (String.ofList ('-' :: first :: rest)).toList = '-' :: first :: rest :=
          String.toList_ofList
        refine .option hleft (fun heq => hfirst ?_) (.inr (by rw [hchars']; rfl))
          ((addArgument_short hchars' hfirst).trans hadd') htrails
        rw [heq] at hchars'
        exact (List.cons.inj (List.cons.inj hchars').2).1.symm
  · have hplain : ∀ letter letters, argument.toList ≠ '-' :: letter :: letters :=
      fun letter letters hchars => hoption ⟨letter, letters, hchars⟩
    rw [addArgument_plain hplain] at hadd
    obtain ⟨hadd', htrails⟩ := addPlain_trails h hadd
    exact .option (argumentWithoutQuiet_plain hplain) hdashes (.inl rfl)
      ((addArgument_plain hplain).trans hadd') htrails

end Arguments

/-! ## Ends -/

section Ends

variable {level : Level} {r r' : Reading} {i : Invocation}

/-- The command does not depend on the switch. -/
theorem command_loud (level : Level) (r : Reading) : level.command r.loud = level.command r := by
  have hpositionals : r.loud.positionals = r.positionals := rfl
  unfold Level.command
  rw [hpositionals]
  simp only [contains_loud (by decide : Switch.keepWhitespace ≠ .quiet),
    contains_loud (by decide : Switch.ignoreCase ≠ .quiet),
    contains_loud (by decide : Switch.count ≠ .quiet)]
  rfl

/-- Of the options for all commands only the one for quiet is lost. -/
theorem commonOptions_loud (r : Reading) :
    commonOptions r.loud.switches = { commonOptions r.switches with quiet := false } := by
  simp only [commonOptions, contains_quiet_loud,
    contains_loud (by decide : Switch.verbose ≠ .quiet),
    contains_loud (by decide : Switch.json ≠ .quiet),
    contains_loud (by decide : Switch.noColor ≠ .quiet)]

/-- Without the switch there is nothing that it could be in conflict with. -/
theorem checkConflicts_loud (r : Reading) : checkConflicts r.loud = .ok () := by
  rw [checkConflicts, contains_quiet_loud, Bool.and_false, if_neg Bool.false_ne_true]

/-- Both readings end in the same command, but for the switch. -/
theorem finish_trails (h : Trails level r r') (hfinish : finish level r = .ok i) :
    finish level r' = .ok i.loud := by
  rw [finish_eq] at hfinish ⊢
  obtain ⟨after, hsettle, hconclude⟩ := exists_of_bind_eq_ok hfinish
  obtain ⟨_, -, hconclude⟩ := exists_of_bind_eq_ok hconclude
  obtain ⟨command, hcommand, hconclude⟩ := exists_of_bind_eq_ok hconclude
  obtain rfl := Except.ok.inj hconclude
  rw [bind_of_ok (h.settle after hsettle), conclude, checkConflicts_loud, command_loud, hcommand,
    commonOptions_loud]
  rfl

/-! ## Whole rows of arguments -/

variable {arguments : List String}

/-- Behind two dashes no argument is a switch, so both readings see the same. -/
theorem read_trails_of_optionsOver (h : Trails level r r')
    (hread : read level true r arguments = .ok i) : read level true r' arguments = .ok i.loud := by
  induction arguments generalizing r r' with
  | nil =>
    rw [read] at hread ⊢
    exact finish_trails h hread
  | cons argument rest ih =>
    obtain ⟨after, hadd, hrest⟩ := exists_of_bind_eq_ok (by rwa [read] at hread)
    obtain ⟨hadd', htrails⟩ := addPositional_trails h hadd
    rw [read]
    exact (bind_of_ok hadd').trans (ih htrails hrest)

/-- No command is named like an option. -/
theorem lookup_dash {argument : String} (h : argument.toList.head? = some '-') :
    level.commands.lookup argument = none := by
  have hnames : ∀ entry ∈ level.commands, entry.1.toList.head? ≠ some '-' := by
    cases level <;> decide
  refine List.lookup_eq_none_iff.mpr fun entry hentry => bne_iff_ne.mpr ?_
  rintro rfl
  exact hnames entry hentry h

/-- Switches in front of the command and behind it are joined with and without quiet alike. -/
theorem addCommon_loud (outer : CommonOptions) (inner : Invocation) :
    Invocation.addCommon { outer with quiet := false } inner.loud
      = (Invocation.addCommon outer inner).loud := rfl

/-- Reading to the end, by induction on the arguments: a command that one of them names begins the
induction anew at the level below. -/
theorem read_trails (h : Trails level r r') (hread : read level false r arguments = .ok i) :
    read level false r' (withoutQuiet level arguments) = .ok i.loud := by
  induction arguments generalizing level r r' i with
  | nil =>
    rw [read] at hread
    rw [withoutQuiet, read]
    exact finish_trails h hread
  | cons argument rest ih =>
    -- where a value is awaited there are no commands that it could be taken for
    have hnamed : ∀ argument, r.commandNamed? level argument = level.commands.lookup argument := by
      intro argument
      unfold Reading.commandNamed?
      split_ifs with hawaiting
      · rw [(h.awaited hawaiting).1]
        rfl
      · rfl
    have hnamed' : ∀ argument,
        r'.commandNamed? level argument = level.commands.lookup argument := by
      intro argument
      rw [← hnamed, Reading.commandNamed?, Reading.commandNamed?, h.awaiting]
    cases read_cons_eq_ok_iff.mp hread with
    | name hname hinner hsettle hconflicts hinvocation =>
      subst hinvocation
      rw [hnamed] at hname
      have hdashes : argument ≠ "--" := by
        rintro rfl
        rw [lookup_dash (by decide)] at hname
        cases hname
      rw [withoutQuiet, if_neg hdashes, hname, read_cons_eq_ok_iff]
      refine .name ((hnamed' argument).trans hname) (ih (.of_idle rfl) hinner)
        (h.settle _ hsettle) (checkConflicts_loud _) ?_
      rw [commonOptions_loud, addCommon_loud]
    | added hname hhelp hadd hrest =>
      rw [hnamed] at hname
      by_cases hdashes : argument = "--"
      · subst hdashes
        obtain rfl := Except.ok.inj ((addArgument_dashes rfl).symm.trans hadd)
        rw [withoutQuiet, if_pos rfl, read_cons_eq_ok_iff]
        exact .added ((hnamed' _).trans hname) hhelp (addArgument_dashes rfl)
          (read_trails_of_optionsOver h hrest)
      · rw [beq_eq_false_iff_ne.mpr hdashes] at hrest
        rw [withoutQuiet, if_neg hdashes, hname]
        cases addArgument_trails h hdashes hadd with
        | nothing hleft htrails =>
          rw [hleft]
          exact ih htrails hrest
        | option hleft hdashes' hsame hadd' htrails =>
          rw [hleft, List.singleton_append, read_cons_eq_ok_iff]
          have hrest' := ih htrails hrest
          rw [← beq_eq_false_iff_ne.mpr hdashes'] at hrest'
          rcases hsame with rfl | hdash
          · exact .added ((hnamed' _).trans hname) hhelp hadd' hrest'
          · refine .added ((hnamed' _).trans (lookup_dash hdash)) (fun hhelp' => ?_) hadd' hrest'
            rw [hhelp'.1] at hdash
            exact absurd hdash (by decide)

end Ends

/-- Arguments that are accepted spell the same without the option for quiet output, but for this
option. -/
theorem parse_withoutQuiet {arguments : List String} {i : Invocation}
    (h : parse arguments = .ok i) : parse (withoutQuiet .program arguments) = .ok i.loud :=
  read_trails (.of_idle rfl) h

example : withoutQuiet .program ["-q", "filter", "--quiet", "-Iqn", "5", "--", "-q"]
    = ["filter", "-In", "5", "--", "-q"] := by decide

end Arguments
end RecordFilter
