import Mathlib
import RecordFilter.CommandLine.Arguments
import RecordFilter.Proofs.Execution

/-!
# Arguments put in behind the name of a command

What is read from arguments does not depend on what was read before, as long as no option is given
twice: to begin with some declarations of fields and some switches is to end with these and what
is read behind them (`Framed`). So arguments that spell a filter still spell it with declarations
put in behind the name of the command, which then stand in front of all others
(`parse_behindCommand`).
-/

namespace RecordFilter

/-- The same filter with further declarations in front of the others, and perhaps disregarding
case. -/
def FilterOptions.behind (options : FilterOptions) (fields : List (String × FieldType))
    (ignoreCase : Bool) : FilterOptions :=
  { options with
    fields := fields ++ options.fields
    ignoreCase := options.ignoreCase || ignoreCase }

namespace Arguments

/-! ## Framed steps -/

/-- What has been read behind some fields and with some switches besides. -/
def Reading.extend (fields : List (String × FieldType)) (switches : List Switch) (r : Reading) :
    Reading :=
  { r with fields := fields ++ r.fields, switches := r.switches ++ switches }

/-- Whether a step of reading keeps the switches that were read, and does the same behind some
fields and with some switches besides, unless it ends with one of these. -/
def Framed (fields : List (String × FieldType)) (switches : List Switch)
    (step : Reading → Except UsageError Reading) : Prop :=
  ∀ r after, step r = .ok after → r.switches ⊆ after.switches
    ∧ (after.switches.Disjoint switches →
      step (r.extend fields switches) = .ok (after.extend fields switches))

section Steps

variable {fields : List (String × FieldType)} {switches : List Switch} {level : Level}
  {step next : Reading → Except UsageError Reading} {r after : Reading}

/-- Framed steps may be taken one behind the other. -/
theorem Framed.bind (h : Framed fields switches step) (hnext : Framed fields switches next) :
    Framed fields switches fun r => step r >>= next := by
  intro r after hrun
  obtain ⟨between, hstep, hrun⟩ := exists_of_bind_eq_ok hrun
  obtain ⟨hkept, hextend⟩ := h r between hstep
  obtain ⟨hkeptNext, hextendNext⟩ := hnext between after hrun
  refine ⟨List.Subset.trans hkept hkeptNext, fun hdisjoint => ?_⟩
  have hbetween := hextend (List.disjoint_of_subset_left hkeptNext hdisjoint)
  exact (bind_of_ok hbetween).trans (hextendNext hdisjoint)

/-- A change that leaves the switches alone, and does not mind what stands in front. -/
theorem framed_ok {change : Reading → Reading}
    (hswitches : ∀ r, (change r).switches = r.switches)
    (hextend : ∀ r, change (r.extend fields switches) = (change r).extend fields switches) :
    Framed fields switches fun r => .ok (change r) := by
  intro r after h
  obtain rfl := Except.ok.inj h
  exact ⟨(hswitches r).symm ▸ List.Subset.refl _, fun _ => congrArg Except.ok (hextend r)⟩

/-- A step that always fails looks at nothing. -/
theorem framed_error (cause : UsageError) : Framed fields switches fun _ => .error cause :=
  fun _ _ h => nomatch h

/-- All that the value of an option can do to what has been read. -/
inductive Stores : Valued → String → Reading → Reading → Prop where
  | input {value : String} {r : Reading} (hfirst : r.input.isSome = false) (hvalue : value ≠ "") :
    Stores .input value r { r with input := some value }
  | field {value : String} {declaration : String × FieldType} {r : Reading}
    (hread : readDeclaration value = .ok declaration) :
    Stores .field value r { r with fields := r.fields ++ [declaration] }
  | limit {value : String} {count : Nat} {r : Reading} (hfirst : r.limit.isSome = false)
    (hread : readCount value = .ok count) :
    Stores .limit value r { r with limit := some count }

/-- A value is stored if there is a place for it that is free. -/
theorem store_eq_ok_iff {v : Valued} {value : String} :
    r.store v value = .ok after ↔ Stores v value r after := by
  constructor
  · intro h
    unfold Reading.store at h
    cases v with
    | input =>
      dsimp only at h
      split_ifs at h with hgiven hempty
      cases h
      exact .input (Bool.eq_false_of_not_eq_true hgiven) hempty
    | field =>
      dsimp only at h
      split at h
      · next hread =>
        cases h
        exact .field hread
      · cases h
    | limit =>
      dsimp only at h
      split_ifs at h with hgiven
      split at h
      · next hread =>
        cases h
        exact .limit (Bool.eq_false_of_not_eq_true hgiven) hread
      · cases h
  · intro h
    cases h with
    | input hfirst hvalue =>
      simp only [Reading.store, hfirst, Bool.false_eq_true, if_false, if_neg hvalue]
    | field hread => simp only [Reading.store, hread]
    | limit hfirst hread =>
      simp only [Reading.store, hfirst, Bool.false_eq_true, if_false, hread]

/-- The fields in front do not keep a value from being stored. -/
theorem framed_store (v : Valued) (value : String) :
    Framed fields switches fun r => r.store v value := by
  intro r after h
  cases store_eq_ok_iff.mp h with
  | input hfirst hvalue =>
    exact ⟨List.Subset.refl _, fun _ => store_eq_ok_iff.mpr (.input hfirst hvalue)⟩
  | field hread =>
    refine ⟨List.Subset.refl _, fun _ => (store_eq_ok_iff.mpr (.field hread)).trans ?_⟩
    simp only [Reading.extend, List.append_assoc]
  | limit hfirst hread =>
    exact ⟨List.Subset.refl _, fun _ => store_eq_ok_iff.mpr (.limit hfirst hread)⟩

/-- A step that looks at a part of what was read, if the frame leaves that part as it is. -/
theorem Framed.lookAt {α : Type} (part : Reading → α) (hpart : ∀ r : Reading,
    part (r.extend fields switches) = part r) {step : α → Reading → Except UsageError Reading}
    (h : ∀ a, Framed fields switches (step a)) :
    Framed fields switches fun r => step (part r) r := by
  intro r after hrun
  obtain ⟨hkept, hextend⟩ := h (part r) r after hrun
  refine ⟨hkept, fun hdisjoint => ?_⟩
  dsimp only
  rw [hpart]
  exact hextend hdisjoint

theorem framed_storePositional (value : String) :
    Framed fields switches fun r => r.storePositional level value := by
  unfold Reading.storePositional
  by_cases hshell : level = .completions ∧ (Shell.ofName? value).isNone
  · simp only [if_pos hshell]
    exact framed_error _
  · simp only [if_neg hshell]
    exact framed_ok (fun _ => rfl) fun _ => rfl

/-- Looks at something as at what is pending. -/
def Reading.settleWith (level : Level) (pending : Option Pending) (r : Reading) :
    Except UsageError Reading :=
  { r with pending := pending }.settle level

/-- What waits for a value is settled the same way behind any fields. -/
theorem framed_settleWith (pending : Option Pending) :
    Framed fields switches fun r => r.settleWith level pending := by
  have hsettled : Framed fields switches fun r =>
      .ok { r with pending := none, awaiting := false } := framed_ok (fun _ => rfl) fun _ => rfl
  match pending with
  | none => exact hsettled
  | some (.valued v none) => exact framed_error _
  | some (.valued v (some value)) => exact hsettled.bind (framed_store v value)
  | some (.positional value) => exact hsettled.bind (framed_storePositional value)

theorem framed_settle : Framed fields switches fun r => r.settle level :=
  Framed.lookAt Reading.pending (fun _ => rfl) framed_settleWith

/-- Adds a switch where nothing is pending. -/
def Reading.switchOn (r : Reading) (s : Switch) : Except UsageError Reading :=
  if s = .help then throw .help
  else if s = .version then throw .version
  else if r.switches.contains s then throw (.conflict s.name)
  else return { r with switches := s :: r.switches }

/-- A switch is switched on once, and neither of those that end the reading. -/
theorem switchOn_eq_ok_iff {s : Switch} : r.switchOn s = .ok after ↔
    s ≠ .help ∧ s ≠ .version ∧ s ∉ r.switches ∧ after = { r with switches := s :: r.switches } := by
  unfold Reading.switchOn
  constructor
  · intro h
    split_ifs at h with hhelp hversion hgiven
    cases h
    exact ⟨hhelp, hversion, fun hmem => hgiven (List.contains_iff_mem.mpr hmem), rfl⟩
  · rintro ⟨hhelp, hversion, hfirst, rfl⟩
    rw [if_neg hhelp, if_neg hversion, if_neg (mt List.contains_iff_mem.mp hfirst)]
    rfl

theorem framed_switchOn (s : Switch) : Framed fields switches fun r => r.switchOn s := by
  intro r after h
  obtain ⟨hhelp, hversion, hfirst, rfl⟩ := switchOn_eq_ok_iff.mp h
  refine ⟨List.subset_cons_self s r.switches, fun hdisjoint => switchOn_eq_ok_iff.mpr
    ⟨hhelp, hversion, fun hmem => ?_, rfl⟩⟩
  rcases List.mem_append.mp hmem with hgiven | hframe
  · exact hfirst hgiven
  · exact hdisjoint List.mem_cons_self hframe

theorem framed_addSwitch (s : Switch) : Framed fields switches fun r => r.addSwitch level s :=
  framed_settle.bind (framed_switchOn s)

/-- An option waits for its value whatever stands in front. -/
theorem framed_addValued (v : Valued) (attached : Option String) :
    Framed fields switches fun r => r.addValued level v attached := by
  cases attached with
  | none => exact framed_settle.bind (framed_ok (fun _ => rfl) fun _ => rfl)
  | some value => exact framed_settle.bind (framed_store v value)

/-- An option by its name. -/
theorem framed_addLong (name : List Char) :
    Framed fields switches fun r => addLong level r name := by
  unfold addLong
  dsimp only
  split
  · exact framed_addValued _ _
  · exact framed_addSwitch _
  · exact framed_error _
  · exact framed_error _

/-- Options by their letters, all in one argument. -/
theorem framed_addShort (letters : List Char) :
    Framed fields switches fun r => addShort level r letters := by
  induction letters with
  | nil => exact framed_ok (fun _ => rfl) fun _ => rfl
  | cons letter rest ih =>
    unfold addShort
    split
    · exact (framed_addSwitch _).bind ih
    · split
      · exact framed_addValued _ _
      · exact framed_addValued _ _
      · exact framed_addValued _ _
    · exact framed_error _

/-- A value without an option. -/
theorem framed_addPositional (optionsOver : Bool) (argument : String) :
    Framed fields switches fun r => addPositional level optionsOver r argument := by
  intro r after h
  have hplace : Framed fields switches fun r => r.settle level >>= fun r =>
      .ok { r with pending := some (.positional argument) } :=
    framed_settle.bind (framed_ok (fun _ => rfl) fun _ => rfl)
  unfold addPositional at h ⊢
  dsimp only at h ⊢
  by_cases hroom : r.positionalCount < level.positionals.length
  · rw [if_pos hroom] at h
    obtain ⟨hkept, hextend⟩ := hplace r after h
    exact ⟨hkept, fun hdisjoint => (if_pos hroom).trans (hextend hdisjoint)⟩
  · rw [if_neg hroom] at h
    cases h

end Steps

/-! ## Arguments of a command -/

/-- Adds an argument that is no option and not the name of a command. -/
def addPlain (level : Level) (argument : String) (r : Reading) : Except UsageError Reading :=
  match r.awaiting, r.pending with
  | true, some (.valued v _) =>
    .ok { r with pending := some (.valued v (some argument)), awaiting := false }
  | _, _ => addPositional level false r argument

/-- Adds an argument where it cannot be the name of a command. -/
def addArgument (level : Level) (optionsOver : Bool) (argument : String) (r : Reading) :
    Except UsageError Reading :=
  if optionsOver then addPositional level true r argument
  else
    match argument.toList with
    | ['-', '-'] => .ok r
    | '-' :: '-' :: name => addLong level r name
    | '-' :: letter :: letters => addShort level r (letter :: letters)
    | _ => addPlain level argument r

/-- The command that an argument names, unless it is the value of an option. -/
def Reading.commandNamed? (r : Reading) (level : Level) (argument : String) : Option Level :=
  if r.awaiting then none else level.commands.lookup argument

/-- Adds arguments where none can be the name of a command. -/
def addArguments (level : Level) : Bool → List String → Reading → Except UsageError Reading
  | _, [], r => .ok r
  | optionsOver, argument :: rest, r => do
    addArguments level (optionsOver || argument == "--") rest
      (← addArgument level optionsOver argument r)

section Leaves

variable {fields : List (String × FieldType)} {switches : List Switch} {level : Level}
  {optionsOver : Bool} {r : Reading}

/-- Two dashes, compared as texts and as characters. -/
theorem beq_dashes (argument : String) :
    (argument == "--") = (argument.toList == ['-', '-']) := by
  rw [Bool.eq_iff_iff, beq_iff_eq, beq_iff_eq, ← String.toList_inj]
  rfl

/-- What is neither an option nor a command is the value that is waited for, or stands on its own.
-/
theorem addPlain_bind {α : Type} (argument : String) (next : Reading → Except UsageError α) :
    addPlain level argument r >>= next
      = match r.awaiting, r.pending with
        | true, some (.valued v _) =>
          next { r with pending := some (.valued v (some argument)), awaiting := false }
        | _, _ => addPositional level false r argument >>= next := by
  unfold addPlain
  split <;> rfl

section Forms

variable {argument : String} {name letters : List Char} {letter : Char}

/-- Two dashes are no argument themselves. -/
theorem addArgument_dashes (h : argument.toList = ['-', '-']) :
    addArgument level false argument r = .ok r := by
  rw [addArgument, h]
  rfl

/-- Two dashes in front of a name. -/
theorem addArgument_long (h : argument.toList = '-' :: '-' :: name) (hname : name ≠ []) :
    addArgument level false argument r = addLong level r name := by
  obtain ⟨c, rest, rfl⟩ := List.exists_cons_of_ne_nil hname
  rw [addArgument, h]
  rfl

/-- One dash in front of letters. -/
theorem addArgument_short (h : argument.toList = '-' :: letter :: letters)
    (hletter : letter ≠ '-') :
    addArgument level false argument r = addShort level r (letter :: letters) := by
  rw [addArgument, h, if_neg Bool.false_ne_true]
  split
  · next heq => exact absurd (List.cons.inj (List.cons.inj heq).2).1 hletter
  · next heq => exact absurd (List.cons.inj (List.cons.inj heq).2).1 hletter
  · next heq =>
    cases heq
    rfl
  · next hshort => exact absurd rfl (hshort letter letters)

/-- No dash, or nothing behind it. -/
theorem addArgument_plain (h : ∀ letter letters, argument.toList ≠ '-' :: letter :: letters) :
    addArgument level false argument r = addPlain level argument r := by
  rw [addArgument, if_neg Bool.false_ne_true]
  split
  · next heq => exact absurd heq (h _ _)
  · next heq => exact absurd heq (h _ _)
  · next heq => exact absurd heq (h _ _)
  · rfl

/-- An argument that is not the name of a command is added. -/
theorem read_cons (rest : List String)
    (hname : r.commandNamed? level argument = none)
    (hhelp : ¬ (argument = "help" ∧ (!level.commands.isEmpty) = true)) :
    read level false r (argument :: rest)
      = addArgument level false argument r >>= fun r => read level (argument == "--") r rest := by
  unfold Reading.commandNamed? at hname
  rw [read, beq_dashes]
  simp only [hname, if_neg hhelp, Bool.false_eq_true, if_false]
  split
  · next hdashes =>
    rw [addArgument_dashes hdashes, hdashes]
    rfl
  · next name hne hlong =>
    rw [addArgument_long hlong hne, hlong]
    obtain ⟨c, name, rfl⟩ := List.exists_cons_of_ne_nil hne
    rfl
  · next letter letters _ hletter hshort =>
    have hne : letter ≠ '-' := hletter
    have hdashes : ('-' :: letter :: letters == ['-', '-']) = false :=
      beq_eq_false_iff_ne.mpr fun heq => hne (List.cons.inj (List.cons.inj heq).2).1
    rw [addArgument_short hshort hne, hshort, hdashes]
  · next hdashes hlong hshort =>
    rw [addArgument_plain hshort, beq_eq_false_iff_ne.mpr hdashes]
    exact (addPlain_bind argument fun r => read level false r rest).symm

end Forms

/-- At a level without commands arguments are added one by one. -/
theorem read_eq_addArguments (h : level.commands = []) (arguments : List String) :
    read level optionsOver r arguments
      = addArguments level optionsOver arguments r >>= finish level := by
  induction arguments generalizing optionsOver r with
  | nil => rw [read]; rfl
  | cons argument rest ih =>
    cases optionsOver with
    | true =>
      rw [read, addArguments, bind_assoc]
      simp only [← ih]
      rfl
    | false =>
      have hname : r.commandNamed? level argument = none := by
        rw [Reading.commandNamed?, h]
        split_ifs <;> rfl
      rw [read_cons rest hname (by simp [h]), addArguments, bind_assoc]
      simp only [ih, Bool.false_or]

/-- An argument without a dash. -/
theorem framed_addPlain (argument : String) :
    Framed fields switches fun r => addPlain level argument r := by
  have hstep : ∀ seen : Bool × Option Pending, Framed fields switches fun r =>
      match seen.1, seen.2 with
      | true, some (.valued v _) =>
        .ok { r with pending := some (.valued v (some argument)), awaiting := false }
      | _, _ => addPositional level false r argument := by
    intro seen
    split
    · exact framed_ok (fun _ => rfl) fun _ => rfl
    · exact framed_addPositional false argument
  exact Framed.lookAt (fun r => (r.awaiting, r.pending)) (fun _ => rfl) hstep

/-- Any argument, by the form that it has. -/
theorem framed_addArgument (argument : String) :
    Framed fields switches (addArgument level optionsOver argument) := by
  unfold addArgument
  cases optionsOver with
  | true => exact framed_addPositional true argument
  | false =>
    simp only [Bool.false_eq_true, if_false]
    split
    · exact framed_ok (fun _ => rfl) fun _ => rfl
    · exact framed_addLong _
    · exact framed_addShort _
    · exact framed_addPlain argument

/-- A row of arguments, by induction. -/
theorem framed_addArguments (arguments : List String) :
    Framed fields switches (addArguments level optionsOver arguments) := by
  induction arguments generalizing optionsOver with
  | nil => exact framed_ok (fun _ => rfl) fun _ => rfl
  | cons argument rest ih => exact (framed_addArgument argument).bind ih

end Leaves

/-! ## Declarations as arguments -/

/-- Whether a name can be declared in an argument as it is. -/
structure Declarable (name : String) : Prop where
  nonempty : name ≠ ""
  trimmed : Text.trim name.toList = name.toList
  noColon : ':' ∉ name.toList

/-- The argument that declares a field. -/
def fieldArgument (field : String × FieldType) : String :=
  "--field=" ++ (field.1 ++ ":" ++ field.2.name)

/-- The arguments that ask for patterns to disregard case, if that is wanted. -/
def caseArguments (ignoreCase : Bool) : List String := if ignoreCase then ["-I"] else []

/-- The switches that ask for it. -/
def caseSwitches (ignoreCase : Bool) : List Switch := if ignoreCase then [.ignoreCase] else []

section Declarations

variable {fields : List (String × FieldType)} {switches : List Switch}

/-- A field as it is declared in an argument is read back. -/
theorem readDeclaration_of_declarable {name : String} (h : Declarable name) (type : FieldType) :
    readDeclaration (name ++ ":" ++ type.name) = .ok (name, type) := by
  have hbefore : ∀ c ∈ name.toList, (c != ':') = true := fun c hc =>
    bne_iff_ne.mpr fun heq => h.noColon (heq ▸ hc)
  have hsplit : splitColon (name ++ ":" ++ type.name).toList
      = some (name.toList, type.name.toList) := by
    have htext : (name ++ ":" ++ type.name).toList = name.toList ++ ':' :: type.name.toList := by
      rw [String.toList_append, String.toList_append, List.append_assoc]
      rfl
    rw [splitColon, htext, List.dropWhile_append_of_pos hbefore,
      List.takeWhile_append_of_pos hbefore]
    simp
  have hname : name.toList.isEmpty = false :=
    List.isEmpty_eq_false_iff.mpr fun hnil => h.nonempty (String.toList_inj.mp hnil)
  have htype : FieldType.ofText? (String.ofList (Text.trim type.name.toList)) = some type := by
    cases type <;> decide +kernel
  rw [readDeclaration, hsplit]
  simp only [h.trimmed, hname, htype, String.ofList_toList, Bool.false_eq_true, if_false]

/-- The argument that declares a field, character by character. -/
theorem toList_fieldArgument (field : String × FieldType) :
    (fieldArgument field).toList
      = '-' :: '-' :: ("field".toList ++ '=' :: (field.1 ++ ":" ++ field.2.name).toList) := by
  rw [fieldArgument, String.toList_append]
  rfl

/-- One argument that declares a field adds it to those that are there. -/
theorem addArgument_fieldArgument {field : String × FieldType} (h : Declarable field.1) :
    addArgument .filter false (fieldArgument field) .start
      = .ok (Reading.start.extend [field] []) := by
  have hbare : ("field".toList ++ '=' :: (field.1 ++ ":" ++ field.2.name).toList).takeWhile
      (· != '=') = "field".toList := rfl
  have hattached : ("field".toList ++ '=' :: (field.1 ++ ":" ++ field.2.name).toList).dropWhile
      (· != '=') = '=' :: (field.1 ++ ":" ++ field.2.name).toList := rfl
  have hlong : addLong .filter .start
      ("field".toList ++ '=' :: (field.1 ++ ":" ++ field.2.name).toList)
      = Reading.start.store .field (field.1 ++ ":" ++ field.2.name) := by
    unfold addLong
    simp only [hbare, hattached, String.ofList_toList]
    rfl
  have hargument : addArgument .filter false (fieldArgument field) .start
      = addLong .filter .start
          ("field".toList ++ '=' :: (field.1 ++ ":" ++ field.2.name).toList) := by
    rw [addArgument, toList_fieldArgument]
    rfl
  rw [hargument, hlong, Reading.store]
  simp only [readDeclaration_of_declarable h field.2]
  rfl

/-- Arguments are read one after the other until two dashes come. -/
theorem addArguments_cons {level : Level} {argument : String} {r after : Reading}
    (rest : List String) (hdashes : (argument == "--") = false)
    (h : addArgument level false argument r = .ok after) :
    addArguments level false (argument :: rest) r = addArguments level false rest after := by
  rw [addArguments, bind_of_ok h, hdashes, Bool.or_false]

/-- A row of such arguments adds all of their fields, in their order. -/
theorem addArguments_fieldArguments {row : List (String × FieldType)}
    (h : ∀ field ∈ row, Declarable field.1) (done : List (String × FieldType))
    (rest : List String) :
    addArguments .filter false (row.map fieldArgument ++ rest) (Reading.start.extend done [])
      = addArguments .filter false rest (Reading.start.extend (done ++ row) []) := by
  induction row generalizing done with
  | nil => rw [List.append_nil, List.map_nil, List.nil_append]
  | cons field row ih =>
    have hdashes : (fieldArgument field == "--") = false := by
      rw [beq_dashes, toList_fieldArgument]
      rfl
    obtain ⟨-, hadd⟩ := framed_addArgument (fieldArgument field) .start _
      (addArgument_fieldArgument (h field List.mem_cons_self))
    have hnext : (Reading.start.extend [field] []).extend done []
        = Reading.start.extend (done ++ [field]) [] := by
      simp [Reading.extend, Reading.start]
    rw [List.map_cons, List.cons_append,
      addArguments_cons _ hdashes (hadd (List.disjoint_nil_right _)), hnext,
      ih (fun other hother => h other (List.mem_cons_of_mem _ hother)), List.append_assoc,
      List.singleton_append]

/-- Declarations put in front of arguments are read first. -/
theorem addArguments_declarations (h : ∀ field ∈ fields, Declarable field.1)
    (ignoreCase : Bool) (rest : List String) :
    addArguments .filter false (fields.map fieldArgument ++ caseArguments ignoreCase ++ rest) .start
      = addArguments .filter false rest
          (Reading.start.extend fields (caseSwitches ignoreCase)) := by
  have hstart : Reading.start = Reading.start.extend [] [] := rfl
  rw [List.append_assoc, hstart, addArguments_fieldArguments h, List.nil_append]
  cases ignoreCase with
  | false => rfl
  | true =>
    have hframed : Framed fields [] (addArgument .filter false "-I") := framed_addArgument "-I"
    obtain ⟨-, hadd⟩ := hframed .start _
      (rfl : addArgument .filter false "-I" .start = .ok (Reading.start.extend [] [.ignoreCase]))
    exact addArguments_cons _ rfl (hadd (List.disjoint_nil_right _))

/-! ## Filters behind declarations -/

/-- Ends the reading where nothing is pending. -/
def conclude (level : Level) (r : Reading) : Except UsageError Invocation := do
  checkConflicts r
  return ⟨commonOptions r.switches, ← level.command r⟩

/-- The end of the arguments settles what waits and then spells the command. -/
theorem finish_eq (level : Level) (r : Reading) :
    finish level r = r.settle level >>= conclude level := rfl

/-- What a filter is spelled by, when it has its expression. -/
theorem command_filter {r : Reading} {expression : String} (h : r.positionals = [expression]) :
    Level.filter.command r = .ok (.filter ⟨expression, r.input, r.fields,
      r.switches.contains .ignoreCase, r.limit, r.switches.contains .count⟩) := by
  unfold Level.command
  simp only [h]

/-- Only the arguments of a filter amount to one. -/
theorem filter_of_command {level : Level} {r : Reading} {options : FilterOptions}
    (h : level.command r = .ok (.filter options)) :
    level = .filter ∧ ∃ expression, r.positionals = [expression]
      ∧ options = ⟨expression, r.input, r.fields, r.switches.contains .ignoreCase, r.limit,
          r.switches.contains .count⟩ := by
  unfold Level.command at h
  split at h
  case h_4 expression hexpression =>
    exact ⟨rfl, expression, hexpression, (Command.filter.inj (Except.ok.inj h)).symm⟩
  case h_9 =>
    split at h <;> cases h
  all_goals cases h

/-- The command behind more fields is that without them, with these in front. -/
theorem conclude_extend {r : Reading} {i : Invocation} {options : FilterOptions}
    (fields : List (String × FieldType)) (ignoreCase : Bool) (h : conclude .filter r = .ok i)
    (hcommand : i.command = .filter options) :
    r.switches.contains .ignoreCase = options.ignoreCase
      ∧ conclude .filter (r.extend fields (caseSwitches ignoreCase))
        = .ok { i with command := .filter (options.behind fields ignoreCase) } := by
  have hcontains : ∀ s : Switch, s ≠ .ignoreCase →
      (r.switches ++ caseSwitches ignoreCase).contains s = r.switches.contains s := by
    intro s hs
    cases ignoreCase <;> simp [caseSwitches, hs]
  have hcase : (r.switches ++ caseSwitches ignoreCase).contains .ignoreCase
      = (r.switches.contains .ignoreCase || ignoreCase) := by
    cases ignoreCase <;> simp [caseSwitches]
  have hcheck : checkConflicts (r.extend fields (caseSwitches ignoreCase)) = checkConflicts r := by
    simp only [checkConflicts, Reading.extend, hcontains .verbose (by decide),
      hcontains .quiet (by decide)]
  have hcommon : commonOptions (r.extend fields (caseSwitches ignoreCase)).switches
      = commonOptions r.switches := by
    simp only [commonOptions, Reading.extend, hcontains .verbose (by decide),
      hcontains .quiet (by decide), hcontains .json (by decide), hcontains .noColor (by decide)]
  obtain ⟨_, hconflicts, h⟩ := exists_of_bind_eq_ok h
  obtain ⟨command, hread, h⟩ := exists_of_bind_eq_ok h
  obtain rfl := Except.ok.inj h
  obtain rfl : command = .filter options := hcommand
  obtain ⟨-, expression, hexpression, rfl⟩ := filter_of_command hread
  have hcommand : Level.filter.command (r.extend fields (caseSwitches ignoreCase))
      = .ok (.filter (FilterOptions.behind ⟨expression, r.input, r.fields,
          r.switches.contains .ignoreCase, r.limit, r.switches.contains .count⟩ fields
          ignoreCase)) := by
    rw [command_filter (r := r.extend fields (caseSwitches ignoreCase)) hexpression]
    simp only [Reading.extend, FilterOptions.behind, hcase, hcontains .count (by decide)]
  refine ⟨rfl, ?_⟩
  rw [conclude, hcheck, bind_of_ok hconflicts, bind_of_ok hcommand, hcommon]
  rfl

/-- Arguments of a filter spell it still with declarations put in front of them. -/
theorem read_filter_declarations (h : ∀ field ∈ fields, Declarable field.1) {ignoreCase : Bool}
    {arguments : List String} {i : Invocation} {options : FilterOptions}
    (hread : read .filter false .start arguments = .ok i) (hcommand : i.command = .filter options)
    (hcase : ignoreCase = true → options.ignoreCase = false) :
    read .filter false .start
        (fields.map fieldArgument ++ caseArguments ignoreCase ++ arguments)
      = .ok { i with command := .filter (options.behind fields ignoreCase) } := by
  have hlevel : Level.filter.commands = [] := rfl
  rw [read_eq_addArguments hlevel] at hread
  obtain ⟨before, hadd, hfinish⟩ := exists_of_bind_eq_ok hread
  rw [finish_eq] at hfinish
  obtain ⟨after, hsettle, hconclude⟩ := exists_of_bind_eq_ok hfinish
  obtain ⟨hgiven, hconclude⟩ := conclude_extend fields ignoreCase hconclude hcommand
  have hdisjoint : after.switches.Disjoint (caseSwitches ignoreCase) := by
    cases ignoreCase with
    | false => exact List.disjoint_nil_right _
    | true =>
      refine List.disjoint_singleton.mpr fun hmem => ?_
      rw [List.contains_iff_mem.mpr hmem, hcase rfl] at hgiven
      cases hgiven
  have hframed : Framed fields (caseSwitches ignoreCase) fun r =>
      addArguments .filter false arguments r >>= fun r => r.settle .filter :=
    (framed_addArguments arguments).bind framed_settle
  obtain ⟨-, hextend⟩ := hframed .start after ((bind_of_ok hadd).trans hsettle)
  rw [read_eq_addArguments hlevel, addArguments_declarations h]
  show addArguments .filter false arguments _ >>= (fun r => r.settle .filter >>= conclude .filter)
    = _
  rw [← bind_assoc, bind_of_ok (hextend hdisjoint), hconclude]

end Declarations

/-! ## Behind the name of a command -/

/-- Arguments with others put in behind the first one that is the name of a command. -/
def behindCommand (extra : List String) : List String → List String
  | [] => []
  | argument :: rest =>
    if (Level.program.commands.lookup argument).isSome then argument :: (extra ++ rest)
    else argument :: behindCommand extra rest

section Program

variable {level : Level} {r after : Reading} {i : Invocation} {options : FilterOptions}

/-- The name of a command moves on to its arguments. -/
theorem read_name {argument : String} {below : Level} (rest : List String)
    (hname : r.commandNamed? level argument = some below) :
    read level false r (argument :: rest)
      = read below false .start rest >>= fun inner => r.settle level >>= fun r =>
          checkConflicts r >>= fun _ =>
          .ok (Invocation.addCommon (commonOptions r.switches) inner) := by
  unfold Reading.commandNamed? at hname
  rw [read]
  simp only [hname]
  rfl

/-- A request for help ends the reading, whatever follows. -/
theorem read_help {argument : String} (rest : List String)
    (hname : r.commandNamed? level argument = none)
    (hhelp : argument = "help" ∧ (!level.commands.isEmpty) = true) :
    read level false r (argument :: rest) = .error (helpOn level rest) := by
  unfold Reading.commandNamed? at hname
  rw [read]
  simp only [hname, if_pos hhelp]
  rfl

/-- How arguments are read from one on that may be an option or the name of a command. -/
inductive ReadsOn (level : Level) (r : Reading) (argument : String) (rest : List String)
    (i : Invocation) : Prop where
  /-- It is the name of a command, and the others are those of the command. -/
  | name {below : Level} {inner : Invocation} {after : Reading}
      (hname : r.commandNamed? level argument = some below)
      (hread : read below false .start rest = .ok inner) (hsettle : r.settle level = .ok after)
      (hconflicts : checkConflicts after = .ok ())
      (hinvocation : i = Invocation.addCommon (commonOptions after.switches) inner)
  /-- It is added to what has been read. -/
  | added {after : Reading} (hname : r.commandNamed? level argument = none)
      (hhelp : ¬ (argument = "help" ∧ (!level.commands.isEmpty) = true))
      (hadd : addArgument level false argument r = .ok after)
      (hread : read level (argument == "--") after rest = .ok i)

/-- Everything that one argument can come to, as a list of cases. -/
theorem read_cons_eq_ok_iff {argument : String} {rest : List String} :
    read level false r (argument :: rest) = .ok i ↔ ReadsOn level r argument rest i := by
  constructor
  · intro h
    cases hname : r.commandNamed? level argument with
    | none =>
      by_cases hhelp : argument = "help" ∧ (!level.commands.isEmpty) = true
      · rw [read_help rest hname hhelp] at h
        cases h
      · rw [read_cons rest hname hhelp] at h
        obtain ⟨after, hadd, hread⟩ := exists_of_bind_eq_ok h
        exact .added hname hhelp hadd hread
    | some below =>
      rw [read_name rest hname] at h
      obtain ⟨inner, hread, h⟩ := exists_of_bind_eq_ok h
      obtain ⟨after, hsettle, h⟩ := exists_of_bind_eq_ok h
      obtain ⟨_, hconflicts, h⟩ := exists_of_bind_eq_ok h
      exact .name hname hread hsettle hconflicts (Except.ok.inj h).symm
  · rintro (⟨hname, hread, hsettle, hconflicts, rfl⟩ | ⟨hname, hhelp, hadd, hread⟩)
    · rw [read_name rest hname, bind_of_ok hread, bind_of_ok hsettle, bind_of_ok hconflicts]
    · rw [read_cons rest hname hhelp, bind_of_ok hadd, hread]

/-- A name spells a command of the level that it is read at. -/
theorem mem_of_commandNamed? {argument : String} {below : Level}
    (h : r.commandNamed? level argument = some below) :
    below ∈ level.commands.map Prod.snd := by
  unfold Reading.commandNamed? at h
  split_ifs at h
  obtain ⟨front, back, hcommands, -⟩ := List.lookup_eq_some_iff.mp h
  simp [hcommands]

theorem ne_program_of_commandNamed? {argument : String} {below : Level}
    (h : r.commandNamed? level argument = some below) : below ≠ .program := by
  have hmem := mem_of_commandNamed? h
  rintro rfl
  cases level <;> simp [Level.commands] at hmem

/-- A filter is spelled by arguments of a filter, or by its name with these behind it. -/
theorem level_of_filter {optionsOver : Bool} {arguments : List String}
    (h : read level optionsOver r arguments = .ok i) (hcommand : i.command = .filter options) :
    level = .filter ∨ level = .program := by
  induction arguments generalizing level optionsOver r i with
  | nil =>
    rw [read, finish_eq] at h
    obtain ⟨after, -, h⟩ := exists_of_bind_eq_ok h
    obtain ⟨_, -, h⟩ := exists_of_bind_eq_ok h
    obtain ⟨command, hread, h⟩ := exists_of_bind_eq_ok h
    obtain rfl := Except.ok.inj h
    obtain rfl : command = .filter options := hcommand
    exact Or.inl (filter_of_command hread).1
  | cons argument rest ih =>
    cases optionsOver with
    | true =>
      rw [read] at h
      obtain ⟨after, -, h⟩ := exists_of_bind_eq_ok h
      exact ih h hcommand
    | false =>
      cases read_cons_eq_ok_iff.mp h with
      | added _ _ _ hread => exact ih hread hcommand
      | name hname hread _ _ hinvocation =>
        subst hinvocation
        have hmem := mem_of_commandNamed? hname
        -- below the program no command has a filter among its own commands
        rcases ih hread hcommand with rfl | rfl <;> cases level <;>
          simp [Level.commands] at hmem ⊢

/-! Up to the name of a command there are switches only. -/

/-- Whether nothing is pending. -/
structure Reading.Idle (r : Reading) : Prop where
  pending : r.pending = none
  awaiting : r.awaiting = false

/-- Where nothing waits there is nothing to be settled. -/
theorem settle_of_idle (hidle : r.Idle) : r.settle level = .ok r := by
  have hsettled : { r with pending := none, awaiting := false } = r := by
    rw [← hidle.pending, ← hidle.awaiting]
  rw [Reading.settle, hidle.pending, hsettled]

/-- A switch does not wait for anything. -/
theorem idle_addSwitch {s : Switch} (hidle : r.Idle) (h : r.addSwitch level s = .ok after) :
    after.Idle := by
  have hswitch : r.addSwitch level s = r.switchOn s := bind_of_ok (settle_of_idle hidle)
  rw [hswitch] at h
  obtain ⟨-, -, -, rfl⟩ := switchOn_eq_ok_iff.mp h
  exact ⟨hidle.pending, hidle.awaiting⟩

/-- The options in front of a command are switches, so none of them takes a value. -/
theorem exists_switch_of_mem {flag : Option Char × String × Flag} (h : flag ∈ commonFlags) :
    ∃ s, flag.2.2 = .switch s := by
  have hswitches : ∀ flag ∈ commonFlags, ∃ s, flag.2.2 = .switch s := by simp [commonFlags]
  exact hswitches flag h

/-- An option in front of a command that is given by name is a switch. -/
theorem exists_switch_of_byName? {name : String} {flag : Flag}
    (h : Level.program.byName? name = some flag) : ∃ s, flag = .switch s := by
  obtain ⟨entry, hentry, rfl⟩ := Option.map_eq_some_iff.mp h
  exact exists_switch_of_mem (List.mem_of_find?_eq_some hentry)

/-- An option in front of a command that is given by letter is a switch. -/
theorem exists_switch_of_byLetter? {letter : Char} {flag : Flag}
    (h : Level.program.byLetter? letter = some flag) : ∃ s, flag = .switch s := by
  obtain ⟨entry, hentry, rfl⟩ := Option.map_eq_some_iff.mp h
  exact exists_switch_of_mem (List.mem_of_find?_eq_some hentry)

theorem idle_addLong {name : List Char} (hidle : r.Idle)
    (h : addLong .program r name = .ok after) : after.Idle := by
  unfold addLong at h
  dsimp only at h
  split at h
  · next v _ hflag =>
    obtain ⟨s, hs⟩ := exists_switch_of_byName? hflag
    cases hs
  · exact idle_addSwitch hidle h
  · cases h
  · cases h

theorem idle_addShort {letters : List Char} (hidle : r.Idle)
    (h : addShort .program r letters = .ok after) : after.Idle := by
  induction letters generalizing r with
  | nil =>
    obtain rfl := Except.ok.inj h
    exact hidle
  | cons letter rest ih =>
    unfold addShort at h
    split at h
    · obtain ⟨next, hnext, h⟩ := exists_of_bind_eq_ok h
      exact ih (idle_addSwitch hidle hnext) h
    · next v hflag =>
      obtain ⟨s, hs⟩ := exists_switch_of_byLetter? hflag
      cases hs
    · cases h

theorem addPositional_program (optionsOver : Bool) (argument : String) :
    addPositional .program optionsOver r argument
      = .error (misplaced .program optionsOver argument) := rfl

/-- In front of the command no argument leaves anything waiting. -/
theorem idle_addArgument {argument : String} (hidle : r.Idle)
    (h : addArgument .program false argument r = .ok after) : after.Idle := by
  rw [addArgument, if_neg Bool.false_ne_true] at h
  split at h
  · obtain rfl := Except.ok.inj h
    exact hidle
  · exact idle_addLong hidle h
  · exact idle_addShort hidle h
  · rw [addPlain, hidle.awaiting] at h
    dsimp only at h
    rw [addPositional_program] at h
    cases h

/-- Arguments without a command spell the introduction. -/
theorem command_of_finish (h : finish .program r = .ok i) : i.command = .introduction := by
  rw [finish_eq] at h
  obtain ⟨after, -, h⟩ := exists_of_bind_eq_ok h
  obtain ⟨_, -, h⟩ := exists_of_bind_eq_ok h
  obtain rfl := Except.ok.inj h
  rfl

/-- Where no option can follow there is no command. -/
theorem command_of_optionsOver {arguments : List String}
    (h : read .program true r arguments = .ok i) : i.command = .introduction := by
  cases arguments with
  | nil =>
    rw [read] at h
    exact command_of_finish h
  | cons argument rest =>
    rw [read, addPositional_program] at h
    cases h

/-- **Declarations may be put in behind the name of the command.** Where arguments spell a filter,
they spell it still with declarations behind its name: these are made before all others. -/
theorem parse_behindCommand {fields : List (String × FieldType)} {ignoreCase : Bool}
    {arguments : List String} (h : parse arguments = .ok i) (hcommand : i.command = .filter options)
    (hfields : ∀ field ∈ fields, Declarable field.1)
    (hcase : ignoreCase = true → options.ignoreCase = false) :
    parse (behindCommand (fields.map fieldArgument ++ caseArguments ignoreCase) arguments)
      = .ok { i with command := .filter (options.behind fields ignoreCase) } := by
  suffices hread : ∀ r : Reading, r.Idle → read .program false r arguments = .ok i →
      read .program false r
          (behindCommand (fields.map fieldArgument ++ caseArguments ignoreCase) arguments)
        = .ok { i with command := .filter (options.behind fields ignoreCase) } from
    hread .start ⟨rfl, rfl⟩ h
  clear h
  intro r hidle h
  -- `r` holds only switches until the name of the command ends the row in front of it.
  induction arguments generalizing r with
  | nil =>
    rw [read] at h
    cases hcommand.symm.trans (command_of_finish h)
  | cons argument rest ih =>
    have hnamed : r.commandNamed? .program argument = Level.program.commands.lookup argument := by
      rw [Reading.commandNamed?, hidle.awaiting, if_neg Bool.false_ne_true]
    cases read_cons_eq_ok_iff.mp h with
    | added hname hhelp hadd hread =>
      rw [behindCommand, ← hnamed, hname, if_neg (by decide), read_cons_eq_ok_iff]
      refine .added hname hhelp hadd ?_
      cases hdashes : argument == "--" with
      | true =>
        rw [hdashes] at hread
        cases hcommand.symm.trans (command_of_optionsOver hread)
      | false =>
        rw [hdashes] at hread
        exact ih _ (idle_addArgument hidle hadd) hread
    | name hname hread hsettle hconflicts hinvocation =>
      subst hinvocation
      have hne := ne_program_of_commandNamed? hname
      obtain rfl := (level_of_filter hread hcommand).resolve_right hne
      rw [behindCommand, ← hnamed, hname, if_pos Option.isSome_some, read_cons_eq_ok_iff]
      exact .name hname (read_filter_declarations hfields hread hcommand hcase) hsettle hconflicts
        rfl

example : behindCommand ["--field=n:number", "-I"] ["--quiet", "f", "--", "n > 1"]
    = ["--quiet", "f", "--field=n:number", "-I", "--", "n > 1"] := by decide

end Program

end Arguments

end RecordFilter
