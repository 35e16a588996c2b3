import RecordFilter.Proofs.CommandLine.Colors
import RecordFilter.Proofs.CommandLine.Outcome
import RecordFilter.Proofs.Json.Pretty

/-!
# One selection in all modes

A filter selects records, and its modes show the selection in one way or another: line by line, as
one value, or by its size. Which mode it is and how many records are asked for decides neither
whether the filter succeeds nor what it fails with (`cause?_selection_showing`), and a smaller
limit cuts the selection short (`Record.select_prefix`). What is shown as a value reads back as
the selection and its size (`filter_modes`).
-/

namespace RecordFilter

variable {ω : Type}

/-! ## Limits -/

namespace Record

variable {test : Json → Bool} {records : List Json}

theorem select_eq_take (limit : Nat) (test : Json → Bool) (records : List Json) :
    select (some limit) test records = (select none test records).take limit := rfl

/-- A selection under a limit is the front of one under a larger limit. -/
theorem select_prefix {limit larger : Nat} (h : limit ≤ larger) :
    select (some limit) test records <+: select (some larger) test records := by
  rw [select_eq_take, select_eq_take]
  exact List.take_prefix_take_left h

theorem select_prefix_none (limit : Option Nat) :
    select limit test records <+: select none test records := by
  cases limit with
  | none => exact List.prefix_refl _
  | some limit =>
    rw [select_eq_take]
    exact List.take_prefix _ _

end Record

/-! ## Modes -/

/-- The same filter, showing the number of records or not and asking for so many. -/
def FilterOptions.showing (options : FilterOptions) (count : Bool) (limit : Option Nat) :
    FilterOptions :=
  { options with count := count, limit := limit }

section Modes

variable {o : Outside (StateM ω)} {w : ω} {common common' : CommonOptions}
  {options : FilterOptions} {settings : Settings} {layout : OutputOptions} {count : Bool}
  {limit : Option Nat} {text : Except Failure String}

/-- Neither the mode nor the limit makes a filter fail. -/
theorem cause?_selection_showing :
    cause? ((options.showing count limit).selection settings text)
      = cause? (options.selection settings text) := by
  unfold FilterOptions.selection
  show cause? ((options.compile settings).mapError Failure.expression >>= _) = _
  cases options.compile settings with
  | error cause => rfl
  | ok compiled =>
    cases text with
    | error cause => rfl
    | ok input =>
      show cause? ((Record.ofText input).mapError Failure.input >>= _)
        = cause? ((Record.ofText input).mapError Failure.input >>= _)
      cases Record.ofText input <;> rfl

/-- Filters in different modes fail alike. -/
theorem cause?_filterOutcome_showing (ho : o.IsSteady) :
    cause? (filterOutcome o w common' (options.showing count limit))
      = cause? (filterOutcome o w common options) := by
  rw [filterOutcome_eq ho, filterOutcome_eq ho]
  cases settingsIn o w with
  | error cause => rfl
  | ok settings =>
    show cause? (((options.showing count limit).selection settings (options.textIn o w)).map _)
      = cause? ((options.selection settings (options.textIn o w)).map _)
    rw [cause?_map, cause?_map, cause?_selection_showing]

/-! ## Reports as values -/

/-- A number of records is shown exactly. -/
theorem ofNat_of_lt {n : Nat} (h : n < twoTo 64) :
    ∃ fits, Json.ofNat n = .number (.integer n fits) := by
  have fits : Json.fitsWord n = true := by
    have hlow : -(twoTo 63 : Int) ≤ n := by omega
    have hhigh : (n : Int) < twoTo 64 := by exact_mod_cast h
    simp [Json.fitsWord, hlow, hhigh]
  exact ⟨fits, dif_pos fits⟩

theorem ofText_countJson (n : Nat) :
    Json.ofText ((Report.countJson n).pretty ++ "\n").toList = .ok (Report.countJson n) := by
  have hwithin : Json.Within 1 (Report.countJson n) :=
    .object (Json.within_cons (Json.within_ofNat 0 n) Json.within_nil)
  have hkeys : ["count"].Pairwise fun a b => Text.compareText a b = .lt := by decide
  rw [Json.ofText_prettyLine (hwithin.mono (by decide)), Report.countJson,
    Json.inKeyOrder_object_of_ordered, List.map_singleton, Json.inKeyOrder_ofNat]
  exact hkeys

/-- Records that were read are read back from the one value that they are shown as, two levels
deeper than by themselves. -/
theorem readValue_recordsJson {records : List Json}
    (h : ∀ record ∈ records, Json.Nested Json.maxDepth record) :
    Json.readValue (Json.maxDepth + 2) ((Report.recordsJson records).pretty ++ "\n").toList
      = .ok (Report.recordsJson records, ['\n']) := by
  have harray : Json.Within (Json.maxDepth + 1) (.array records) :=
    .array fun record hrecord => (h record hrecord).within
  have hwithin : Json.Within (Json.maxDepth + 1 + 1) (Report.recordsJson records) :=
    .object (Json.within_cons (Json.within_ofNat _ records.length)
      (Json.within_cons harray Json.within_nil))
  have hitems : records.map Json.inKeyOrder = records :=
    (List.map_congr_left fun record hrecord =>
      Json.inKeyOrder_of_nested (h record hrecord)).trans (List.map_id records)
  have hkeys : ["count", "records"].Pairwise fun a b => Text.compareText a b = .lt := by decide
  rw [Json.readValue_prettyLine hwithin, Report.recordsJson,
    Json.inKeyOrder_object_of_ordered, List.map_cons, List.map_singleton, Json.inKeyOrder_ofNat,
    Json.inKeyOrder_array, hitems]
  exact hkeys

/-! ## What the modes show -/

/-- What a filter shows of the records that it selects: `shown json count` is what it comes to in
the mode that these two make. -/
structure ModesShow (shown : Bool → Bool → Except Failure String) (pretty : Bool)
    (matched : List Json) : Prop where
  /-- One record after another, on one line or over several. -/
  lines : shown false false = .ok (String.join (matched.map fun record =>
    (if pretty = true then record.pretty else record.write) ++ "\n"))
  /-- In either form a record is read back as it was. -/
  readable : ∀ record ∈ matched, Json.ofText record.write.toList = .ok record
    ∧ Json.ofText record.pretty.toList = .ok record
  /-- The number of records. -/
  size : shown false true = .ok (toString matched.length ++ "\n")
  /-- One value with the number of records and the records. -/
  value : ∃ text, shown true false = .ok text
    ∧ Json.readValue (Json.maxDepth + 2) text.toList = .ok (.object
      [("count", .ofNat matched.length), ("records", .array matched)], ['\n'])
  /-- A value with the number of records. -/
  sizeValue : ∃ text, shown true true = .ok text
    ∧ Json.ofText text.toList = .ok (.object [("count", .ofNat matched.length)])
  /-- The number stands there exactly. -/
  exact : matched.length < twoTo 64 →
    ∃ fits, Json.ofNat matched.length = .number (.integer matched.length fits)

/-- A filter that has selected records shows these in all its modes. -/
theorem modesShow_of_selection (ho : o.IsSteady) (hsettings : settingsIn o w = .ok settings)
    {matched : List Json} (hnested : ∀ record ∈ matched, Json.Nested Json.maxDepth record)
    (hmatched : ∀ count, (options.showing count limit).selection settings (options.textIn o w)
      = .ok matched)
    (hquiet : common.quiet = false) (hcolors : (layoutIn o common settings w).colors = false) :
    ModesShow (fun json count =>
      filterOutcome o w { common with json := json } (options.showing count limit))
      (settings.pretty.getD false) matched := by
  have hshown : ∀ json count,
      filterOutcome o w { common with json := json } (options.showing count limit)
        = .ok ((options.showing count limit).report ⟨json, false, false⟩
            (settings.pretty.getD false) matched) := by
    intro json count
    have hlayout : layoutIn o { common with json := json } settings w
        = ⟨json, (layoutIn o common settings w).colors, common.quiet⟩ := rfl
    rw [filterOutcome_eq ho, bind_of_ok hsettings, hlayout, hcolors, hquiet]
    show ((options.showing count limit).selection settings (options.textIn o w)).map _ = _
    rw [hmatched count]
    rfl
  exact {
    lines := hshown false false
    readable := fun record hrecord =>
      ⟨Json.ofText_write (hnested record hrecord), Json.ofText_pretty (hnested record hrecord)⟩
    size := hshown false true
    value := ⟨_, hshown true false, readValue_recordsJson hnested⟩
    sizeValue := ⟨_, hshown true true, ofText_countJson matched.length⟩
    exact := ofNat_of_lt }

/-- **All modes of a filter show the same selection.** Neither the mode nor the limit decides
whether a filter succeeds, nor what it fails with. Where it succeeds, it selects the records that
its expression holds of, in their order and each as often as it is there, up to the limit. Without
colours it writes these records one by one, or one value with their number and all of them, or
only their number, as text or as a value. A smaller limit selects the front of what a larger one
does. -/
theorem filter_modes (ho : o.IsSteady) (w : ω) (common : CommonOptions) (options : FilterOptions) :
    (∀ common' count limit, cause? (filterOutcome o w common' (options.showing count limit))
        = cause? (filterOutcome o w common options))
      ∧ ∀ output, filterOutcome o w common options = .ok output →
        ∃ settings compiled text records, settingsIn o w = .ok settings
          ∧ options.compile settings = .ok compiled ∧ options.textIn o w = .ok text
          ∧ Record.ofText text = .ok records
          ∧ let matched := fun limit => Record.select limit compiled.evaluate records
            matched none = compiled.filter records
              ∧ compiled.filter records = records.filter compiled.evaluate
              ∧ (∀ limit, matched (some limit) = (compiled.filter records).take limit)
              ∧ (∀ limit larger, limit ≤ larger → matched (some limit) <+: matched (some larger))
              ∧ (∀ limit, matched limit <+: matched none)
              ∧ ∀ common' limit, common'.quiet = false →
                (layoutIn o common' settings w).colors = false →
                ModesShow (fun json count => filterOutcome o w { common' with json := json }
                  (options.showing count limit)) (settings.pretty.getD false) (matched limit) := by
  refine ⟨fun _ _ _ => cause?_filterOutcome_showing ho, fun output houtput => ?_⟩
  obtain ⟨settings, selected, hsettings, hselected, -⟩ := exists_selection_of_run ho rfl houtput
  obtain ⟨compiled, text, records, hcompile, htext, hrecords, -⟩ := exists_of_selection hselected
  refine ⟨settings, compiled, text, records, hsettings, hcompile, htext, hrecords, rfl, rfl,
    fun _ => rfl, fun _ _ => Record.select_prefix, Record.select_prefix_none, ?_⟩
  intro common' limit hquiet hcolors
  exact modesShow_of_selection ho hsettings
    (fun record hrecord => Record.nested_of_ofText hrecords record
      (Record.forall_of_select record hrecord).1)
    (fun _ => selection_of_read hcompile htext hrecords) hquiet hcolors

end Modes

open Disk (outside)

/-- Two of four items of an array match, and one is asked for first. -/
theorem filter_modes_array :
    let input := "[\x7b\"a\": 2.50\x7d, 7, \x7b\"a\": 0\x7d, \x7b\"a\": 3\x7d]"
    let s : Disk.Surroundings := ⟨[("HOME", "/home")], none, .ok input⟩
    let options : FilterOptions := ⟨"a > 1", none, [], false, some 1, false⟩
    let common : CommonOptions := ⟨false, false, false, true⟩
    let outcome := fun json count limit =>
      filterOutcome (outside s) ⟨[], []⟩ { common with json := json } (options.showing count limit)
    outcome false false (some 1) = .ok "\x7b\"a\":2.5\x7d\n"
      ∧ outcome false true none = .ok "2\n"
      ∧ (∀ json count limit, cause? (outcome json count limit) = none)
      ∧ ∃ records : List Json, ∀ limit,
        ModesShow (fun json count => outcome json count (some limit)) false (records.take limit) := by
  intro input s options common outcome
  have hfirst : outcome false false (some 1) = .ok "\x7b\"a\":2.5\x7d\n" := by decide +kernel
  have hdefault : settingsIn (outside s) ⟨[], []⟩ = .ok .default := by decide +kernel
  obtain ⟨hcause, hmodes⟩ := filter_modes (o := outside s) isSteady_outside ⟨[], []⟩ common options
  obtain ⟨settings, compiled, text, records, hsettings, -, -, -, -, -, htake, -, -, hshow⟩ :=
    hmodes _ hfirst
  obtain rfl : settings = .default := Except.ok.inj (hsettings.symm.trans hdefault)
  refine ⟨hfirst, by decide +kernel, fun json count limit => ?_, compiled.filter records,
    fun limit => ?_⟩
  · rw [hcause { common with json := json } count limit, cause?_eq_none_iff]
    exact ⟨_, hfirst⟩
  · rw [← htake limit]
    exact hshow common (some limit) rfl rfl

end RecordFilter
