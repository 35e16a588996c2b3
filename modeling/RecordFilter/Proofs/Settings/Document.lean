import RecordFilter.Proofs.Toml.Document
import RecordFilter.Proofs.Toml.Order
import RecordFilter.Proofs.Toml.Written
import RecordFilter.Settings.Document

/-!
# Settings documents that are written and read

Settings that are written to a document are read back from it (`ofText_toText`), whatever the
fields are called, as long as the fields stand in the order of their names. Those of settings that
were read do (`ordered_of_ofText`).
-/

namespace RecordFilter.Settings

open Toml (Reads SpellsValue plainly statementsOf keyText)

/-! ## The document of settings -/

/-- The entry that sets a truth value, if it is set. -/
def flagRow (name : String) : Option Bool → List (String × Toml)
  | some value => [(name, .boolean value)]
  | none => []

/-- The entry that declares a field. -/
def fieldRow (field : String × FieldType) : String × Toml := (field.1, .string field.2.name)

/-- The entry that gives the version. -/
def versionRow : String × Toml := ("version", .integer version)

/-- The tables of a document of settings. -/
def tables (s : Settings) : List (String × List (String × Toml)) :=
  [("output", flagRow "color" s.color ++ flagRow "pretty" s.pretty),
    ("filter", flagRow "case_insensitive" s.ignoreCase)]
  ++ if s.fields.isEmpty then [] else [("fields", s.fields.map fieldRow)]

/-! ## Lines -/

section Lines

variable {rest : List Char} {statements : List Toml.Statement}

/-- The words for yes and no are read as what they stand for. -/
theorem spellsValue_booleanText (value : Bool) :
    SpellsValue (booleanText value).toList (.boolean value) := by
  cases value with
  | true => exact Toml.spellsValue_word (by decide) (by decide) (if_pos rfl)
  | false =>
    refine Toml.spellsValue_word (by decide) (by decide) ?_
    rw [Toml.word?, if_neg (by decide)]
    exact if_pos rfl

theorem spellsValue_version : SpellsValue ['1'] (.integer version) := by
  have hmoment : Toml.isMoment ['1'] = false := by decide
  refine Toml.spellsValue_word (by decide) (by decide) ?_
  rw [Toml.word?, if_neg (by decide), if_neg (by decide), hmoment]
  rfl

/-- A type is read from its quoted name. -/
theorem spellsValue_typeName (type : FieldType) :
    SpellsValue ('"' :: (type.name.toList ++ ['"'])) (.string type.name) := by
  have hescape : type.name.toList.flatMap Toml.escapeChar = type.name.toList := by
    cases type <;> decide
  have hvalue := Toml.spellsValue_string (show type.name.toList ≠ [] by cases type <;> decide)
  rwa [hescape, String.ofList_toList] at hvalue

/-- The line of a setting is read as its assignment, and no line as none. -/
theorem reads_flagLine {name : String} (hname : keyText name = name.toList) (value : Option Bool)
    (h : Reads rest statements) :
    Reads ((flagLine name value).toList ++ rest)
      ((flagRow name value).map (.assignment ∘ plainly) ++ statements) := by
  cases value with
  | none => exact h
  | some value =>
    have hline := h.assignment name (spellsValue_booleanText value)
    rw [hname] at hline
    simpa [flagLine, flagRow, plainly] using hline

/-- The lines of the fields are read as their assignments, in their order. -/
theorem reads_fieldLines (fields : List (String × FieldType)) :
    Reads (String.join (fields.map fieldLine)).toList
      ((fields.map fieldRow).map (.assignment ∘ plainly)) := by
  induction fields with
  | nil => exact Reads.nil
  | cons field fields ih =>
    have hline := ih.assignment field.1 (spellsValue_typeName field.2)
    simpa [fieldLine, fieldRow, plainly] using hline

/-- The keys of documents are bare. -/
theorem keyText_eq (key : String)
    (h : key ∈ ["version", "output", "color", "pretty", "filter", "case_insensitive", "fields"]) :
    keyText key = key.toList := by
  revert key
  decide

/-- The section of the fields is read back; it is left out if there are none. -/
theorem reads_fieldsText (fields : List (String × FieldType)) :
    Reads (fieldsText fields).toList
      (statementsOf [] (if fields.isEmpty then [] else [("fields", fields.map fieldRow)])) := by
  unfold fieldsText
  by_cases hempty : fields.isEmpty = true
  · rw [if_pos hempty, if_pos hempty]
    exact Reads.nil
  · rw [if_neg hempty, if_neg hempty]
    have hlines := ((reads_fieldLines fields).header "fields").blankLine
    rw [keyText_eq "fields" (by decide)] at hlines
    simpa [statementsOf] using hlines

/-- What is written is the statements of the document. -/
theorem reads_toText (s : Settings) :
    Reads s.toText.toList (statementsOf [versionRow] s.tables) := by
  have hcase := reads_flagLine (keyText_eq "case_insensitive" (by decide)) s.ignoreCase
    (reads_fieldsText s.fields)
  have hpretty := reads_flagLine (keyText_eq "pretty" (by decide)) s.pretty
    (hcase.header "filter").blankLine
  have hcolor := reads_flagLine (keyText_eq "color" (by decide)) s.color hpretty
  have hall := (hcolor.header "output").blankLine.assignment "version" spellsValue_version
  rw [keyText_eq "version" (by decide), keyText_eq "output" (by decide),
    keyText_eq "filter" (by decide)] at hall
  have hversion : Nat.toDigits 10 version = ['1'] := by decide
  simpa [toText, statementsOf, tables, versionRow, plainly, hversion] using hall

end Lines

/-! ## Reading back -/

/-- The settings of the output are read back from their table. -/
theorem readFlags_output (color pretty : Option Bool) :
    readFlags "output" ["color", "pretty"]
      (some (.table .header (flagRow "color" color ++ flagRow "pretty" pretty)))
      = .ok [color, pretty] := by
  cases color <;> cases pretty <;> rfl

/-- The setting of the filter is read back from its table. -/
theorem readFlags_filter (ignoreCase : Option Bool) :
    readFlags "filter" ["case_insensitive"]
      (some (.table .header (flagRow "case_insensitive" ignoreCase))) = .ok [ignoreCase] := by
  cases ignoreCase <;> rfl

/-- A type is known by its name. -/
theorem exactType?_name (type : FieldType) : exactType? type.name = some type := by
  cases type <;> rfl

/-- The fields are read back from their rows. -/
theorem mapM_readField_fieldRow (fields : List (String × FieldType)) :
    (fields.map fieldRow).mapM readField = .ok fields := by
  induction fields with
  | nil => rfl
  | cons field fields ih =>
    have htype : fieldType? (fieldRow field).2 = some field.2 := exactType?_name field.2
    have hfield : readField (fieldRow field) = .ok field := by
      rw [readField, htype]
      rfl
    rw [List.map_cons, List.mapM_cons, hfield, ih]
    rfl

/-- The entries of the document of settings. -/
def entries (s : Settings) : List (String × Toml) :=
  Keyed.insertAll (s.tables.map fun table => (table.1, .table .header table.2)) [versionRow]

/-- The keys of every table that is written are in order. -/
theorem ordered_of_mem_tables {s : Settings} (h : Keyed.Ordered s.fields)
    {table : String × List (String × Toml)} (htable : table ∈ s.tables) :
    Keyed.Ordered table.2 := by
  have houtput : Keyed.Ordered (flagRow "color" s.color ++ flagRow "pretty" s.pretty) := by
    have hcompare : Text.compareText "color" "pretty" = .lt := by decide
    cases s.color <;> cases s.pretty <;> simp [flagRow, Keyed.Ordered, hcompare]
  have hfilter : Keyed.Ordered (flagRow "case_insensitive" s.ignoreCase) := by
    cases s.ignoreCase <;> simp [flagRow, Keyed.Ordered]
  have hfields : Keyed.Ordered (s.fields.map fieldRow) :=
    Keyed.ordered_of_map_fst h (List.map_map ..)
  unfold tables at htable
  rcases List.mem_append.mp htable with htable | htable
  · simp only [List.mem_cons, List.not_mem_nil, or_false] at htable
    rcases htable with rfl | rfl
    · exact houtput
    · exact hfilter
  · split at htable
    · cases htable
    · rwa [List.mem_singleton.mp htable]

theorem map_fst_tables (s : Settings) :
    s.tables.map Prod.fst
      = ["output", "filter"] ++ if s.fields.isEmpty then [] else ["fields"] := by
  unfold tables
  split <;> rfl

/-- The text of the settings is read back as the document that was written. -/
theorem toml_ofText_toText {s : Settings} (h : Keyed.Ordered s.fields) :
    Toml.ofText s.toText = .ok s.entries := by
  have hmark : Toml.withoutMark s.toText.toList = s.toText.toList := by
    obtain ⟨rest, hrest⟩ : ∃ rest, s.toText.toList = 'v' :: rest := by simp [toText]
    rw [hrest]
    rfl
  have hread := reads_toText s (s.toText.toList.length + 1) (Nat.le_succ _)
  rw [Toml.ofText, hmark]
  show (Toml.readStatements (s.toText.toList.length + 1) s.toText.toList >>= Toml.ofStatements) = _
  rw [hread]
  refine Toml.ofStatements_statementsOf (List.pairwise_singleton _ _)
    (fun table htable => ordered_of_mem_tables h htable) ?_ ?_
  · intro table htable
    have hkey : table.1 ∈ s.tables.map Prod.fst := List.mem_map_of_mem htable
    refine Keyed.find?_eq_none fun entry hentry heq => ?_
    rw [← heq, List.mem_singleton.mp hentry, map_fst_tables] at hkey
    revert hkey
    split <;> decide
  · rw [map_fst_tables]
    split <;> decide

/-- What stands under a key of the document. -/
theorem find?_entries (s : Settings) (key : String) :
    Keyed.find? key s.entries = if "fields" = key ∧ s.fields.isEmpty = false then
        some (.table .header (s.fields.map fieldRow))
      else if "filter" = key then
        some (.table .header (flagRow "case_insensitive" s.ignoreCase))
      else if "output" = key then
        some (.table .header (flagRow "color" s.color ++ flagRow "pretty" s.pretty))
      else if "version" = key then some (.integer version)
      else none := by
  unfold entries tables
  cases s.fields.isEmpty with
  | true => simp [Keyed.insertAll, Keyed.find?_insert, Keyed.find?, versionRow]
  | false => simp [Keyed.insertAll, Keyed.find?_insert, Keyed.find?, versionRow]

/-- Settings are read from their document. -/
theorem ofText_toText {s : Settings} (h : Keyed.Ordered s.fields) : ofText s.toText = .ok s := by
  have hversion : Keyed.find? "version" s.entries = some (.integer version) := by
    simp [find?_entries]
  have houtput : Keyed.find? "output" s.entries
      = some (.table .header (flagRow "color" s.color ++ flagRow "pretty" s.pretty)) := by
    simp [find?_entries]
  have hfilter : Keyed.find? "filter" s.entries
      = some (.table .header (flagRow "case_insensitive" s.ignoreCase)) := by
    simp [find?_entries]
  have hfields : readFields (Keyed.find? "fields" s.entries) = .ok s.fields := by
    rw [find?_entries]
    cases hempty : s.fields.isEmpty with
    | true =>
      rw [List.isEmpty_iff.mp hempty]
      rfl
    | false => exact mapM_readField_fieldRow s.fields
  rw [ofText, toml_ofText_toText h]
  show ofEntries s.entries = _
  rw [ofEntries, hversion, houtput, hfilter, hfields, readFlags_output, readFlags_filter]
  rfl

/-! ## The order of fields -/

/-- Reading the fields keeps their names. -/
theorem map_fst_of_mapM_readField {rows : List (String × Toml)}
    {fields : List (String × FieldType)} (h : rows.mapM readField = .ok fields) :
    fields.map Prod.fst = rows.map Prod.fst := by
  induction rows generalizing fields with
  | nil =>
    cases h
    rfl
  | cons row rows ih =>
    rw [List.mapM_cons] at h
    obtain ⟨field, hfield, hrest⟩ := exists_of_bind_eq_ok h
    obtain ⟨more, hmore, hall⟩ := exists_of_bind_eq_ok hrest
    have hname : field.1 = row.1 := by
      unfold readField at hfield
      split at hfield
      · cases hfield
        rfl
      · cases hfield
    cases hall
    rw [List.map_cons, List.map_cons, ih hmore, hname]

/-- The fields of settings that were read stand in the order of their names. -/
theorem ordered_of_ofText {text : String} {s : Settings} (h : ofText text = .ok s) :
    Keyed.Ordered s.fields := by
  unfold ofText at h
  split at h
  · next entries hentries =>
    have htidy := Toml.tidy_of_ofText hentries
    obtain ⟨_, -, h⟩ := exists_of_bind_eq_ok h
    obtain ⟨output, -, h⟩ := exists_of_bind_eq_ok h
    obtain ⟨filter, -, h⟩ := exists_of_bind_eq_ok h
    obtain ⟨fields, hfields, h⟩ := exists_of_bind_eq_ok h
    cases h
    show Keyed.Ordered fields
    unfold readFields at hfields
    split at hfields
    · cases hfields
      exact Keyed.ordered_nil
    · next hfind =>
      exact Keyed.ordered_of_map_fst (htidy.find? hfind) (map_fst_of_mapM_readField hfields)
    · cases hfields
  · cases h

end RecordFilter.Settings
