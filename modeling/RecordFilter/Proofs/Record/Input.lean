import RecordFilter.Proofs.Json.RoundTrip
import RecordFilter.Proofs.Text.Lines
import RecordFilter.Record.Input
import RecordFilter.Report.Records

/-!
# Records read back

Records that are written line by line are read back as they were, as long as the first of them is
no array: a text that begins with a bracket would be taken for one array
(`ofText_recordLines`). Records that were read are fit for being written (`nested_of_ofText`).
-/

namespace RecordFilter

namespace Record

open Json (Nested maxDepth Begins)

/-! ## What is read -/

/-- The records of a text are nested no deeper than the reader of values goes. -/
theorem nested_of_ofLines {number : Nat} {lines : List (List Char)} {records : List Json}
    (h : ofLines number lines = .ok records) : ∀ record ∈ records, Nested maxDepth record := by
  induction lines generalizing number records with
  | nil =>
    cases h
    exact fun _ hrecord => by cases hrecord
  | cons line lines ih =>
    rw [ofLines] at h
    split_ifs at h with hblank
    · exact ih h
    · split at h
      · cases h
      · next record hrecord =>
        obtain ⟨more, hmore, h⟩ := exists_of_bind_eq_ok h
        cases h
        exact List.forall_mem_cons.mpr ⟨Json.nested_of_ofText hrecord, ih hmore⟩

theorem nested_of_ofArray {text : List Char} {records : List Json}
    (h : ofArray text = .ok records) : ∀ record ∈ records, Nested maxDepth record := by
  unfold ofArray at h
  split at h
  · next items hitems =>
    cases h
    cases Json.nested_of_ofText hitems with
    | array hnested => exact fun record hrecord => (hnested record hrecord).mono (by decide)
  · cases h
  · cases h

theorem nested_of_ofText {text : String} {records : List Json} (h : ofText text = .ok records) :
    ∀ record ∈ records, Nested maxDepth record := by
  unfold ofText at h
  dsimp only at h
  split_ifs at h
  · cases h
    exact fun _ hrecord => by cases hrecord
  · exact nested_of_ofArray h
  · exact nested_of_ofLines h

/-! ## What is written -/

section

variable {records : List Json}

theorem trim_isEmpty_of_begins {line : List Char} (h : Begins line) :
    (Text.trim line).isEmpty = false := by
  obtain ⟨c, more, rfl, hblank, -⟩ := h
  exact Text.trim_isEmpty_eq_false_iff.mpr ⟨c, List.mem_cons_self, hblank⟩

/-- Values that are written on lines of their own are read, whatever blank lines there are. -/
theorem ofLines_of_filter {lines : List (List Char)} (number : Nat)
    (hlines : (lines.filter fun line => !(Text.trim line).isEmpty)
      = records.map fun record => record.write.toList)
    (h : ∀ record ∈ records, Nested maxDepth record) : ofLines number lines = .ok records := by
  induction lines generalizing number records with
  | nil =>
    obtain rfl := List.map_eq_nil_iff.mp hlines.symm
    rfl
  | cons line lines ih =>
    by_cases hblank : (Text.trim line).isEmpty = true
    · rw [List.filter_cons_of_neg (by simp [hblank])] at hlines
      rw [ofLines, if_pos hblank, ih _ hlines h]
    · rw [List.filter_cons_of_pos (by simp [hblank])] at hlines
      obtain ⟨record, more, rfl, rfl, hmore⟩ := List.map_eq_cons_iff.mp hlines.symm
      obtain ⟨hrecord, hrecords⟩ := List.forall_mem_cons.mp h
      rw [ofLines, if_neg hblank, Json.ofText_write hrecord]
      dsimp only
      rw [bind_of_ok (ih (number + 1) hmore.symm hrecords)]
      rfl

theorem toList_recordLines (records : List Json) :
    (Report.recordLines false records).toList
      = (records.map fun record => record.write.toList).flatMap fun row => row ++ ['\n'] := by
  rw [Report.recordLines, String.toList_join, List.flatMap_map, List.flatMap_map]
  exact congrArg (List.flatMap · records) (funext fun record => String.toList_append)

/-- Each line of a report on records is a record. -/
theorem lines_recordLines (h : ∀ record ∈ records, Nested maxDepth record) :
    Text.lines (Report.recordLines false records).toList
      = records.map fun record => record.write.toList := by
  rw [toList_recordLines]
  refine Text.lines_flatMap fun row hrow => ?_
  obtain ⟨record, hrecord, rfl⟩ := List.mem_map.mp hrow
  have hcontrol := Json.noControl_write (h record hrecord)
  exact ⟨hcontrol.notMem (by decide), hcontrol.notMem (by decide)⟩

/-- The first character that is no blank decides how a text is read: by its lines. -/
theorem ofText_eq_ofLines {text : String} (blanks : List Char) {rest : List Char} {c : Char}
    (htext : text.toList = blanks ++ c :: rest) (hblanks : ∀ b ∈ blanks, Text.isBlank b = true)
    (hc : Text.isBlank c = false) (hbracket : c ≠ '[') :
    ofText text = ofLines 1 (Text.lines text.toList) := by
  have htrim : Text.trimStart text.toList = c :: rest := by
    rw [htext, Text.trimStart, List.dropWhile_append_of_pos hblanks,
      List.dropWhile_cons_of_neg (by simp [hc])]
  unfold ofText
  dsimp only
  rw [htrim, if_neg (by simp), if_neg (by simpa using hbracket)]

/-- A report on records is read as these records, unless the first of them is an array. -/
theorem ofText_recordLines (h : ∀ record ∈ records, Nested maxDepth record)
    (hfirst : ∀ record ∈ records.head?, ∀ items, record ≠ .array items) :
    ofText (Report.recordLines false records) = .ok records := by
  have hlines := lines_recordLines h
  have htext := toList_recordLines records
  cases records with
  | nil => rfl
  | cons record more =>
    -- the first character of the first record decides how the text is read
    have hbracket := Json.head?_write_ne (hfirst record rfl)
    obtain ⟨c, rest, hwrite, hblank, -⟩ := Json.begins_write record
    rw [hwrite] at hbracket
    rw [List.map_cons, List.flatMap_cons, hwrite] at htext
    rw [ofText_eq_ofLines [] htext (by simp) hblank (by simpa using hbracket), hlines]
    refine ofLines_of_filter 1 (List.filter_eq_self.mpr fun line hline => ?_) h
    obtain ⟨record, -, rfl⟩ := List.mem_map.mp hline
    rw [trim_isEmpty_of_begins (Json.begins_write record)]
    rfl

/-! ## Selecting -/

theorem forall_of_select {limit : Option Nat} {test : Json → Bool} :
    ∀ record ∈ select limit test records, record ∈ records ∧ test record = true := by
  intro record hrecord
  have hfilter : record ∈ records.filter test := by
    cases limit with
    | none => exact hrecord
    | some count => exact List.mem_of_mem_take hrecord
  exact List.mem_filter.mp hfilter

/-- Selecting from what was selected leaves it as it is. -/
theorem select_select (limit : Option Nat) (test : Json → Bool) (records : List Json) :
    select limit test (select limit test records) = select limit test records := by
  have hfilter : (select limit test records).filter test = select limit test records :=
    List.filter_eq_self.mpr fun record hrecord => (forall_of_select record hrecord).2
  cases limit with
  | none => exact hfilter
  | some count =>
    rw [select, hfilter, select]
    exact List.take_of_length_le (List.length_take_le _ _)

end

end Record

end RecordFilter
