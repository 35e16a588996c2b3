import RecordFilter.Proofs.Record.Input

/-!
# The layout of records

The same records are read from an array as from lines, however the lines end and however many
blank ones stand among them (`OnLines`, `ofText_of_onLines`, `ofText_of_array`). And if a line is
refused, the error names the first such line by its number in the whole text
(`ofText_eq_badLine`). `records_layout` is both together.
-/

namespace RecordFilter.Record

open Json (Nested maxDepth Begins)
open Text (HasLine)

/-! ## Rows on lines -/

/-- What a line ends with. -/
def lineEnds : List (List Char) := [['\n'], ['\r', '\n']]

/-- Whether a line, without its end, is blank. -/
def BlankLine (line : List Char) : Prop :=
  ∀ c ∈ line, Text.isBlank c = true ∧ c ≠ '\n'

/-- A text with these rows on lines of their own, in order, and with any number of blank lines
among them. The last line need not have an end. -/
inductive OnLines : List (List Char) → List Char → Prop where
  | lastBlank {blank : List Char} (hblank : BlankLine blank) : OnLines [] blank
  | lastRow (row : List Char) : OnLines [row] row
  | blank {blank ending : List Char} {rows : List (List Char)} {text : List Char}
    (hblank : BlankLine blank) (hending : ending ∈ lineEnds) (h : OnLines rows text) :
    OnLines rows (blank ++ ending ++ text)
  | row (row : List Char) {ending : List Char} {rows : List (List Char)} {text : List Char}
    (hending : ending ∈ lineEnds) (h : OnLines rows text) :
    OnLines (row :: rows) (row ++ ending ++ text)

/-- A row fits on a line if it has no part of the end of a line, and it is no blank line. -/
structure FitsLine (row : List Char) : Prop where
  feed : '\n' ∉ row
  carriageReturn : '\r' ∉ row
  dark : ∃ c ∈ row, Text.isBlank c = false

/-- A line with its end is the first line, perhaps without a return that belongs to its end. -/
theorem exists_lines_ended {line ending : List Char} (hline : '\n' ∉ line)
    (hending : ending ∈ lineEnds) (text : List Char) :
    ∃ first, Text.lines (line ++ ending ++ text) = first :: Text.lines text
      ∧ (first = line ∨ first = Text.withoutReturn line) := by
  simp only [lineEnds, List.mem_cons, List.not_mem_nil, or_false] at hending
  rcases hending with rfl | rfl
  · refine ⟨Text.withoutReturn line, ?_, Or.inr rfl⟩
    rw [List.append_assoc, List.singleton_append, Text.lines_append hline]
  · refine ⟨line, ?_, Or.inl rfl⟩
    have hsplit : line ++ ['\r', '\n'] ++ text = (line ++ ['\r']) ++ '\n' :: text := by simp
    rw [hsplit, Text.lines_append (by simp [hline]), Text.withoutReturn_append]

theorem BlankLine.notMem {line : List Char} (h : BlankLine line) : '\n' ∉ line := fun hmem =>
  (h _ hmem).2 rfl

/-- Without its blank lines such a text has the rows for its lines. -/
theorem OnLines.filter_lines {rows : List (List Char)} {text : List Char} (h : OnLines rows text)
    (hrows : ∀ row ∈ rows, FitsLine row) :
    ((Text.lines text).filter fun line => !(Text.trim line).isEmpty) = rows := by
  have hdark : ∀ row, FitsLine row → (Text.trim row).isEmpty = false := fun row hrow =>
    Text.trim_isEmpty_eq_false_iff.mpr hrow.dark
  induction h with
  | @lastBlank blank hblank =>
    rw [Text.lines_of_notMem hblank.notMem]
    have htrim : (Text.trim blank).isEmpty = true :=
      Text.trim_isEmpty_iff.mpr fun c hc => (hblank c hc).1
    split
    · rfl
    · simp [htrim]
  | lastRow row =>
    obtain ⟨hrow, -⟩ := List.forall_mem_cons.mp hrows
    have hne : row ≠ [] := by
      rintro rfl
      obtain ⟨c, hc, -⟩ := hrow.dark
      cases hc
    rw [Text.lines_of_notMem hrow.feed, if_neg hne]
    simp [hdark row hrow]
  | @blank blank ending rows text hblank hending h ih =>
    obtain ⟨first, hfirst, hsame⟩ := exists_lines_ended hblank.notMem hending text
    have htrim : (Text.trim first).isEmpty = true := by
      refine Text.trim_isEmpty_iff.mpr fun c hc => (hblank c ?_).1
      rcases hsame with rfl | rfl
      · exact hc
      · exact Text.mem_of_mem_withoutReturn hc
    rw [hfirst, List.filter_cons_of_neg (by simp [htrim])]
    exact ih hrows
  | @row row ending rows text hending h ih =>
    obtain ⟨hrow, hothers⟩ := List.forall_mem_cons.mp hrows
    obtain ⟨first, hfirst, hsame⟩ := exists_lines_ended hrow.feed hending text
    rw [Text.withoutReturn_of_notMem hrow.carriageReturn, or_self] at hsame
    subst hsame
    rw [hfirst, List.filter_cons_of_pos (by simp [hdark first hrow]), ih hothers]

/-- In front of the first row there are only blanks. -/
theorem OnLines.exists_blanks {rows : List (List Char)} {text : List Char} (h : OnLines rows text) :
    ∃ blanks rest, (∀ c ∈ blanks, Text.isBlank c = true)
      ∧ text = blanks ++ (rows.headD [] ++ rest) ∧ (rows = [] → rest = []) := by
  have hends : ∀ ending ∈ lineEnds, ∀ c ∈ ending, Text.isBlank c = true := by
    have hfeed : Text.isBlank '\n' = true := by decide
    have hreturn : Text.isBlank '\r' = true := by decide
    simp [lineEnds, hfeed, hreturn]
  induction h with
  | @lastBlank blank hblank =>
    exact ⟨blank, [], fun c hc => (hblank c hc).1, (List.append_nil _).symm, fun _ => rfl⟩
  | lastRow row => exact ⟨[], [], by simp, by simp, fun _ => rfl⟩
  | @blank blank ending rows text hblank hending h ih =>
    obtain ⟨blanks, rest, hblanks, rfl, hrest⟩ := ih
    refine ⟨blank ++ ending ++ blanks, rest, fun c hc => ?_, by simp, hrest⟩
    rcases List.mem_append.mp hc with hc | hc
    · rcases List.mem_append.mp hc with hc | hc
      · exact (hblank c hc).1
      · exact hends ending hending c hc
    · exact hblanks c hc
  | @row row ending rows text hending h ih =>
    exact ⟨[], ending ++ text, by simp, by simp, by simp⟩

/-! ## Records in either layout -/

/-- The texts of records, each on one line. -/
def rowsOf (records : List Json) : List (List Char) :=
  records.map fun record => record.write.toList

section Layouts

variable {records : List Json}

theorem fitsLine_write {record : Json} (h : Nested maxDepth record) :
    FitsLine record.write.toList := by
  have hcontrol := Json.noControl_write h
  obtain ⟨c, rest, hwrite, hdark, -⟩ := Json.begins_write record
  refine ⟨hcontrol.notMem (by decide), hcontrol.notMem (by decide), c, ?_, hdark⟩
  rw [hwrite]
  exact List.mem_cons_self

/-- Records on lines are read, unless the first of them is an array. -/
theorem ofText_of_onLines {text : String} (h : ∀ record ∈ records, Nested maxDepth record)
    (hfirst : ∀ record ∈ records.head?, ∀ items, record ≠ .array items)
    (htext : OnLines (rowsOf records) text.toList) :
    ofText text = .ok records := by
  have hfilter := htext.filter_lines fun row hrow => by
    obtain ⟨record, hrecord, rfl⟩ := List.mem_map.mp hrow
    exact fitsLine_write (h record hrecord)
  obtain ⟨blanks, rest, hblanks, hsplit, hrest⟩ := htext.exists_blanks
  cases records with
  | nil =>
    obtain rfl := hrest rfl
    have htrim : Text.trimStart text.toList = [] := by
      rw [hsplit, Text.trimStart]
      show (blanks ++ []).dropWhile Text.isBlank = []
      simpa using hblanks
    unfold ofText
    dsimp only
    rw [htrim]
    exact if_pos rfl
  | cons record more =>
    have hbracket := Json.head?_write_ne (hfirst record rfl)
    obtain ⟨c, tail, hwrite, hdark, -⟩ := Json.begins_write record
    rw [hwrite] at hbracket
    rw [rowsOf, List.map_cons, List.headD_cons, hwrite] at hsplit
    rw [ofText_eq_ofLines blanks hsplit hblanks hdark (by simpa using hbracket)]
    exact ofLines_of_filter 1 hfilter h

/-- Records in an array are read, whatever blanks stand before it. -/
theorem ofText_of_array {text : String} {blanks : List Char}
    (h : ∀ record ∈ records, Nested (maxDepth - 1) record)
    (hblanks : ∀ c ∈ blanks, Text.isBlank c = true)
    (htext : text.toList = blanks ++ (Json.write (.array records)).toList) :
    ofText text = .ok records := by
  have hnested : Nested maxDepth (.array records) := .array h
  have htrim : Text.trimStart text.toList = (Json.write (.array records)).toList := by
    rw [htext, Text.trimStart, List.dropWhile_append_of_pos hblanks]
    exact (Json.begins_write (.array records)).trimStart
  have hwrite := Json.toList_write_array records
  unfold ofText
  dsimp only
  rw [htrim, if_neg (by simp [hwrite]), if_pos (by simp [hwrite]), ofArray,
    Json.ofText_write hnested]

end Layouts

/-! ## Refused lines -/

/-- A line that is not blank is refused for what the reader of values says. -/
def Refuses (line : List Char) (cause : JsonError) : Prop :=
  (∃ c ∈ line, Text.isBlank c = false) ∧ Json.ofText line = .error cause

section Refused

variable {line : List Char} {lines : List (List Char)} {number : Nat} {cause : JsonError}
  {error : InputError}

theorem ofLines_cons_of_refuses (h : Refuses line cause) :
    ofLines number (line :: lines) = .error (.badLine number cause) := by
  have htrim := Text.trim_isEmpty_eq_false_iff.mpr h.1
  rw [ofLines, if_neg (by simp [htrim]), h.2]

/-- A line that is not refused leaves it to the lines behind it whether reading fails. -/
theorem ofLines_cons_eq_error_iff (h : ∀ cause, ¬ Refuses line cause) :
    ofLines number (line :: lines) = .error error ↔ ofLines (number + 1) lines = .error error := by
  rw [ofLines]
  split_ifs with hblank
  · rfl
  · cases hline : Json.ofText line with
    | error cause =>
      have hdark := Text.trim_isEmpty_eq_false_iff.mp (Bool.eq_false_iff.mpr hblank)
      exact absurd ⟨hdark, hline⟩ (h cause)
    | ok record =>
      dsimp only
      cases ofLines (number + 1) lines with
      | error other => exact Iff.rfl
      | ok records =>
        constructor
        · intro hok
          cases hok
        · intro hok
          cases hok

/-- Reading lines fails if one of them is refused. -/
theorem ofLines_isError_iff :
    (∃ error, ofLines number lines = .error error)
      ↔ ∃ line ∈ lines, ∃ cause, Refuses line cause := by
  induction lines generalizing number with
  | nil =>
    constructor
    · rintro ⟨error, herror⟩
      cases herror
    · rintro ⟨line, hline, -⟩
      cases hline
  | cons line lines ih =>
    rw [List.exists_mem_cons_iff]
    by_cases hline : ∃ cause, Refuses line cause
    · obtain ⟨cause, hcause⟩ := hline
      exact iff_of_true ⟨_, ofLines_cons_of_refuses hcause⟩ (Or.inl ⟨cause, hcause⟩)
    · have htail : (∃ error, ofLines (number + 1) lines = .error error)
          ↔ ∃ line ∈ lines, ∃ cause, Refuses line cause := ih
      rw [or_iff_right hline, ← htail]
      exact exists_congr fun error => ofLines_cons_eq_error_iff (not_exists.mp hline)

/-- The first refused line is the one that is named, whatever stands behind it. -/
theorem ofLines_append_of_refuses (before after : List (List Char))
    (hbefore : ∀ line ∈ before, ∀ cause, ¬ Refuses line cause) (hline : Refuses line cause) :
    ofLines number (before ++ line :: after)
      = .error (.badLine (number + before.length) cause) := by
  induction before generalizing number with
  | nil => exact ofLines_cons_of_refuses hline
  | cons first before ih =>
    obtain ⟨hfirst, hbefore⟩ := List.forall_mem_cons.mp hbefore
    rw [List.cons_append, ofLines_cons_eq_error_iff hfirst, ih hbefore, List.length_cons,
      Nat.add_right_comm, Nat.add_assoc]

end Refused

section Lines

variable {text : String} {number : Nat} {line : List Char} {cause : JsonError}

/-- A text whose lines are read fails to be read if one of its lines is refused. -/
theorem ofText_isError_iff (hread : ofText text = ofLines 1 (Text.lines text.toList)) :
    (∃ error, ofText text = .error error)
      ↔ ∃ number line cause, HasLine text.toList number line ∧ Refuses line cause := by
  rw [hread, ofLines_isError_iff]
  constructor
  · rintro ⟨line, hline, cause, hcause⟩
    obtain ⟨index, hindex⟩ := List.mem_iff_getElem?.mp hline
    exact ⟨index + 1, line, cause, Text.getElem?_lines_eq_some_iff.mp hindex, hcause⟩
  · rintro ⟨number, line, cause, hline, hcause⟩
    obtain ⟨index, rfl⟩ := hline.exists_eq_succ
    have hindex := Text.getElem?_lines_eq_some_iff.mpr hline
    exact ⟨line, List.mem_of_getElem? hindex, cause, hcause⟩

/-- The error names the first refused line by its number in the text. -/
theorem ofText_eq_badLine (hread : ofText text = ofLines 1 (Text.lines text.toList))
    (hline : HasLine text.toList number line) (hcause : Refuses line cause)
    (hfirst : ∀ earlier < number, ∀ other, HasLine text.toList earlier other →
      ∀ cause, ¬ Refuses other cause) :
    ofText text = .error (.badLine number cause) := by
  obtain ⟨index, rfl⟩ := hline.exists_eq_succ
  have hindex := Text.getElem?_lines_eq_some_iff.mpr hline
  obtain ⟨hlength, hget⟩ := List.getElem?_eq_some_iff.mp hindex
  have hsplit : Text.lines text.toList = (Text.lines text.toList).take index
      ++ line :: (Text.lines text.toList).drop (index + 1) := by
    rw [← hget, List.cons_getElem_drop_succ, List.take_append_drop]
  have hbefore : ∀ other ∈ (Text.lines text.toList).take index, ∀ cause, ¬ Refuses other cause := by
    intro other hother
    obtain ⟨place, hplace⟩ := List.mem_iff_getElem?.mp hother
    rw [List.getElem?_take] at hplace
    split_ifs at hplace with hlt
    exact hfirst (place + 1) (by omega) other (Text.getElem?_lines_eq_some_iff.mp hplace)
  rw [hread, hsplit, ofLines_append_of_refuses _ _ hbefore hcause, List.length_take,
    Nat.min_eq_left hlength.le, Nat.add_comm]

end Lines

/-- **Records do not depend on their layout.** The same records are read from the array of their
texts, whatever blanks stand before it, and from their texts on lines, if the first of them is no
array: with either end of a line, with or without one at the end of the text, and with blank lines
anywhere. Where lines are read at all, reading fails if and only if a line that is not blank is no
value. The error then names the first such line by its number in the text, blank lines counted, and
says what is wrong with it, whatever the lines behind it are. -/
theorem records_layout :
    (∀ records : List Json, (∀ record ∈ records, Nested 126 record) →
        (∀ (text : String) (blanks : List Char), (∀ c ∈ blanks, Text.isBlank c = true) →
            text.toList = blanks ++ '[' :: ([','].intercalate (rowsOf records) ++ [']']) →
              ofText text = .ok records)
          ∧ ∀ text : String, (∀ record ∈ records.head?, ∀ items, record ≠ .array items) →
            OnLines (rowsOf records) text.toList → ofText text = .ok records)
      ∧ ∀ (text : String) (blanks rest : List Char) (c : Char),
        text.toList = blanks ++ c :: rest → (∀ b ∈ blanks, Text.isBlank b = true) →
          Text.isBlank c = false → c ≠ '[' →
        ((∃ error, ofText text = .error error)
            ↔ ∃ number line cause, HasLine text.toList number line ∧ Refuses line cause)
          ∧ ∀ number line cause, HasLine text.toList number line → Refuses line cause →
            (∀ earlier < number, ∀ other, HasLine text.toList earlier other →
              ∀ cause, ¬ Refuses other cause) →
            ofText text = .error (.badLine number cause)
              ∧ (InputError.badLine number cause).message
                = "line " ++ toString number ++ ": " ++ cause.message := by
  refine ⟨fun records h => ⟨fun text blanks hblanks htext => ?_, fun text hfirst htext => ?_⟩,
    fun text blanks rest c htext hblanks hdark hbracket => ?_⟩
  · refine ofText_of_array h hblanks ?_
    rw [htext, Json.toList_write_array, Json.commaText, rowsOf, List.map_map]
    rfl
  · exact ofText_of_onLines (fun record hrecord => (h record hrecord).mono (by decide)) hfirst htext
  · have hread := ofText_eq_ofLines blanks htext hblanks hdark hbracket
    refine ⟨ofText_isError_iff hread, fun number line cause hline hcause hfirst => ⟨?_, rfl⟩⟩
    exact ofText_eq_badLine hread hline hcause hfirst

/-- Two records behind a blank that is none for the reader of values, the same on lines, and a line
behind a blank one that is refused for such a blank. -/
theorem records_layout_mixed :
    let records : List Json := [.object [("a", .null)], .array [.bool true]]
    ofText "\u00a0\n[\x7b\"a\":null\x7d,[true]]" = .ok records
      ∧ ofText "\r\n\u00a0\n\x7b\"a\":null\x7d\r\n\n[true]" = .ok records
      ∧ ofText "\n1\r\n \n\u00a02\nx" = .error (.badLine 4 (.unexpectedCharacter '\u00a0')) := by
  intro records
  have hnested : ∀ record ∈ records, Nested 126 record := by
    refine List.forall_mem_cons.mpr ⟨?_, List.forall_mem_singleton.mpr ?_⟩
    · exact .object (by simp [Keyed.Ordered]) (List.forall_mem_singleton.mpr .null)
    · exact .array (List.forall_mem_singleton.mpr (.bool true))
  obtain ⟨harray, hlines⟩ := records_layout.1 records hnested
  refine ⟨harray _ ['\u00a0', '\n'] ?_ (by decide +kernel), hlines _ ?_ ?_, ?_⟩
  · simp only [List.mem_cons, List.not_mem_nil, or_false]
    rintro c (rfl | rfl) <;> decide
  · intro record hrecord items
    obtain rfl := Option.mem_some_iff.mp hrecord
    exact nofun
  · have htext : "\r\n\u00a0\n\x7b\"a\":null\x7d\r\n\n[true]".toList
        = [] ++ ['\r', '\n'] ++ (['\u00a0'] ++ ['\n']
          ++ ("\x7b\"a\":null\x7d".toList ++ ['\r', '\n']
            ++ ([] ++ ['\n'] ++ "[true]".toList))) := by
      decide +kernel
    have hrows : rowsOf records = ["\x7b\"a\":null\x7d".toList, "[true]".toList] := by
      decide +kernel
    have hblank : BlankLine ['\u00a0'] := by
      refine List.forall_mem_singleton.mpr ⟨by decide, by decide⟩
    rw [htext, hrows]
    exact .blank (by simp [BlankLine]) (by simp [lineEnds]) <| .blank hblank (by simp [lineEnds])
      <| .row _ (by simp [lineEnds]) <| .blank (by simp [BlankLine]) (by simp [lineEnds])
      <| .lastRow _
  · have hall : Text.lines "\n1\r\n \n\u00a02\nx".toList
        = [[], ['1'], [' '], ['\u00a0', '2'], ['x']] := by decide +kernel
    have hgood : (Json.ofText ['1']).toOption.isSome = true := by decide +kernel
    refine ((records_layout.2 _ ['\n'] _ '1' rfl (List.forall_mem_singleton.mpr (by decide))
      (by decide) (by decide)).2 4 ['\u00a0', '2'] _ ?_ ⟨⟨'2', by simp, by decide⟩, rfl⟩ ?_).1
    · exact Text.getElem?_lines_eq_some_iff.mp (by rw [hall]; rfl)
    · intro earlier hearlier other hother cause hrefuses
      obtain ⟨index, rfl⟩ := hother.exists_eq_succ
      have hindex := Text.getElem?_lines_eq_some_iff.mpr hother
      obtain ⟨⟨c, hc, hdark⟩, hcause⟩ := hrefuses
      rw [hall] at hindex
      match index, hindex with
      | 0, hindex =>
        obtain rfl := Option.some.inj hindex
        cases hc
      | 1, hindex =>
        obtain rfl := Option.some.inj hindex
        rw [hcause] at hgood
        cases hgood
      | 2, hindex =>
        obtain rfl := Option.some.inj hindex
        obtain rfl := List.mem_singleton.mp hc
        cases hdark
      | n + 3, _ => omega

end RecordFilter.Record
