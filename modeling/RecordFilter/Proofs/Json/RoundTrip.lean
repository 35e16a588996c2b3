import RecordFilter.Json.Writer
import RecordFilter.Proofs.Json.Number
import RecordFilter.Proofs.Text.Keyed
import RecordFilter.Text.Blank

/-!
# What is written is read back

A value that was read is nested no deeper than the reader allows, and its objects stand in key
order (`nested_of_ofText`). Such a value, written on one line, is read back as it was
(`ofText_write`), and its text has no control character in it (`noControl_write`).
-/

namespace RecordFilter.Json

/-! ## Strings -/

theorem hexValue?_hexDigit : ∀ n < 16, Text.hexValue? (Text.hexDigit n) = some n := by
  decide

section

variable {e c : Char} {text chars rest : List Char} {width : Nat}

/-- The closing quote ends a text. -/
theorem readString_quote (rest : List Char) : readString ('"' :: rest) = .ok ([], rest) := by
  rw [readString.eq_def]
  rfl

/-- An escape sequence stands for one character, in front of those that follow. -/
theorem readString_escaped (hescape : escape e text = .ok (c, width))
    (h : readString (text.drop width) = .ok (chars, rest)) :
    readString ('\\' :: e :: text) = .ok (c :: chars, rest) := by
  rw [readString.eq_def]
  simp only [Char.reduceEq, if_false, if_true, hescape, h]

/-- Any other character stands for itself. -/
theorem readString_plain (hquote : c ≠ '"') (hslash : c ≠ '\\') (hcontrol : ¬c.toNat < 0x20)
    (h : readString text = .ok (chars, rest)) :
    readString (c :: text) = .ok (c :: chars, rest) := by
  rw [readString.eq_def]
  simp only [hquote, hslash, hcontrol, if_false, h]

/-- A control character is read from its number. -/
theorem unicodeEscape_hexDigit (hcontrol : c.toNat < 0x20) (text : List Char) :
    unicodeEscape ('0' :: '0' :: Text.hexDigit (c.toNat / 16) :: Text.hexDigit (c.toNat % 16)
      :: text) = .ok (c, 4) := by
  have hzero : Text.hexValue? '0' = some 0 := by decide
  have hhigh := hexValue?_hexDigit (c.toNat / 16) (by omega)
  have hlow := hexValue?_hexDigit (c.toNat % 16) (by omega)
  have hsum : c.toNat / 16 * 16 + c.toNat % 16 = c.toNat := Nat.div_add_mod' _ _
  have hunit : hexUnit? ('0' :: '0' :: Text.hexDigit (c.toNat / 16)
      :: Text.hexDigit (c.toNat % 16) :: text) = some c.toNat := by
    simp [hexUnit?, hzero, hhigh, hlow, hsum]
  have hhalves : ¬(0xDC00 ≤ c.toNat ∧ c.toNat ≤ 0xDFFF)
      ∧ ¬(0xD800 ≤ c.toNat ∧ c.toNat ≤ 0xDBFF) := by
    omega
  simp only [unicodeEscape, hunit, if_neg hhalves.1, if_neg hhalves.2, Char.ofNat_toNat]

/-- A character is read from what it is written as. -/
theorem readString_escapeChar (c : Char) (h : readString text = .ok (chars, rest)) :
    readString (escapeChar c ++ text) = .ok (c :: chars, rest) := by
  unfold escapeChar
  split_ifs with hquote hslash hline hreturn htab hback hfeed hcontrol
  · have hescape : escape '"' text = .ok ('"', 0) := rfl
    rw [hquote]
    exact readString_escaped hescape h
  · have hescape : escape '\\' text = .ok ('\\', 0) := rfl
    rw [hslash]
    exact readString_escaped hescape h
  · have hescape : escape 'n' text = .ok ('\n', 0) := rfl
    rw [hline]
    exact readString_escaped hescape h
  · have hescape : escape 'r' text = .ok ('\r', 0) := rfl
    rw [hreturn]
    exact readString_escaped hescape h
  · have hescape : escape 't' text = .ok ('\t', 0) := rfl
    rw [htab]
    exact readString_escaped hescape h
  · have hescape : escape 'b' text = .ok ('\x08', 0) := rfl
    rw [hback]
    exact readString_escaped hescape h
  · have hescape : escape 'f' text = .ok ('\x0c', 0) := rfl
    rw [hfeed]
    exact readString_escaped hescape h
  -- the other control characters are written by their numbers
  · have hescape : escape 'u' ('0' :: '0' :: Text.hexDigit (c.toNat / 16)
        :: Text.hexDigit (c.toNat % 16) :: text) = .ok (c, 4) :=
      unicodeEscape_hexDigit hcontrol text
    exact readString_escaped hescape h
  · exact readString_plain hquote hslash hcontrol h

end

/-- A text is read from what it is written as. -/
theorem readString_flatMap (chars rest : List Char) :
    readString (chars.flatMap escapeChar ++ '"' :: rest) = .ok (chars, rest) := by
  induction chars with
  | nil => exact readString_quote rest
  | cons c chars ih =>
    rw [List.flatMap_cons, List.append_assoc]
    exact readString_escapeChar c ih

/-- A quoted text character by character. -/
theorem toList_quote (text : String) :
    (quote text).toList = '"' :: (text.toList.flatMap escapeChar ++ ['"']) :=
  String.toList_ofList

/-! ## Values that can be read -/

/-- Whether arrays and objects are nested at most so many levels deep in a value, and the members
of every object stand in key order. -/
inductive Nested : Nat → Json → Prop where
  | null {levels : Nat} : Nested levels .null
  | bool {levels : Nat} (value : Bool) : Nested levels (.bool value)
  | number {levels : Nat} (value : JsonNumber) : Nested levels (.number value)
  | string {levels : Nat} (value : String) : Nested levels (.string value)
  | array {levels : Nat} {items : List Json} (hitems : ∀ item ∈ items, Nested levels item) :
    Nested (levels + 1) (.array items)
  | object {levels : Nat} {members : List (String × Json)} (hordered : Keyed.Ordered members)
    (hmembers : ∀ entry ∈ members, Nested levels entry.2) : Nested (levels + 1) (.object members)

section

variable {readValue : Reading Json} {P : Json → Prop}
  (hvalue : ∀ text value rest, readValue text = .ok (value, rest) → P value)

include hvalue

/-- What is true of every value that is read is true of the items of an array. -/
theorem forall_of_readItems {steps : Nat} {text rest : List Char} {items : List Json}
    (h : readItems readValue steps text = .ok (items, rest)) : ∀ item ∈ items, P item := by
  induction steps generalizing text items with
  | zero => cases h
  | succ steps ih =>
    rw [readItems] at h
    obtain ⟨⟨item, behind⟩, hitem, h⟩ := exists_of_bind_eq_ok h
    dsimp only at h
    split at h
    · cases h
    · split_ifs at h
      · obtain ⟨⟨more, last⟩, hmore, h⟩ := exists_of_bind_eq_ok h
        cases h
        exact List.forall_mem_cons.mpr ⟨hvalue _ _ _ hitem, ih hmore⟩
      · cases h
        exact List.forall_mem_singleton.mpr (hvalue _ _ _ hitem)

/-- What holds of everything that the values are read as holds of all of them. -/
theorem forall_of_readMembers {steps : Nat} {text rest : List Char}
    {members : List (String × Json)} (h : readMembers readValue steps text = .ok (members, rest)) :
    ∀ entry ∈ members, P entry.2 := by
  induction steps generalizing text members with
  | zero => cases h
  | succ steps ih =>
    rw [readMembers] at h
    obtain ⟨⟨key, colon⟩, -, h⟩ := exists_of_bind_eq_ok h
    obtain ⟨⟨value, behind⟩, hread, h⟩ := exists_of_bind_eq_ok h
    dsimp only at h
    split at h
    · cases h
    · split_ifs at h
      · obtain ⟨⟨more, last⟩, hmore, h⟩ := exists_of_bind_eq_ok h
        cases h
        exact List.forall_mem_cons.mpr ⟨hvalue _ _ _ hread, ih hmore⟩
      · cases h
        exact List.forall_mem_singleton.mpr (hvalue _ _ _ hread)

end

section

variable {readValue : Reading Json} {levels : Nat}
  (hvalue : ∀ text value rest, readValue text = .ok (value, rest) → Nested levels value)

include hvalue

/-- An array is nested one level deeper than its items may be. -/
theorem nested_of_readArray {text rest : List Char} {value : Json}
    (h : readArray readValue text = .ok (value, rest)) : Nested (levels + 1) value := by
  unfold readArray at h
  split at h
  · cases h
    exact .array fun _ hitem => by cases hitem
  · obtain ⟨⟨items, last⟩, hitems, h⟩ := exists_of_bind_eq_ok h
    cases h
    exact .array (forall_of_readItems hvalue hitems)

/-- An object is nested one level deeper than its values may be. -/
theorem nested_of_readObject {text rest : List Char} {value : Json}
    (h : readObject readValue text = .ok (value, rest)) : Nested (levels + 1) value := by
  unfold readObject at h
  split at h
  · cases h
    exact .object Keyed.ordered_nil fun _ hentry => by cases hentry
  -- the members are put in order as they are read, so what was read is in order in any case
  · obtain ⟨⟨members, last⟩, hmembers, h⟩ := exists_of_bind_eq_ok h
    cases h
    have hall := forall_of_readMembers hvalue hmembers
    refine .object (Keyed.ordered_nil.insertAll) fun entry hentry => ?_
    rcases Keyed.mem_insertAll hentry with hentry | hentry
    · exact hall entry hentry
    · cases hentry

end

theorem eq_of_readWord {word text rest : List Char} {value value' : Json}
    (h : readWord word value text = .ok (value', rest)) : value' = value := by
  unfold readWord at h
  split_ifs at h
  cases h
  rfl

/-- What is nested is read with an inner reader, what is not is nested at any level. -/
theorem nested_of_readValueWith {inner : Option (Reading Json)} {levels : Nat}
    (hinner : ∀ readValue ∈ inner, ∃ below, levels = below + 1
      ∧ ∀ text value rest, readValue text = .ok (value, rest) → Nested below value)
    {text rest : List Char} {value : Json}
    (h : readValueWith inner text = .ok (value, rest)) : Nested levels value := by
  unfold readValueWith at h
  split at h
  · cases h
  · split_ifs at h
    · rw [eq_of_readWord h]
      exact .null
    · rw [eq_of_readWord h]
      exact .bool true
    · rw [eq_of_readWord h]
      exact .bool false
    · obtain ⟨⟨chars, last⟩, -, h⟩ := exists_of_bind_eq_ok h
      cases h
      exact .string _
    · obtain ⟨⟨number, last⟩, -, h⟩ := exists_of_bind_eq_ok h
      cases h
      exact .number _
    · split at h
      · next readValue =>
        obtain ⟨below, rfl, hvalue⟩ := hinner readValue rfl
        exact nested_of_readArray hvalue h
      · cases h
    · split at h
      · next readValue =>
        obtain ⟨below, rfl, hvalue⟩ := hinner readValue rfl
        exact nested_of_readObject hvalue h
      · cases h

/-- A value that is read is nested at most as deep as the reader goes. -/
theorem nested_of_readValue {levels : Nat} {text rest : List Char} {value : Json}
    (h : readValue levels text = .ok (value, rest)) : Nested levels value := by
  induction levels generalizing text value rest with
  | zero => exact nested_of_readValueWith (fun _ hinner => by cases hinner) h
  | succ levels ih =>
    refine nested_of_readValueWith (fun readValue hinner => ⟨levels, rfl, ?_⟩) h
    obtain rfl := Option.mem_some.mp hinner
    exact fun _ _ _ => ih

/-- No text is read as a value that is nested deeper than the limit. -/
theorem nested_of_ofText {text : List Char} {value : Json} (h : ofText text = .ok value) :
    Nested maxDepth value := by
  obtain ⟨⟨value', rest⟩, hread, h⟩ := exists_of_bind_eq_ok h
  dsimp only at h
  split_ifs at h
  cases h
  exact nested_of_readValue hread

/-! ## Written values -/

/-- The items of an array are written one by one. -/
theorem writeItems_eq_map (items : List Json) : writeItems items = items.map write := by
  induction items with
  | nil => rw [writeItems, List.map_nil]
  | cons item items ih => rw [writeItems, ih, List.map_cons]

/-- A member on one line. -/
def writeMember (entry : String × Json) : String := quote entry.1 ++ ":" ++ write entry.2

/-- So are the members of an object, each with its key. -/
theorem writeMembers_eq_map (members : List (String × Json)) :
    writeMembers members = members.map writeMember := by
  induction members with
  | nil => rw [writeMembers, List.map_nil]
  | cons entry members ih => rw [writeMembers, ih, List.map_cons, writeMember]

/-- The text of parts with a comma and a gap between them. -/
def rowText (gap : List Char) (parts : List String) : List Char :=
  (',' :: gap).intercalate (parts.map String.toList)

/-- Between two parts of a row stand a comma and the gap. -/
theorem rowText_cons_cons (gap : List Char) (part next : String) (more : List String) :
    rowText gap (part :: next :: more)
      = part.toList ++ ',' :: (gap ++ rowText gap (next :: more)) := by
  simp only [rowText, List.map_cons, List.intercalate_cons_cons, List.append_assoc,
    List.cons_append]

theorem rowText_singleton (gap : List Char) (part : String) : rowText gap [part] = part.toList := by
  simp only [rowText, List.map_cons, List.map_nil, List.intercalate_singleton]

/-- The text of parts with commas between them. -/
def commaText (parts : List String) : List Char := [','].intercalate (parts.map String.toList)

theorem commaText_eq_rowText (parts : List String) : commaText parts = rowText [] parts := rfl

/-- An array is its items with commas between them, in brackets. -/
theorem toList_write_array (items : List Json) :
    (write (.array items)).toList = '[' :: (commaText (items.map write) ++ [']']) := by
  rw [write, String.toList_append, String.toList_append, String.toList_intercalate,
    writeItems_eq_map]
  rfl

/-- An object is its members with commas between them, in braces. -/
theorem toList_write_object (members : List (String × Json)) :
    (write (.object members)).toList
      = '\x7b' :: (commaText (members.map writeMember) ++ ['\x7d']) := by
  rw [write, String.toList_append, String.toList_append, String.toList_intercalate,
    writeMembers_eq_map]
  rfl

/-- A member is its quoted key, a colon and its value. -/
theorem toList_writeMember (entry : String × Json) :
    (writeMember entry).toList = (quote entry.1).toList ++ ':' :: entry.2.write.toList := by
  rw [writeMember, String.toList_append, String.toList_append, List.append_assoc]
  rfl

/-! ## The first character -/

/-- Whether a text begins with a character that is neither blank nor a closing bracket. -/
def Begins (text : List Char) : Prop :=
  ∃ c more, text = c :: more ∧ Text.isBlank c = false ∧ c ≠ ']' ∧ c ≠ '\x7d'

theorem Begins.append {text : List Char} (h : Begins text) (rest : List Char) :
    Begins (text ++ rest) := by
  obtain ⟨c, more, rfl, hc⟩ := h
  exact ⟨c, more ++ rest, rfl, hc⟩

/-- What JSON skips is blank; not all that is blank is skipped. -/
theorem isBlank_of_isSpace {c : Char} (h : isSpace c = true) : Text.isBlank c = true := by
  simp only [isSpace, Bool.or_eq_true, beq_iff_eq] at h
  rcases h with ((rfl | rfl) | rfl) | rfl <;> decide

/-- Nothing is skipped in front of a value. -/
theorem Begins.skipSpace {text : List Char} (h : Begins text) : skipSpace text = text := by
  obtain ⟨c, more, rfl, hblank, -⟩ := h
  have hspace : isSpace c = false := by
    by_contra hspace
    rw [isBlank_of_isSpace (by simpa using hspace)] at hblank
    cases hblank
  simp [Json.skipSpace, hspace]

/-- Nothing is trimmed in front of a value either. -/
theorem Begins.trimStart {text : List Char} (h : Begins text) : Text.trimStart text = text := by
  obtain ⟨c, more, rfl, hblank, -⟩ := h
  simp [Text.trimStart, hblank]

theorem begins_quote (text : String) : Begins (quote text).toList := by
  rw [toList_quote]
  exact ⟨'"', _, rfl, by decide⟩

theorem isBlank_of_isDigit {c : Char} (h : c.isDigit = true) : Text.isBlank c = false := by
  have hlow : 48 ≤ c.toNat := le_toNat_of_isDigit h
  have hhigh : c.toNat ≤ 57 := by
    simp only [Char.isDigit, Bool.and_eq_true, decide_eq_true_eq] at h
    exact h.2
  simp only [Text.isBlank, Bool.or_eq_false_iff, Bool.and_eq_false_iff, decide_eq_false_iff_not,
    beq_eq_false_iff_ne]
  omega

/-- A number begins with a digit or a sign. -/
theorem begins_numberText (n : JsonNumber) : Begins n.text := by
  obtain ⟨c, more, htext, hc⟩ := exists_numberText_eq_cons n
  refine ⟨c, more, htext, ?_⟩
  rcases hc with rfl | hdigit
  · decide
  · refine ⟨isBlank_of_isDigit hdigit, ?_, ?_⟩
    · rintro rfl
      cases hdigit
    · rintro rfl
      cases hdigit

theorem toList_write_number (n : JsonNumber) : (write (.number n)).toList = n.text := by
  rw [write, String.toList_ofList]

/-- However a value is written, it begins with a character of its own. -/
theorem begins_write (value : Json) : Begins value.write.toList := by
  cases value with
  | null => exact ⟨'n', _, rfl, by decide⟩
  | bool value =>
    cases value with
    | true => exact ⟨'t', _, rfl, by decide⟩
    | false => exact ⟨'f', _, rfl, by decide⟩
  | number value =>
    rw [toList_write_number]
    exact begins_numberText value
  | string value => exact begins_quote value
  | array items =>
    rw [toList_write_array]
    exact ⟨'[', _, rfl, by decide⟩
  | object members =>
    rw [toList_write_object]
    exact ⟨'\x7b', _, rfl, by decide⟩

/-- Only arrays begin with a bracket. -/
theorem head?_write_ne {value : Json} (h : ∀ items, value ≠ .array items) :
    value.write.toList.head? ≠ some '[' := by
  cases value with
  | null => exact show some 'n' ≠ some '[' by decide
  | bool value =>
    cases value with
    | true => exact show some 't' ≠ some '[' by decide
    | false => exact show some 'f' ≠ some '[' by decide
  | number value =>
    obtain ⟨c, more, htext, hc⟩ := exists_numberText_eq_cons value
    rw [toList_write_number, htext, List.head?_cons, ne_eq, Option.some_inj]
    rintro rfl
    rcases hc with hc | hc <;> cases hc
  | string value =>
    rw [write, toList_quote]
    exact show some '"' ≠ some '[' by decide
  | array items => exact absurd rfl (h items)
  | object members =>
    rw [toList_write_object]
    exact show some '\x7b' ≠ some '[' by decide

/-- Parts with commas between them begin like the first of them. -/
theorem begins_rowText {gap : List Char} {parts : List String} (hne : parts ≠ [])
    (h : ∀ part ∈ parts, Begins part.toList) : Begins (rowText gap parts) := by
  obtain ⟨part, more, rfl⟩ := List.exists_cons_of_ne_nil hne
  have hpart := h part List.mem_cons_self
  cases more with
  | nil => rwa [rowText_singleton]
  | cons next more =>
    rw [rowText_cons_cons]
    exact hpart.append _

/-! ## Blanks between values -/

/-- Whether there is nothing but blanks in a text. -/
def Spaces (gap : List Char) : Prop := ∀ c ∈ gap, isSpace c = true

theorem spaces_nil : Spaces [] := fun _ h => by cases h

theorem endsNumber_cons {c : Char}
    (h : c.isDigit = false ∧ c ≠ '.' ∧ c ≠ 'e' ∧ c ≠ 'E') (rest : List Char) :
    EndsNumber (c :: rest) := by
  intro c' hc'
  rwa [← Option.mem_some.mp hc']

section

variable {gap : List Char}

/-- A gap in front of a text is skipped. -/
theorem Spaces.skipSpace_append (h : Spaces gap) (text : List Char) :
    Json.skipSpace (gap ++ text) = Json.skipSpace text :=
  List.dropWhile_append_of_pos h

/-- A number ends in front of blanks. -/
theorem Spaces.endsNumber (h : Spaces gap) {rest : List Char} (hrest : EndsNumber rest) :
    EndsNumber (gap ++ rest) := by
  cases gap with
  | nil => exact hrest
  | cons c more =>
    have hspace := h c List.mem_cons_self
    simp only [isSpace, Bool.or_eq_true, beq_iff_eq] at hspace
    refine endsNumber_cons ?_ _
    rcases hspace with ((rfl | rfl) | rfl) | rfl <;> decide

end

/-- Whether a reader passes over the blanks in front of what it reads. -/
def SkipsSpace {α : Type} (read : Reading α) : Prop :=
  ∀ gap text, Spaces gap → read (gap ++ text) = read text

theorem skipsSpace_readValueWith (inner : Option (Reading Json)) :
    SkipsSpace (readValueWith inner) := by
  intro gap text hgap
  rw [readValueWith, readValueWith, hgap.skipSpace_append]

/-- Values are read behind any gap, at every depth. -/
theorem skipsSpace_readValue (levels : Nat) : SkipsSpace (readValue levels) := by
  cases levels with
  | zero => exact skipsSpace_readValueWith _
  | succ levels => exact skipsSpace_readValueWith _

/-- So are keys. -/
theorem skipsSpace_readKey : SkipsSpace readKey := by
  intro gap text hgap
  rw [readKey, readKey, hgap.skipSpace_append]

/-! ## Reading written values -/

/-- Whether a reader takes exactly a value from the front of a text that begins with the given
text and does not go on like a number. -/
def ReadsAs (readValue : Reading Json) (text : List Char) (value : Json) : Prop :=
  ∀ rest, EndsNumber rest → readValue (text ++ rest) = .ok (value, rest)

/-- Whether a reader takes exactly a value from the front of a text that begins with the value
written on one line and does not go on like a number. -/
def Reads (readValue : Reading Json) (value : Json) : Prop :=
  ∀ rest, EndsNumber rest → readValue (value.write.toList ++ rest) = .ok (value, rest)

/-- There are no more parts than a reader has steps for. -/
theorem length_le_rowText (gap : List Char) (parts : List String) :
    parts.length ≤ (rowText gap parts).length + 1 := by
  induction parts with
  | nil => exact Nat.zero_le _
  | cons part more ih =>
    cases more with
    | nil => simp
    | cons next more =>
      rw [rowText_cons_cons, List.length_append]
      simp only [List.length_cons, List.length_append] at ih ⊢
      omega

/-- A key is read from its quoted form and the colon behind it. -/
theorem readKey_quote (key : String) (rest : List Char) :
    readKey ((quote key).toList ++ ':' :: rest) = .ok (key, rest) := by
  have hstring : readString (key.toList.flatMap escapeChar ++ '"' :: ':' :: rest)
      = .ok (key.toList, ':' :: rest) := readString_flatMap _ _
  rw [readKey, ((begins_quote key).append _).skipSpace, toList_quote, List.cons_append,
    List.append_assoc]
  show (readString (key.toList.flatMap escapeChar ++ '"' :: ':' :: rest) >>= _) = _
  rw [bind_of_ok hstring]
  show Except.ok (String.ofList key.toList, rest) = _
  rw [String.ofList_toList]

section Rows

variable {readValue : Reading Json} (hskip : SkipsSpace readValue) {opening gap closing : List Char}
  (hopening : Spaces opening) (hgap : Spaces gap) (hclosing : Spaces closing)
  {text : Json → String} {result : Json → Json}

include hskip

/-- So are the items of an array, since their first value is. -/
theorem skipsSpace_readItems (steps : Nat) : SkipsSpace (readItems readValue steps) := by
  intro gap text hgap
  cases steps with
  | zero => rfl
  | succ steps => rw [readItems, readItems, hskip gap text hgap]

omit hskip in
/-- The members of an object are read behind any gap, since their first key is. -/
theorem skipsSpace_readMembers (readValue : Reading Json) (steps : Nat) :
    SkipsSpace (readMembers readValue steps) := by
  intro gap text hgap
  cases steps with
  | zero => rfl
  | succ steps => rw [readMembers, readMembers, skipsSpace_readKey gap text hgap]

section Items

variable {items : List Json}
  (hitems : ∀ item ∈ items, ReadsAs readValue (text item).toList (result item))

include hgap hclosing hitems

/-- Items that can be read one by one are read in a row, whatever blanks stand between them. -/
theorem readItems_rowText (hne : items ≠ []) {steps : Nat} (hsteps : items.length ≤ steps)
    (rest : List Char) :
    readItems readValue steps (rowText gap (items.map text) ++ (closing ++ ']' :: rest))
      = .ok (items.map result, rest) := by
  induction items generalizing steps with
  | nil => exact absurd rfl hne
  | cons item more ih =>
    obtain ⟨hitem, hmore⟩ := List.forall_mem_cons.mp hitems
    obtain ⟨left, rfl⟩ : ∃ left, steps = left + 1 := ⟨steps - 1, by simp at hsteps; omega⟩
    cases more with
    | nil =>
      have hends := hclosing.endsNumber (endsNumber_cons (c := ']') (by decide) rest)
      rw [List.map_singleton, rowText_singleton, readItems, bind_of_ok (hitem _ hends)]
      dsimp only
      rw [hclosing.skipSpace_append]
      rfl
    | cons next more =>
      have hleft : (next :: more).length ≤ left := by simpa using hsteps
      have hrest := ih hmore (by simp) hleft
      rw [List.map_cons, List.map_cons, rowText_cons_cons, List.append_assoc, List.cons_append,
        readItems, bind_of_ok (hitem _ (endsNumber_cons (by decide) _))]
      show (readItems readValue left _ >>= _) = _
      rw [List.append_assoc, skipsSpace_readItems hskip left _ _ hgap, ← List.map_cons,
        bind_of_ok hrest]
      rfl

include hopening

/-- A row of items in brackets is read as an array of what the items are read as. -/
theorem readArray_rowText (hbegins : ∀ item ∈ items, Begins (text item).toList)
    (rest : List Char) :
    readArray readValue (opening ++ (rowText gap (items.map text) ++ (closing ++ ']' :: rest)))
      = .ok (.array (items.map result), rest) := by
  rw [readArray, hopening.skipSpace_append]
  rcases eq_or_ne items [] with rfl | hne
  · have hend : skipSpace (rowText gap ([].map text) ++ (closing ++ ']' :: rest))
        = skipSpace (']' :: rest) := hclosing.skipSpace_append _
    rw [hend]
    rfl
  have hrow : Begins (rowText gap (items.map text)) := by
    refine begins_rowText (by simpa using hne) fun part hpart => ?_
    obtain ⟨item, hitem, rfl⟩ := List.mem_map.mp hpart
    exact hbegins item hitem
  have hsteps : items.length
      ≤ (rowText gap (items.map text) ++ (closing ++ ']' :: rest)).length := by
    have := length_le_rowText gap (items.map text)
    rw [List.length_map] at this
    rw [List.length_append, List.length_append, List.length_cons]
    omega
  have hread := readItems_rowText hskip hgap hclosing hitems hne hsteps rest
  -- the first item is not taken for the closing bracket
  rw [(hrow.append _).skipSpace]
  obtain ⟨c, more, htext, -, hbracket, -⟩ := hrow
  split
  · next heq =>
    rw [htext, List.cons_append] at heq
    exact absurd (List.cons.inj heq).1 hbracket
  · rw [bind_of_ok hread]
    rfl

end Items

section Members

variable {members : List (String × Json)} {member : String × Json → String}
  (hmember : ∀ entry, (member entry).toList
    = (quote entry.1).toList ++ ':' :: (opening ++ (text entry.2).toList))
  (hmembers : ∀ entry ∈ members, ReadsAs readValue (text entry.2).toList (result entry.2))

include hopening hgap hclosing hmember hmembers

/-- A row of members in front of a closing brace is read member by member, by induction on the row.
-/
theorem readMembers_rowText (hne : members ≠ []) {steps : Nat} (hsteps : members.length ≤ steps)
    (rest : List Char) :
    readMembers readValue steps (rowText gap (members.map member) ++ (closing ++ '\x7d' :: rest))
      = .ok (members.map fun entry => (entry.1, result entry.2), rest) := by
  induction members generalizing steps with
  | nil => exact absurd rfl hne
  | cons entry more ih =>
    obtain ⟨hentry, hmore⟩ := List.forall_mem_cons.mp hmembers
    obtain ⟨left, rfl⟩ : ∃ left, steps = left + 1 := ⟨steps - 1, by simp at hsteps; omega⟩
    cases more with
    | nil =>
      have hends := hclosing.endsNumber (endsNumber_cons (c := '\x7d') (by decide) rest)
      rw [List.map_singleton, rowText_singleton, hmember, List.append_assoc, List.cons_append,
        readMembers, bind_of_ok (readKey_quote _ _)]
      dsimp only
      rw [List.append_assoc, hskip _ _ hopening, bind_of_ok (hentry _ hends)]
      dsimp only
      rw [hclosing.skipSpace_append]
      rfl
    | cons next more =>
      have hleft : (next :: more).length ≤ left := by simpa using hsteps
      have hrest := ih hmore (by simp) hleft
      rw [List.map_cons, List.map_cons, rowText_cons_cons, hmember, List.append_assoc,
        List.append_assoc, List.cons_append, List.cons_append, readMembers,
        bind_of_ok (readKey_quote _ _)]
      dsimp only
      rw [List.append_assoc, hskip _ _ hopening,
        bind_of_ok (hentry _ (endsNumber_cons (by decide) _))]
      show (readMembers readValue left _ >>= _) = _
      rw [List.append_assoc, skipsSpace_readMembers readValue left _ _ hgap, ← List.map_cons,
        bind_of_ok hrest]
      rfl

/-- The members of an object are put in key order as they are read. -/
theorem readObject_rowText {front : List Char} (hfront : Spaces front) (rest : List Char) :
    readObject readValue
        (front ++ (rowText gap (members.map member) ++ (closing ++ '\x7d' :: rest)))
      = .ok (.sorted (members.map fun entry => (entry.1, result entry.2)), rest) := by
  rw [readObject, hfront.skipSpace_append]
  rcases eq_or_ne members [] with rfl | hne
  · have hend : skipSpace (rowText gap ([].map member) ++ (closing ++ '\x7d' :: rest))
        = skipSpace ('\x7d' :: rest) := hclosing.skipSpace_append _
    rw [hend]
    rfl
  have hrow : Begins (rowText gap (members.map member)) := by
    refine begins_rowText (by simpa using hne) fun part hpart => ?_
    obtain ⟨entry, -, rfl⟩ := List.mem_map.mp hpart
    rw [hmember]
    exact (begins_quote entry.1).append _
  have hsteps : members.length
      ≤ (rowText gap (members.map member) ++ (closing ++ '\x7d' :: rest)).length := by
    have := length_le_rowText gap (members.map member)
    rw [List.length_map] at this
    rw [List.length_append, List.length_append, List.length_cons]
    omega
  have hread := readMembers_rowText hskip hopening hgap hclosing hmember hmembers hne hsteps rest
  rw [(hrow.append _).skipSpace]
  obtain ⟨c, more, htext, -, -, hbrace⟩ := hrow
  split
  · next heq =>
    rw [htext, List.cons_append] at heq
    exact absurd (List.cons.inj heq).1 hbrace
  · rw [bind_of_ok hread]
    rfl

end Members

end Rows

/-- A word is read where it stands. -/
theorem readWord_append (word : List Char) (value : Json) (rest : List Char) :
    readWord word value (word ++ rest) = .ok (value, rest) := by
  rw [readWord, List.take_left, List.drop_left, if_pos rfl]

/-- A number is read back from its text. -/
theorem readValueWith_number (inner : Option (Reading Json)) (n : JsonNumber) :
    Reads (readValueWith inner) (.number n) := by
  intro rest hrest
  have hread := readNumber_numberText n hrest
  obtain ⟨c, more, htext, hc⟩ := exists_numberText_eq_cons n
  rw [toList_write_number, readValueWith, ((begins_numberText n).append rest).skipSpace]
  rw [htext, List.cons_append] at hread ⊢
  have hsign : (decide (c = '-') || c.isDigit) = true := by simpa using hc
  have hword : c ≠ 'n' ∧ c ≠ 't' ∧ c ≠ 'f' ∧ c ≠ '"' := by
    refine ⟨?_, ?_, ?_, ?_⟩ <;> (rintro rfl; cases hsign)
  show (if c = 'n' then _ else _) = _
  rw [if_neg hword.1, if_neg hword.2.1, if_neg hword.2.2.1, if_neg hword.2.2.2, if_pos hsign,
    bind_of_ok hread]
  rfl

/-- A text is read back from its quoted form. -/
theorem readValueWith_string (inner : Option (Reading Json)) (text : String) :
    Reads (readValueWith inner) (.string text) := by
  intro rest hrest
  have hstring := readString_flatMap text.toList rest
  rw [write, toList_quote, List.cons_append, List.append_assoc]
  show (readString (text.toList.flatMap escapeChar ++ '"' :: rest) >>= _) = _
  rw [bind_of_ok hstring]
  show Except.ok (Json.string (String.ofList text.toList), rest) = _
  rw [String.ofList_toList]

/-- What is read whether or not anything may be nested is read at every level. -/
theorem reads_of_forall {value : Json} (h : ∀ inner, Reads (readValueWith inner) value)
    (levels : Nat) : Reads (readValue levels) value := by
  cases levels with
  | zero => exact h none
  | succ levels => exact h (some (readValue levels))

/-- A value that is nested no deeper than the reader goes is read back as it was. -/
theorem reads_of_nested {levels : Nat} {value : Json} (h : Nested levels value) :
    Reads (readValue levels) value := by
  -- the levels of a value are those that the reader has left for it
  induction h with
  | null =>
    refine reads_of_forall (fun inner rest _ => ?_) _
    exact readWord_append ['u', 'l', 'l'] .null rest
  | bool value =>
    refine reads_of_forall (fun inner rest _ => ?_) _
    cases value with
    | true => exact readWord_append ['r', 'u', 'e'] (.bool true) rest
    | false => exact readWord_append ['a', 'l', 's', 'e'] (.bool false) rest
  | number value => exact reads_of_forall (fun inner => readValueWith_number inner value) _
  | string value => exact reads_of_forall (fun inner => readValueWith_string inner value) _
  | array hitems ih =>
    intro rest _
    have hread := readArray_rowText (skipsSpace_readValue _) spaces_nil spaces_nil spaces_nil ih
      (fun item _ => begins_write item) rest
    rw [List.map_id'] at hread
    rw [toList_write_array, List.cons_append, List.append_assoc]
    exact hread
  | @object levels members hordered hmembers ih =>
    intro rest _
    have hvalues : ∀ entry ∈ members,
        ReadsAs (readValue levels) entry.2.write.toList (id entry.2) := ih
    have hread := readObject_rowText (skipsSpace_readValue _) spaces_nil spaces_nil spaces_nil
      toList_writeMember hvalues spaces_nil rest
    have hsorted : sorted members = .object members :=
      congrArg object (@Keyed.insertAll_of_ordered _ members [] hordered)
    rw [show (fun entry : String × Json => (entry.1, id entry.2)) = id from rfl, List.map_id,
      hsorted] at hread
    rw [toList_write_object, List.cons_append, List.append_assoc]
    exact hread

/-- A whole text that is a value written on one line is this value. -/
theorem ofText_write {value : Json} (h : Nested maxDepth value) :
    ofText value.write.toList = .ok value := by
  have hread := reads_of_nested h [] endsNumber_nil
  rw [List.append_nil] at hread
  rw [ofText, bind_of_ok hread]
  rfl

/-! ## One line -/

/-- Whether there is no control character in a text. -/
def NoControl (text : List Char) : Prop := ∀ c ∈ text, 0x20 ≤ c.toNat

theorem noControl_nil : NoControl [] := fun _ h => by cases h

theorem noControl_of_all {text : List Char}
    (h : text.all (fun c => decide (0x20 ≤ c.toNat)) = true) :
    NoControl text := by
  simpa [NoControl] using h

theorem NoControl.append {front back : List Char} (hfront : NoControl front)
    (hback : NoControl back) : NoControl (front ++ back) :=
  fun c hc => (List.mem_append.mp hc).elim (hfront c) (hback c)

theorem NoControl.cons {c : Char} {text : List Char} (hc : 0x20 ≤ c.toNat)
    (htext : NoControl text) : NoControl (c :: text) :=
  List.forall_mem_cons.mpr ⟨hc, htext⟩

/-- A text without control characters does not contain any of them. -/
theorem NoControl.notMem {text : List Char} (h : NoControl text) {c : Char}
    (hc : c.toNat < 0x20) : c ∉ text :=
  fun hmem => Nat.not_lt.mpr (h c hmem) hc

/-- Hexadecimal digits are no control characters. -/
theorem le_toNat_hexDigit : ∀ n < 16, 0x20 ≤ (Text.hexDigit n).toNat := by
  decide

/-- Every control character is spelled with others. -/
theorem noControl_escapeChar (c : Char) : NoControl (escapeChar c) := by
  unfold escapeChar
  split_ifs with hquote hslash hline hreturn htab hback hfeed hcontrol
  iterate 7 exact noControl_nil.cons (by decide) |>.cons (by decide)
  · have hhigh := le_toNat_hexDigit (c.toNat / 16) (by omega)
    have hlow := le_toNat_hexDigit (c.toNat % 16) (by omega)
    exact (noControl_nil.cons hlow |>.cons hhigh).cons (by decide) |>.cons (by decide)
      |>.cons (by decide) |>.cons (by decide)
  · exact noControl_nil.cons (Nat.le_of_not_lt hcontrol)

/-- A quoted text has no control characters, whatever it stands for. -/
theorem noControl_quote (text : String) : NoControl (quote text).toList := by
  rw [toList_quote]
  refine NoControl.cons (by decide) (NoControl.append ?_ (noControl_nil.cons (by decide)))
  intro c hc
  obtain ⟨d, -, hd⟩ := List.mem_flatMap.mp hc
  exact noControl_escapeChar d c hd

/-- Commas between parts bring in no control character. -/
theorem noControl_commaText {parts : List String} (h : ∀ part ∈ parts, NoControl part.toList) :
    NoControl (commaText parts) := by
  rw [commaText_eq_rowText]
  induction parts with
  | nil => exact noControl_nil
  | cons part more ih =>
    obtain ⟨hpart, hmore⟩ := List.forall_mem_cons.mp h
    cases more with
    | nil => rwa [rowText_singleton]
    | cons next more =>
      rw [rowText_cons_cons]
      exact hpart.append ((ih hmore).cons (by decide))

/-- There is no control character in a value written on one line, so it is one line. -/
theorem noControl_write {levels : Nat} {value : Json} (h : Nested levels value) :
    NoControl value.write.toList := by
  induction h with
  | null => exact noControl_of_all rfl
  | bool value =>
    cases value with
    | true => exact noControl_of_all rfl
    | false => exact noControl_of_all rfl
  | number value =>
    rw [toList_write_number]
    exact fun c => le_toNat_of_mem_numberText
  | string value => exact noControl_quote value
  | @array levels items hitems ih =>
    rw [toList_write_array]
    refine NoControl.cons (by decide) (NoControl.append ?_ (noControl_nil.cons (by decide)))
    refine noControl_commaText fun part hpart => ?_
    obtain ⟨item, hitem, rfl⟩ := List.mem_map.mp hpart
    exact ih item hitem
  | @object levels members hordered hmembers ih =>
    rw [toList_write_object]
    refine NoControl.cons (by decide) (NoControl.append ?_ (noControl_nil.cons (by decide)))
    refine noControl_commaText fun part hpart => ?_
    obtain ⟨entry, hentry, rfl⟩ := List.mem_map.mp hpart
    rw [toList_writeMember]
    exact (noControl_quote _).append ((ih entry hentry).cons (by decide))

/-! ## Levels -/

/-- What may be nested so deep may be nested deeper. -/
theorem Nested.mono {levels deeper : Nat} {value : Json} (h : Nested levels value)
    (hle : levels ≤ deeper) : Nested deeper value := by
  induction h generalizing deeper with
  | null => exact .null
  | bool value => exact .bool value
  | number value => exact .number value
  | string value => exact .string value
  | array hitems ih =>
    obtain ⟨more, rfl⟩ := Nat.exists_eq_add_of_le' (Nat.lt_of_lt_of_le (Nat.succ_pos _) hle)
    exact .array fun item hitem => ih item hitem (by omega)
  | object hordered hmembers ih =>
    obtain ⟨more, rfl⟩ := Nat.exists_eq_add_of_le' (Nat.lt_of_lt_of_le (Nat.succ_pos _) hle)
    exact .object hordered fun entry hentry => ih entry hentry (by omega)

end RecordFilter.Json
