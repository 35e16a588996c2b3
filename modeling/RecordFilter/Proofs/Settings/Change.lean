import RecordFilter.Proofs.Execution
import RecordFilter.Proofs.Text.Keyed
import RecordFilter.Settings.Basic

/-!
# What a change of settings changes

A change is addressed to one setting (`Key`), gives it a value, and leaves the others as they are
(`get?_apply`). `ofText_eq_ok_iff` says which texts are changes: the key has to be the text of an
address, and everything behind the first dot of `fields.` is the name of a field.
-/

namespace RecordFilter.Settings

/-! ## Addresses -/

/-- Which setting is meant. -/
inductive Key where
  | color
  | pretty
  | ignoreCase
  | field (name : String)
deriving DecidableEq, Repr

/-- The text that addresses a setting. -/
def Key.text : Key → String
  | color => "output.color"
  | pretty => "output.pretty"
  | ignoreCase => "filter.case_insensitive"
  | field name => "fields." ++ name

/-- What a setting is set to. -/
inductive Held where
  | flag (value : Bool)
  | type (value : FieldType)
deriving DecidableEq, Repr

/-- What a setting is set to, if it is set. -/
def get? (s : Settings) : Key → Option Held
  | .color => s.color.map .flag
  | .pretty => s.pretty.map .flag
  | .ignoreCase => s.ignoreCase.map .flag
  | .field name => (Keyed.find? name s.fields).map .type

namespace Change

/-- The setting that is changed. -/
def key : Change → Key
  | color _ => .color
  | pretty _ => .pretty
  | ignoreCase _ => .ignoreCase
  | field name _ => .field name

/-- What the setting is set to. -/
def value : Change → Held
  | color value => .flag value
  | pretty value => .flag value
  | ignoreCase value => .flag value
  | field _ type => .type type

end Change

/-- A change sets the setting that it is addressed to, and no other. -/
theorem get?_apply (s : Settings) (c : Change) (k : Key) :
    (s.apply c).get? k = if c.key = k then some c.value else s.get? k := by
  cases c with
  | color value => cases k <;> rfl
  | pretty value => cases k <;> rfl
  | ignoreCase value => cases k <;> rfl
  | field name type =>
    cases k with
    | field other =>
      show (Keyed.find? other (Keyed.insert name type s.fields)).map Held.type = _
      rw [Keyed.find?_insert]
      by_cases h : name = other
      · simp [Change.key, Change.value, h]
      · simp [Change.key, h, get?]
    | _ => rfl

/-- Changes of different settings may be made in either order. -/
theorem apply_comm {c d : Change} (h : c.key ≠ d.key) (s : Settings) :
    (s.apply c).apply d = (s.apply d).apply c := by
  cases c with
  | color value =>
    cases d with
    | color other => exact absurd rfl h
    | _ => rfl
  | pretty value =>
    cases d with
    | pretty other => exact absurd rfl h
    | _ => rfl
  | ignoreCase value =>
    cases d with
    | ignoreCase other => exact absurd rfl h
    | _ => rfl
  | field name type =>
    cases d with
    | field other otherType =>
      have hne : other ≠ name := fun heq => h (congrArg Key.field heq.symm)
      show { s with fields := Keyed.insert other otherType (Keyed.insert name type s.fields) }
        = { s with fields := Keyed.insert name type (Keyed.insert other otherType s.fields) }
      rw [Keyed.insert_comm hne]
    | _ => rfl

/-- A change keeps the fields in the order of their names. -/
theorem ordered_apply {s : Settings} (h : Keyed.Ordered s.fields) (c : Change) :
    Keyed.Ordered (s.apply c).fields := by
  cases c with
  | field name type => exact h.insert
  | _ => exact h

/-! ## Texts of changes -/

/-- A text is split at its first dot. -/
theorem splitDot_append {part : List Char} (h : '.' ∉ part) (name : List Char) :
    splitDot (part ++ '.' :: name) = some (part, name) := by
  have hpart : ∀ c ∈ part, (c != '.') = true := by
    intro c hc
    exact bne_iff_ne.mpr fun heq => h (heq ▸ hc)
  rw [splitDot, List.dropWhile_append_of_pos hpart, List.takeWhile_append_of_pos hpart]
  simp

/-- The two parts of a split text make it up again. -/
theorem eq_of_splitDot {text part name : List Char} (h : splitDot text = some (part, name)) :
    text = part ++ '.' :: name := by
  unfold splitDot at h
  split at h
  · cases h
  · next c behind hdrop =>
    cases h
    obtain rfl : c = '.' := by
      have hhead := List.head?_dropWhile_not (· != '.') text
      rw [hdrop] at hhead
      simpa using hhead
    rw [← hdrop]
    exact List.takeWhile_append_dropWhile.symm

/-- Whether a text is the value of a change. A field has to have a name. -/
def Change.SpelledBy (text : String) : Change → Prop
  | color value => boolean? text = some value
  | pretty value => boolean? text = some value
  | ignoreCase value => boolean? text = some value
  | field name type => name ≠ "" ∧ FieldType.ofText? text = some type

/-- A truth is read from the words that spell it. -/
theorem readBoolean_eq_ok_iff {text : String} {value : Bool} :
    readBoolean text = .ok value ↔ boolean? text = some value := by
  unfold readBoolean
  cases boolean? text <;> simp

/-- A type is read from the words that spell it. -/
theorem readFieldType_eq_ok_iff {text : String} {type : FieldType} :
    readFieldType text = .ok type ↔ FieldType.ofText? text = some type := by
  unfold readFieldType
  cases FieldType.ofText? text <;> simp

/-- The section of a setting. -/
def Key.part : Key → String
  | color | pretty => "output"
  | ignoreCase => "filter"
  | field _ => "fields"

/-- The name of a setting in its section. -/
def Key.name : Key → String
  | color => "color"
  | pretty => "pretty"
  | ignoreCase => "case_insensitive"
  | field name => name

theorem Key.toList_text (k : Key) : k.text.toList = k.part.toList ++ '.' :: k.name.toList := by
  cases k with
  | field field =>
    show ("fields." ++ field).toList = "fields".toList ++ '.' :: field.toList
    simp
  | _ => rfl

/-- The first dot of an address stands behind its section, whatever the name contains. -/
theorem splitDot_text (k : Key) :
    splitDot k.text.toList = some (k.part.toList, k.name.toList) := by
  have hpart : ∀ part ∈ ["output", "filter", "fields"], '.' ∉ part.toList := by decide
  rw [k.toList_text]
  refine splitDot_append (hpart _ ?_) _
  cases k <;> simp [Key.part]

theorem eq_text_of_splitDot {key : String} {part name : List Char} (k : Key)
    (h : splitDot key.toList = some (part, name)) (hpart : String.ofList part = k.part)
    (hname : String.ofList name = k.name) : key = k.text := by
  rw [← String.toList_inj, k.toList_text, eq_of_splitDot h, ← hpart, ← hname]
  simp

/-- A change that was read is the one that its key and its value spell. -/
theorem Change.spelledBy_of_ofText {key text : String} {c : Change}
    (h : Change.ofText key text = .ok c) : key = c.key.text ∧ c.SpelledBy text := by
  unfold Change.ofText at h
  split at h
  · cases h
  · next part name hsplit =>
    split at h
    · next hpart hname =>
      obtain ⟨value, hvalue, rfl⟩ := exists_of_map_eq_ok h
      exact ⟨eq_text_of_splitDot .color hsplit hpart hname, readBoolean_eq_ok_iff.mp hvalue⟩
    · next hpart hname =>
      obtain ⟨value, hvalue, rfl⟩ := exists_of_map_eq_ok h
      exact ⟨eq_text_of_splitDot .pretty hsplit hpart hname, readBoolean_eq_ok_iff.mp hvalue⟩
    · next hpart hname =>
      obtain ⟨value, hvalue, rfl⟩ := exists_of_map_eq_ok h
      exact ⟨eq_text_of_splitDot .ignoreCase hsplit hpart hname, readBoolean_eq_ok_iff.mp hvalue⟩
    · next hpart =>
      split at h
      · cases h
      · next hname =>
        obtain ⟨type, htype, rfl⟩ := exists_of_map_eq_ok h
        exact ⟨eq_text_of_splitDot (.field _) hsplit hpart rfl, hname,
          readFieldType_eq_ok_iff.mp htype⟩
    · cases h

/-- Every change is read from its key and a value that spells it. -/
theorem Change.ofText_of_spelledBy {text : String} {c : Change} (h : c.SpelledBy text) :
    Change.ofText c.key.text text = .ok c := by
  rw [Change.ofText, splitDot_text]
  cases c with
  | color value => simp [key, Key.part, Key.name, readBoolean_eq_ok_iff.mpr h]
  | pretty value => simp [key, Key.part, Key.name, readBoolean_eq_ok_iff.mpr h]
  | ignoreCase value => simp [key, Key.part, Key.name, readBoolean_eq_ok_iff.mpr h]
  | field name type =>
    obtain ⟨hname, htype⟩ := h
    simp [key, Key.part, Key.name, hname, readFieldType_eq_ok_iff.mpr htype]

/-- A key and a value are a change if the key addresses a setting and the value is one for it. -/
theorem Change.ofText_eq_ok_iff {key text : String} {c : Change} :
    Change.ofText key text = .ok c ↔ key = c.key.text ∧ c.SpelledBy text := by
  constructor
  · exact Change.spelledBy_of_ofText
  · rintro ⟨rfl, hspelled⟩
    exact Change.ofText_of_spelledBy hspelled

end RecordFilter.Settings
