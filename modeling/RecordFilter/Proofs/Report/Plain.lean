import RecordFilter.Proofs.Expr.Composition
import RecordFilter.Proofs.Json.RoundTrip
import RecordFilter.Report.Expression
import RecordFilter.Report.Records
import RecordFilter.Report.Settings
import RecordFilter.Report.Tokens

/-!
# Reports without colours

A text is plain if there is no escape character in it, so that no sequence of a terminal begins in
it. JSON is always plain, since strings are written with their control characters escaped
(`Json.plain_pretty`). A report in text is plain without colours if the texts that it repeats are:
tokens and expressions repeat pieces of the text that they were read from, settings repeat the path
of their document and the names of declared fields.
-/

namespace RecordFilter

/-- Whether there is no escape character in a text. -/
def Plain (text : String) : Prop := '\x1b' ∉ text.toList

instance (text : String) : Decidable (Plain text) := inferInstanceAs (Decidable (¬ _ ∈ _))

/-! ## Texts in pieces -/

section Pieces

variable {a b separator : String} {parts : List String}

/-- A text is plain if its parts are. -/
theorem plain_append : Plain (a ++ b) ↔ Plain a ∧ Plain b := by
  rw [Plain, String.toList_append, List.mem_append, not_or]
  rfl

theorem Plain.append (ha : Plain a) (hb : Plain b) : Plain (a ++ b) := plain_append.mpr ⟨ha, hb⟩

/-- Joining adds nothing of its own. -/
theorem plain_join (h : ∀ part ∈ parts, Plain part) : Plain (String.join parts) := by
  rw [Plain, String.toList_join]
  intro hmem
  obtain ⟨part, hpart, hescape⟩ := List.mem_flatMap.mp hmem
  exact h part hpart hescape

/-- Plain texts with a plain separator between them. -/
theorem plain_intercalate (hseparator : Plain separator) (h : ∀ part ∈ parts, Plain part) :
    Plain (separator.intercalate parts) := by
  induction parts with
  | nil => rw [String.intercalate_nil]; decide
  | cons part parts ih =>
    obtain ⟨hpart, hparts⟩ := List.forall_mem_cons.mp h
    cases parts with
    | nil => rwa [String.intercalate_singleton]
    | cons next parts =>
      rw [String.intercalate_cons_cons]
      exact (hpart.append hseparator).append (ih hparts)

/-- The character that begins an escape sequence is a control character. -/
theorem plain_of_noControl (h : Json.NoControl a.toList) : Plain a := h.notMem (by decide)

/-- The digits of a number. -/
theorem plain_toString (n : Nat) : Plain (toString n) := by
  show '\x1b' ∉ (String.ofList (Nat.toDigits 10 n)).toList
  rw [String.toList_ofList]
  intro hmem
  exact absurd (Nat.isDigit_of_mem_toDigits (by decide) (by decide) hmem) (by decide)

theorem plain_blanks (count : Nat) : Plain (String.ofList (List.replicate count ' ')) := by
  rw [Plain, String.toList_ofList]
  intro hmem
  exact absurd (List.eq_of_mem_replicate hmem) (by decide)

end Pieces

/-! ## JSON -/

namespace Json

variable {level : Nat}

/-- A quoted text is plain whatever is in it: control characters are spelled with others. -/
theorem plain_quote (text : String) : Plain (quote text) :=
  plain_of_noControl (noControl_quote text)

/-- A number as JSON. -/
theorem plain_number (n : JsonNumber) : Plain (String.ofList n.text) :=
  plain_of_noControl fun _ hc => le_toNat_of_mem_numberText (String.toList_ofList ▸ hc)

/-- Brackets, line feeds and blanks around plain parts. -/
theorem plain_bracket {opening closing : String} {parts : List String} (hopening : Plain opening)
    (hclosing : Plain closing) (h : ∀ part ∈ parts, Plain part) :
    Plain (bracket level opening closing parts) := by
  have hinside : Plain (indent (level + 1)) := plain_blanks _
  have hparts := plain_intercalate (Plain.append (by decide : Plain ",\n") hinside) h
  unfold bracket
  split
  · exact hopening.append hclosing
  · exact ((((hopening.append (by decide)).append hinside).append hparts).append (by decide)
      |>.append (plain_blanks _)).append hclosing

mutual

/-- A value over several lines is plain. -/
theorem plain_prettyAt : ∀ (level : Nat) (value : Json), Plain (value.prettyAt level)
  | _, null => by rw [prettyAt]; decide
  | _, bool true => by rw [prettyAt]; decide
  | _, bool false => by rw [prettyAt]; decide
  | _, number value => by rw [prettyAt]; exact plain_number value
  | _, string value => by rw [prettyAt]; exact plain_quote value
  | level, array items => by
    rw [prettyAt]
    exact plain_bracket (by decide) (by decide) (plain_prettyItems (level + 1) items)
  | level, object members => by
    rw [prettyAt]
    exact plain_bracket (by decide) (by decide) (plain_prettyMembers (level + 1) members)

theorem plain_prettyItems :
    ∀ (level : Nat) (items : List Json), ∀ part ∈ prettyItems level items, Plain part
  | _, [] => by rw [prettyItems]; exact List.forall_mem_nil _
  | level, item :: items => by
    rw [prettyItems]
    exact List.forall_mem_cons.mpr ⟨plain_prettyAt level item, plain_prettyItems level items⟩

theorem plain_prettyMembers :
    ∀ (level : Nat) (members : List (String × Json)), ∀ part ∈ prettyMembers level members,
      Plain part
  | _, [] => by rw [prettyMembers]; exact List.forall_mem_nil _
  | level, (key, value) :: members => by
    rw [prettyMembers]
    refine List.forall_mem_cons.mpr ⟨?_, plain_prettyMembers level members⟩
    exact ((plain_quote key).append (by decide)).append (plain_prettyAt level value)

end

/-- Indented JSON is plain whatever its texts contain. -/
theorem plain_pretty (value : Json) : Plain value.pretty := plain_prettyAt 0 value

/-- JSON in one line is plain whatever its texts contain. -/
theorem plain_write {levels : Nat} {value : Json} (h : Nested levels value) : Plain value.write :=
  plain_of_noControl (noControl_write h)

end Json

/-! ## Tokens -/

section Tokens

variable {text : String} {tokens : List Token}

/-- The tokens that spell a text are plain if the text is. -/
theorem plain_of_spelling (h : spelling tokens = text.toList) (htext : Plain text) :
    ∀ token ∈ tokens, Plain token.literal := by
  intro token htoken hescape
  apply htext
  rw [← h]
  exact List.mem_flatMap.mpr ⟨token, htoken, hescape⟩

/-- The tokens of a plain text are plain, because they are parts of it. -/
theorem plain_of_tokenize (h : tokenize text = .ok tokens) (htext : Plain text) :
    ∀ token ∈ tokens, Plain token.literal :=
  plain_of_spelling (munchedFrom_of_tokensFrom _ h).2 htext

/-- So are the names and the literals of an expression that was read from it. -/
theorem Expr.plain_of_ofText {e : Expr} (h : Expr.ofText text = .ok e) (htext : Plain text) :
    ∀ c ∈ e.conditions, Plain c.name ∧ Plain c.literal.token.literal := by
  obtain ⟨tokens, last, -, hspelling, hspelled⟩ := Expr.exists_munched_of_ofText h
  have hplain : ∀ token ∈ withoutWhitespace tokens, Plain token.literal := fun token htoken =>
    plain_of_spelling hspelling htext token (List.mem_of_mem_filter htoken)
  intro c hc
  obtain ⟨hfaithful, htokens⟩ := hspelled.leaves c hc
  have hidentifier := hplain _ (htokens c.identifier (by simp [Condition.tokens]))
  rw [← hfaithful.name] at hidentifier
  exact ⟨hidentifier, hplain _ (htokens c.literal.token (by simp [Condition.tokens]))⟩

/-- Spelling a line feed brings in two characters, neither of which begins an escape sequence. -/
theorem mem_of_mem_spellLineFeeds {c : Char} {text : List Char}
    (h : c ∈ Token.spellLineFeeds text) : c ∈ text ∨ c = '\\' ∨ c = 'n' := by
  induction text with
  | nil => cases h
  | cons first rest ih =>
    rw [Token.spellLineFeeds] at h
    split_ifs at h with hfeed
    · simp only [List.mem_cons] at h ⊢
      tauto
    · simp only [List.mem_cons] at h ⊢
      tauto

/-- A token on a line of its own. -/
theorem Token.plain_describe {token : Token} (h : Plain token.literal) : Plain token.describe := by
  have hkind : Plain token.kind.name := by cases token.kind <;> decide
  have hliteral : Plain (String.ofList (Token.spellLineFeeds token.literal.toList)) := by
    rw [Plain, String.toList_ofList]
    intro hmem
    rcases mem_of_mem_spellLineFeeds hmem with hescape | hescape | hescape
    · exact h hescape
    · exact absurd hescape (by decide)
    · exact absurd hescape (by decide)
  have hfront : Plain ("<Token type=" ++ token.kind.name ++ " literal=\"") :=
    (Plain.append (by decide) hkind).append (by decide)
  have hplace : Plain ("\" at=") := by decide
  exact ((((hfront.append hliteral).append hplace).append (plain_toString _)).append
    (by decide)).append (plain_toString _) |>.append (by decide)

end Tokens

/-! ## Reports -/

namespace Report

/-- The table of the tokens without colours. -/
theorem plain_tokenTable {tokens : List Token} (h : ∀ token ∈ tokens, Plain token.literal) :
    Plain (tokenTable false tokens) := by
  refine plain_join fun part hpart => ?_
  obtain ⟨token, htoken, rfl⟩ := List.mem_map.mp hpart
  exact (Token.plain_describe (h token htoken)).append (by decide)

/-- A line and a column. -/
theorem plain_placeText (p : Position) : Plain (placeText p) :=
  ((plain_toString _).append (by decide)).append (plain_toString _)

/-- Blanks behind a text. -/
theorem plain_pad {width : Nat} {text : String} (h : Plain text) : Plain (pad width text) :=
  h.append (plain_blanks _)

theorem plain_symbol (comparison : Comparison) : Plain comparison.symbol := by
  cases comparison <;> decide

theorem plain_keyword (connective : Connective) : Plain connective.keyword := by
  cases connective <;> decide

section Conditions

variable {c : Condition} {l : Level}

/-- A condition on a line of its own, without colours. -/
theorem plain_conditionLine (h : Plain c.name ∧ Plain c.literal.token.literal) :
    Plain (conditionLine false c) := by
  have hblank : Plain " " := by decide
  have hplace : Plain ("  " ++ pad 7 (placeText c.identifier.position)) :=
    Plain.append (by decide) (plain_pad (plain_placeText _))
  exact (((((hplace.append hblank).append h.1).append hblank).append (plain_symbol _)).append
    hblank).append h.2 |>.append (by decide)

/-- A tree is shown as its leaves are, with what joins them. -/
theorem plain_render {t : Tree (Sourced Connective) Condition l}
    (h : ∀ c ∈ t.leaves, Plain c.name ∧ Plain c.literal.token.literal) :
    Plain (t.render (fun connective => connective.item.keyword) Condition.describe) := by
  induction t with
  | leaf c =>
    obtain ⟨hname, hliteral⟩ := h c (List.mem_singleton_self c)
    exact (((hname.append (by decide)).append (plain_symbol _)).append (by decide)).append hliteral
  | group inner ih => exact ((by decide : Plain "(").append (ih h)).append (by decide)
  | single operand ih => exact ih h
  | join operand joint rest ihOperand ihRest =>
    have hoperand := ihOperand fun c hc => h c (List.mem_append_left _ hc)
    have hrest := ihRest fun c hc => h c (List.mem_append_right _ hc)
    exact (((hoperand.append (by decide)).append (plain_keyword _)).append (by decide)).append hrest

/-- The table of the conditions without colours. -/
theorem plain_expressionTable {e : Expr}
    (h : ∀ c ∈ e.conditions, Plain c.name ∧ Plain c.literal.token.literal) :
    Plain (expressionTable false e) := by
  have hlines : Plain (String.join (e.conditions.map (conditionLine false))) := by
    refine plain_join fun part hpart => ?_
    obtain ⟨c, hc, rfl⟩ := List.mem_map.mp hpart
    exact plain_conditionLine (h c hc)
  have hexpression : Plain e.describe := plain_render h
  have hfirst : Plain (heading false "Expression" ++ "\n  " ++ e.describe ++ "\n\n") :=
    (Plain.append (by decide) (plain_render h)).append (by decide)
  have hsecond : Plain (heading false "Conditions") := by decide
  exact (((hfirst.append hsecond).append (by decide)).append (plain_toString _)).append
    (by decide) |>.append hlines

end Conditions

section Records

variable {records : List Json}

/-- Records are shown as JSON, so they are plain whatever they contain. -/
theorem plain_recordLines {levels : Nat} (h : ∀ record ∈ records, Json.Nested levels record)
    (pretty : Bool) : Plain (recordLines pretty records) := by
  refine plain_join fun part hpart => ?_
  obtain ⟨record, hrecord, rfl⟩ := List.mem_map.mp hpart
  refine Plain.append ?_ (by decide)
  split_ifs
  · exact Json.plain_pretty record
  · exact Json.plain_write (h record hrecord)

/-- The number of records without colours. -/
theorem plain_countLine (count : Nat) : Plain (countLine false count) :=
  (plain_toString count).append (by decide)

end Records

section Settings

variable {settings : Settings} {path : String}

theorem plain_booleanText (value : Bool) : Plain (Settings.booleanText value) := by
  cases value <;> decide

/-- A setting on a line of its own. -/
theorem plain_settingLine {name : String} (h : Plain name) (value : Option Bool) :
    Plain (settingLine name value) := by
  cases value with
  | none => exact (by decide : Plain "")
  | some value =>
    have hvalue := plain_booleanText value
    exact (((Plain.append (by decide) h).append (by decide)).append hvalue).append (by decide)

/-- A field of the settings with its type. -/
theorem plain_declarationLine {field : String × FieldType} (h : Plain field.1) :
    Plain (declarationLine field) := by
  have htype : Plain field.2.name := by cases field.2 <;> decide
  exact (((Plain.append (by decide) h).append (by decide)).append htype).append (by decide)

/-- The settings as text, as long as the names of the fields are plain. -/
theorem plain_settingsText (h : ∀ field ∈ settings.fields, Plain field.1) :
    Plain (settingsText settings) := by
  have hfields : Plain (String.join (settings.fields.map declarationLine)) := by
    refine plain_join fun part hpart => ?_
    obtain ⟨field, hfield, rfl⟩ := List.mem_map.mp hpart
    exact plain_declarationLine (h field hfield)
  have hheading : Plain (if settings.fields.isEmpty then "" else "\n[fields]\n") := by
    split_ifs <;> decide
  have houtput : Plain ("[output]\n" ++ settingLine "color" settings.color
      ++ settingLine "pretty" settings.pretty) :=
    (Plain.append (by decide) (plain_settingLine (by decide) _)).append
      (plain_settingLine (by decide) _)
  exact (((houtput.append (by decide)).append (plain_settingLine (by decide) _)).append
    hheading).append hfields

/-- The settings under their heading, without colours. -/
theorem plain_settingsTable (hpath : Plain path) (h : ∀ field ∈ settings.fields, Plain field.1)
    (present : Bool) : Plain (settingsTable false path present settings) := by
  have hbelow : Plain (if present then settingsText settings else noDocumentText) := by
    split_ifs
    · exact plain_settingsText h
    · decide
  have hfile : Plain (heading false "Configuration" ++ "\n\nFile: " ++ path) :=
    Plain.append (by decide) hpath
  exact (((hfile.append (by decide)).append (plain_booleanText present)).append
    (by decide)).append hbelow

end Settings

end Report

end RecordFilter
