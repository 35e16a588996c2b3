import RecordFilter.Proofs.Record.Duality
import RecordFilter.Proofs.Text.Keyed
import RecordFilter.Proofs.Text.Quoted

/-!
# String literals

Every text has a literal that stands for it, in quotes of either form. In a filter the literal is
one token, the condition that it belongs to is read with the text as its value, and without
declared fields the filter compares the field with exactly this text (`encode_stands_for`). The
literal is printed into a condition and read back, so that the way from the text of the filter to
the condition is that of all printed expressions.
-/

namespace RecordFilter

open Lexeme (isQuote)

/-! ## Literals as tokens -/

/-- The literal of a text, in quotes of the given form. -/
def literalOf (quote : Char) (text : String) : String :=
  String.ofList (Text.Quoted.encode quote text.toList)

section Literals

variable {quote : Char} {text : String}

/-- The spelling of a text has the shape of a string. -/
theorem hasShape_literalOf (h : isQuote quote = true) (text : String) :
    HasShape .string (literalOf quote text).toList := by
  rw [literalOf, String.toList_ofList]
  exact Text.Quoted.isQuoted_encode h text.toList

/-- It is cut into one token, and nothing is left of it. -/
theorem tokenize_literalOf (h : isQuote quote = true) (text : String) :
    tokenize (literalOf quote text) = .ok [⟨.string, literalOf quote text, .start⟩,
      ⟨.endOfInput, "", Position.start.after (literalOf quote text).toList⟩] := by
  have hends : EndsBefore .string (literalOf quote text).toList [] := fun c hc => nomatch hc
  have hcut := tokensFrom_append .start (by decide) (hasShape_literalOf h text) hends
  rw [List.append_nil, tokensFrom, String.ofList_toList] at hcut
  exact hcut

/-- Taking the quotes and escapes away gives the text back. -/
theorem unquoted_literalOf (h : isQuote quote = true) (text : String) :
    (Value.string (literalOf quote text)).unquoted = .ok text := by
  rw [Value.unquoted, literalOf, String.toList_ofList, Text.Quoted.decode_encode h,
    String.ofList_toList]

end Literals

/-! ## Literals in conditions -/

/-- An expression with the shape of one condition is one condition. -/
theorem Expr.exists_leaf_of_shape {e : Expr} {shape : Condition.Shape}
    (h : e.shape = .single (.leaf shape)) : ∃ c, e = .single (.leaf c) ∧ c.shape = shape := by
  cases e with
  | join operand connective rest => cases h
  | single operand =>
    cases operand with
    | group inner => cases h
    | leaf c => exact ⟨c, rfl, Tree.leaf.inj (Tree.single.inj h)⟩

/-- A name, a comparison and a literal are read as the condition that they spell. -/
theorem Expr.exists_ofText_condition {name literal : String} {value : Value}
    (hname : LexesAs .identifier name)
    (hliteral : (LexesAs .string literal ∧ value = .string literal)
      ∨ (LexesAs .number literal ∧ ∃ x,
          Binary64.ofText? literal.toList = some x ∧ value = .number x)) (op : Comparison) :
    ∃ c : Condition, Expr.ofText (name ++ " " ++ op.symbol ++ " " ++ literal)
        = .ok (.single (.leaf c))
      ∧ c.name = name ∧ c.operator = op ∧ c.value = value := by
  let nowhere : Token := ⟨.illegal, "", .start⟩
  let printed : Condition := ⟨name, nowhere, ⟨op, nowhere⟩, ⟨value, ⟨.illegal, literal, .start⟩⟩⟩
  have hprintable : Expr.Printable (.single (.leaf printed)) := by
    refine ⟨fun c hc => ?_, Nat.zero_le _⟩
    obtain rfl := List.mem_singleton.mp hc
    exact ⟨hname, hliteral⟩
  obtain ⟨e, hread, hshape⟩ := Expr.exists_ofText_describe hprintable
  obtain ⟨c, rfl, hc⟩ := Expr.exists_leaf_of_shape hshape
  exact ⟨c, hread, congrArg Condition.Shape.name hc, congrArg Condition.Shape.operator hc,
    congrArg Condition.Shape.value hc⟩

namespace Rules

/-- Without declared fields, a field is compared with the text that a literal stands for. -/
theorem bind_of_string {c : Condition} {literal : String} (hvalue : c.value = .string literal)
    (hcompares : c.operator.Compares) (ignoreCase : Bool) :
    Rules.bind ⟨.empty, ignoreCase⟩ c = .ok fun record => (stringField? record c.name).any
      fun value => c.operator.holds
        (Text.compareText value (String.ofList (Text.Quoted.decode literal.toList))) := by
  refine bind_eq_ok_iff.mpr ⟨rfl, ?_⟩
  rw [hvalue, literalTest, stringTest_of_compares hcompares]
  rfl

/-- A field of a record holds a text if that is what stands under its name. -/
theorem stringField?_eq_some_iff {record : Json} {name value : String} :
    stringField? record name = some value
      ↔ ∃ members, record = .object members ∧ Keyed.find? name members = some (.string value) := by
  constructor
  · intro h
    obtain ⟨found, hfound, hvalue⟩ := Option.bind_eq_some_iff.mp h
    cases record with
    | object members =>
      cases found with
      | string text =>
        obtain rfl := Option.some.inj hvalue
        exact ⟨members, rfl, hfound⟩
      | _ => cases hvalue
    | _ => cases hfound
  · rintro ⟨members, rfl, hfound⟩
    exact Option.bind_eq_some_iff.mpr ⟨_, hfound, rfl⟩

end Rules

/-- Texts are equal if they hold the same characters. -/
theorem Comparison.holds_equals_iff {value text : String} :
    Comparison.equals.holds (Text.compareText value text) = true ↔ value = text := by
  rw [← Text.compareText_eq_iff]
  exact beq_iff_eq

theorem Comparison.holds_notEquals_iff {value text : String} :
    Comparison.notEquals.holds (Text.compareText value text) = true ↔ value ≠ text := by
  rw [Ne, ← Text.compareText_eq_iff]
  exact bne_iff_ne

/-- A filter is read as one condition on a field, whose literal stands for a text. Without declared
fields it is accepted, and it holds of the objects that have a string under the name of the field
with a property. -/
def TestsString (filter name text : String) (holds : String → Prop) : Prop :=
  ∃ c : Condition, Expr.ofText filter = .ok (.single (.leaf c)) ∧ c.name = name
    ∧ c.value.unquoted = .ok text
    ∧ ∀ ignoreCase, ∃ compiled,
      Expr.compileFor ⟨.empty, ignoreCase⟩ (.single (.leaf c)) = .ok compiled
        ∧ ∀ record, compiled.evaluate record = true ↔ ∃ members value, record = .object members
          ∧ Keyed.find? name members = some (.string value) ∧ holds value

/-- A comparison with the spelling of a text holds of the records whose field compares with the text
itself. -/
theorem testsString_literalOf {quote : Char} (h : isQuote quote = true) {name : String}
    (hname : LexesAs .identifier name) (text : String) (op : Comparison)
    (hcompares : op.Compares) {holds : String → Prop}
    (hholds : ∀ value, op.holds (Text.compareText value text) = true ↔ holds value) :
    TestsString (name ++ " " ++ op.symbol ++ " " ++ literalOf quote text) name text holds := by
  have hliteral : LexesAs .string (literalOf quote text) :=
    (lexesAs_iff (by decide)).mpr (hasShape_literalOf h text)
  obtain ⟨c, hread, rfl, rfl, hvalue⟩ :=
    Expr.exists_ofText_condition hname (.inl ⟨hliteral, rfl⟩) op
  have hunquoted : c.value.unquoted = .ok text := by rw [hvalue, unquoted_literalOf h]
  refine ⟨c, hread, rfl, hunquoted, fun ignoreCase => ?_⟩
  have htext : String.ofList (Text.Quoted.decode (literalOf quote text).toList) = text :=
    Except.ok.inj (unquoted_literalOf h text)
  have hbind := Rules.bind_of_string hvalue hcompares ignoreCase
  rw [htext] at hbind
  have hbinds : ∀ d ∈ Expr.conditions (.single (.leaf c)), Rules.bind ⟨.empty, ignoreCase⟩ d
      = .ok fun record => (Rules.stringField? record c.name).any
        fun value => c.operator.holds (Text.compareText value text) := by
    intro d hd
    obtain rfl := List.mem_singleton.mp hd
    exact hbind
  have hcompiled := compile_eq_ok_map hbinds
  refine ⟨_, hcompiled, fun record => ?_⟩
  rw [Expr.evaluate_of_compileFor hbinds hcompiled]
  show (Rules.stringField? record c.name).any _ = true ↔ _
  rw [Option.any_eq_true]
  constructor
  · rintro ⟨value, hfield, hvalue⟩
    obtain ⟨members, rfl, hfound⟩ := Rules.stringField?_eq_some_iff.mp hfield
    exact ⟨members, value, rfl, hfound, (hholds value).mp hvalue⟩
  · rintro ⟨members, value, hrecord, hfound, hvalue⟩
    exact ⟨value, Rules.stringField?_eq_some_iff.mpr ⟨members, hrecord, hfound⟩,
      (hholds value).mpr hvalue⟩

/-- **Every text can be written as a literal, and literals stand for exactly their texts.** The
literal of a text is one token, in quotes of either form. A condition that asks for equality with
it is read with the text as its value and holds of the records in which the field is a string equal
to the text; one that asks for the opposite holds of those in which it is a string that differs.
Conversely, every string token is a quote, a body and the same quote again, stands for its body
with the escapes resolved, and what it stands for has a literal that stands for the same. -/
theorem encode_stands_for :
    (∀ (text : String) (quote : Char), isQuote quote = true →
        tokenize (literalOf quote text) = .ok [⟨.string, literalOf quote text, .start⟩,
          ⟨.endOfInput, "", Position.start.after (literalOf quote text).toList⟩]
        ∧ ∀ name, LexesAs .identifier name →
          TestsString (name ++ " = " ++ literalOf quote text) name text (· = text)
            ∧ TestsString (name ++ " != " ++ literalOf quote text) name text (· ≠ text))
      ∧ ∀ filter tokens, tokenize filter = .ok tokens → ∀ token ∈ tokens, token.kind = .string →
        ∃ quote body text, token.literal.toList = quote :: (body ++ [quote])
          ∧ isQuote quote = true ∧ StringBody quote body
          ∧ text = String.ofList (Text.Quoted.resolveEscapes body)
          ∧ (Value.string token.literal).unquoted = .ok text
          ∧ ∀ other, isQuote other = true →
            (Value.string (literalOf other text)).unquoted = .ok text := by
  constructor
  · intro text quote hquote
    refine ⟨tokenize_literalOf hquote text, fun name hname => ⟨?_, ?_⟩⟩
    · have htests := testsString_literalOf hquote hname text .equals ⟨nofun, nofun⟩
        fun value => Comparison.holds_equals_iff
      simpa [Comparison.symbol, String.append_assoc] using htests
    · have htests := testsString_literalOf hquote hname text .notEquals ⟨nofun, nofun⟩
        fun value => Comparison.holds_notEquals_iff
      simpa [Comparison.symbol, String.append_assoc] using htests
  · intro filter tokens htokens token htoken hkind
    obtain ⟨hmunched, -⟩ := munchedFrom_of_tokensFrom _ htokens
    have hshape := hmunched.shaped token htoken
    rw [hkind] at hshape
    obtain ⟨quote, body, hquote, hbody, hliteral⟩ := hshape
    refine ⟨quote, body, _, hliteral, hquote, hbody, rfl, ?_, fun other hother => ?_⟩
    · rw [Value.unquoted, hliteral, Text.Quoted.decode_quoted hquote]
    · exact unquoted_literalOf hother _

/-- A text with a backslash, quotes of both forms and a line feed. -/
theorem encode_stands_for_quotes :
    let text := "\\ ' \" \n"
    literalOf '\'' text = "'\\\\ \\' \" \n'" ∧ LexesAs .identifier "f"
      ∧ TestsString ("f" ++ " = " ++ literalOf '\'' text) "f" text (· = text)
      ∧ ∃ read, (Value.string (literalOf '\'' text)).unquoted = .ok read
        ∧ (Value.string (literalOf '"' read)).unquoted = .ok read := by
  intro text
  have hname : LexesAs .identifier "f" :=
    (lexesAs_iff (by decide)).mpr ⟨isWord_cons_iff.mpr ⟨by decide +kernel, nofun⟩, by decide⟩
  obtain ⟨htokens, htests⟩ := encode_stands_for.1 text '\'' rfl
  obtain ⟨_, _, read, -, -, -, -, hread, hagain⟩ :=
    encode_stands_for.2 _ _ htokens _ List.mem_cons_self rfl
  exact ⟨by decide +kernel, hname, (htests "f" hname).1, read, hread, hagain '"' rfl⟩

end RecordFilter
