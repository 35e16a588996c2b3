import RecordFilter.Proofs.Report.Plain

/-!
# Colours decorate

A coloured text is the plain one with escape sequences between its pieces. Since no sequence begins
in a plain piece, deleting the sequences gives the plain text back, whatever stands behind it
(`Decorates`). This passes from pieces to what is put together of them, and so from a name or a
literal in its styles to whole reports.
-/

namespace RecordFilter

/-! ## Deleting escape sequences -/

/-- How many characters the escape sequence has that a text begins with, if it begins with one:
an escape character, an opening bracket, digits and an `m`. -/
def sequenceLength? : List Char → Option Nat
  | '\x1b' :: '[' :: rest =>
    match rest.takeWhile Char.isDigit, rest.dropWhile Char.isDigit with
    | digit :: digits, 'm' :: _ => some ((digit :: digits).length + 3)
    | _, _ => none
  | _ => none

/-- Passes over some characters, and deletes the escape sequences behind them. -/
def deleteSequences : Nat → List Char → List Char
  | _, [] => []
  | skipped + 1, _ :: rest => deleteSequences skipped rest
  | 0, c :: rest =>
    match sequenceLength? (c :: rest) with
    | some length => deleteSequences (length - 1) rest
    | none => c :: deleteSequences 0 rest

/-- A text without its escape sequences. -/
def withoutSequences (text : String) : String := String.ofList (deleteSequences 0 text.toList)

/-- What is to be skipped is skipped, and the rest is gone through from its start. -/
theorem deleteSequences_append (skipped rest : List Char) :
    deleteSequences skipped.length (skipped ++ rest) = deleteSequences 0 rest := by
  induction skipped with
  | nil => rfl
  | cons c skipped ih => rw [List.length_cons, List.cons_append, deleteSequences, ih]

/-- Any character but the one that begins a sequence stays. -/
theorem deleteSequences_cons {c : Char} (hc : c ≠ '\x1b') (rest : List Char) :
    deleteSequences 0 (c :: rest) = c :: deleteSequences 0 rest := by
  have hnone : sequenceLength? (c :: rest) = none := by
    unfold sequenceLength?
    split
    · next heq => exact absurd (List.cons.inj heq).1 hc
    · rfl
  rw [deleteSequences, hnone]

/-- The sequence of a code is deleted. -/
theorem deleteSequences_sequence (code : Nat) (rest : List Char) :
    deleteSequences 0 ((Report.Style.sequence code).toList ++ rest) = deleteSequences 0 rest := by
  have hsequence : (Report.Style.sequence code).toList
      = '\x1b' :: '[' :: (Nat.toDigits 10 code ++ ['m']) := by
    have hcode : (toString code).toList = Nat.toDigits 10 code := String.toList_ofList
    rw [Report.Style.sequence, String.toList_append, String.toList_append, hcode]
    rfl
  have hdigits : ∀ c ∈ Nat.toDigits 10 code, c.isDigit = true := fun c hc =>
    Nat.isDigit_of_mem_toDigits (by decide) (by decide) hc
  have htake : (Nat.toDigits 10 code ++ 'm' :: rest).takeWhile Char.isDigit
      = Nat.toDigits 10 code := by
    rw [List.takeWhile_append_of_pos hdigits]
    exact List.append_nil _
  have hdrop : (Nat.toDigits 10 code ++ 'm' :: rest).dropWhile Char.isDigit = 'm' :: rest :=
    List.dropWhile_append_of_pos hdigits
  have hlength : sequenceLength? ('\x1b' :: '[' :: (Nat.toDigits 10 code ++ 'm' :: rest))
      = some ((Nat.toDigits 10 code).length + 3) := by
    rw [sequenceLength?, htake, hdrop]
    cases hcode : Nat.toDigits 10 code with
    | nil => exact absurd hcode (Nat.toDigits_ne_nil)
    | cons digit digits => rfl
  have hskipped := deleteSequences_append ('[' :: (Nat.toDigits 10 code ++ ['m'])) rest
  rw [hsequence]
  simp only [List.cons_append, List.append_assoc, List.nil_append] at hskipped ⊢
  rw [deleteSequences, hlength]
  simpa using hskipped

/-! ## Decorated texts -/

/-- Whether a text is another one with escape sequences in it: deleting them gives that one,
whatever stands behind the text. -/
def Decorates (decorated text : String) : Prop :=
  ∀ rest, deleteSequences 0 (decorated.toList ++ rest) = text.toList ++ deleteSequences 0 rest

section Pieces

variable {a b decorated text : String}

/-- Deleting the sequences of a decorated text gives the text. -/
theorem Decorates.withoutSequences_eq (h : Decorates decorated text) :
    withoutSequences decorated = text := by
  have hall := h []
  rw [List.append_nil] at hall
  rw [withoutSequences, hall, deleteSequences, List.append_nil, String.ofList_toList]

/-- A plain text decorates itself. -/
theorem Plain.decorates (h : Plain text) : Decorates text text := by
  intro rest
  unfold Plain at h
  generalize text.toList = chars at h ⊢
  induction chars with
  | nil => rfl
  | cons c chars ih =>
    obtain ⟨hc, hchars⟩ := not_or.mp (List.mem_cons.not.mp h)
    rw [List.cons_append, deleteSequences_cons (Ne.symm hc), ih hchars, List.cons_append]

/-- Two decorated texts, one behind the other. -/
theorem Decorates.append (ha : Decorates decorated text) (hb : Decorates a b) :
    Decorates (decorated ++ a) (text ++ b) := by
  intro rest
  rw [String.toList_append, String.toList_append, List.append_assoc, ha, hb, List.append_assoc]

/-- A sequence decorates nothing. -/
theorem decorates_sequence (code : Nat) : Decorates (Report.Style.sequence code) "" :=
  deleteSequences_sequence code

/-- A row of decorated texts. -/
theorem decorates_join {α : Type} {f g : α → String} {row : List α}
    (h : ∀ a ∈ row, Decorates (f a) (g a)) :
    Decorates (String.join (row.map f)) (String.join (row.map g)) := by
  intro rest
  rw [String.toList_join, String.toList_join]
  induction row with
  | nil => rfl
  | cons a row ih =>
    obtain ⟨ha, hrow⟩ := List.forall_mem_cons.mp h
    simp only [List.map_cons, List.flatMap_cons, List.append_assoc]
    rw [ha, ih hrow]

end Pieces

/-! ## Reports -/

namespace Report

section Styles

variable {decorated text : String}

/-- Painting decorates what it paints. -/
theorem Style.decorates_paint (style : Style) (h : Decorates decorated text) :
    Decorates (style.paint decorated) text := by
  have hpainted := ((decorates_sequence style.on).append h).append (decorates_sequence style.off)
  rwa [String.append_empty, String.empty_append] at hpainted

/-- However many styles there are around a text. -/
theorem Style.decorates_paintAll (styles : List Style) (h : Decorates decorated text) :
    Decorates (Style.paintAll styles decorated) text := by
  induction styles with
  | nil => exact h
  | cons style styles ih => exact style.decorates_paint ih

/-- A token is painted, or left as it is. -/
theorem decorates_paintToken (colors : Bool) (kind : TokenKind) (h : Plain text) :
    Decorates (paintToken colors kind text) text := by
  unfold paintToken
  split_ifs
  · exact Style.decorates_paintAll _ h.decorates
  · exact h.decorates

theorem decorates_heading (colors : Bool) (h : Plain text) :
    Decorates (heading colors text) text := by
  unfold heading
  split_ifs
  · exact Style.decorates_paintAll _ h.decorates
  · exact h.decorates

end Styles

/-- The table of tokens with colours decorates the one without. -/
theorem decorates_tokenTable {tokens : List Token} (h : ∀ token ∈ tokens, Plain token.literal)
    (colors : Bool) : Decorates (tokenTable colors tokens) (tokenTable false tokens) :=
  decorates_join fun token htoken =>
    (decorates_paintToken colors _ (Token.plain_describe (h token htoken))).append
      (Plain.decorates (by decide))

/-- A line with a condition decorates itself without colours. -/
theorem decorates_conditionLine {c : Condition} (h : Plain c.name ∧ Plain c.literal.token.literal)
    (colors : Bool) : Decorates (conditionLine colors c) (conditionLine false c) := by
  have hblank : Decorates " " " " := Plain.decorates (by decide)
  have hplace : Plain ("  " ++ pad 7 (placeText c.identifier.position)) :=
    Plain.append (by decide) (plain_pad (plain_placeText _))
  have hname := decorates_paintToken colors c.identifier.kind h.1
  have hsymbol := decorates_paintToken colors c.comparison.token.kind (plain_symbol c.operator)
  have hliteral := decorates_paintToken colors c.literal.token.kind h.2
  exact ((((hplace.decorates.append hblank).append hname).append hblank).append hsymbol).append
    hblank |>.append hliteral |>.append (Plain.decorates (by decide))

/-- The table of conditions with colours decorates the one without. -/
theorem decorates_expressionTable {e : Expr}
    (h : ∀ c ∈ e.conditions, Plain c.name ∧ Plain c.literal.token.literal) (colors : Bool) :
    Decorates (expressionTable colors e) (expressionTable false e) := by
  have hexpression : Plain e.describe := plain_render h
  have hfirst : Decorates (heading colors "Expression") (heading false "Expression") :=
    decorates_heading colors (by decide)
  have hsecond : Decorates (heading colors "Conditions") (heading false "Conditions") :=
    decorates_heading colors (by decide)
  have hlines : Decorates (String.join (e.conditions.map (conditionLine colors)))
      (String.join (e.conditions.map (conditionLine false))) :=
    decorates_join fun c hc => decorates_conditionLine (h c hc) colors
  have hcount := (plain_toString e.conditions.length).decorates
  refine ((((((hfirst.append ?_).append hexpression.decorates).append ?_).append hsecond).append
    ?_).append hcount).append ?_ |>.append hlines
  all_goals exact Plain.decorates (by decide)

/-- The line with the number of records decorates itself without colours. -/
theorem decorates_countLine (count : Nat) (colors : Bool) :
    Decorates (countLine colors count) (countLine false count) := by
  have hcount := (plain_toString count).decorates
  refine Decorates.append ?_ (Plain.decorates (by decide))
  cases colors with
  | true => exact Style.decorates_paint _ hcount
  | false => exact hcount

end Report

end RecordFilter
