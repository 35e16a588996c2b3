import RecordFilter.Proofs.Expr.Acceptance
import RecordFilter.Proofs.Expr.Shape
import RecordFilter.Proofs.Token.Scan

/-!
# Reading back what was printed

An expression in its canonical spelling is read back as the expression that it was, up to what
the spelling does not show: where tokens stand, and how connectives were written. This holds for
all trees that could be read from some text at all (`Printable`), also for those that nobody has
read; `describe_roundTrip` is the statement.

Printing puts a blank or a parenthesis behind every piece, and nothing that an expression is
printed with goes on with either. So the tokens of a printed tree are the tokens of its pieces
with blanks between them (`CutInto`), and what they spell is a tree with the same shape.
-/

namespace RecordFilter

/-! ## What can be printed -/

/-- A text that is cut into one token of a kind. -/
def LexesAs (kind : TokenKind) (text : String) : Prop :=
  ∃ last, tokenize text = .ok [⟨kind, text, .start⟩, last]

/-- The name of a condition is a word that is no keyword, its literal is one token, and its value
is what that token says. What else is in its tokens does not count. -/
structure Condition.Printable (c : Condition) : Prop where
  name : LexesAs .identifier c.name
  literal : (LexesAs .string c.literal.token.literal ∧ c.value = .string c.literal.token.literal)
    ∨ (LexesAs .number c.literal.token.literal ∧ ∃ value,
        Binary64.ofText? c.literal.token.literal.toList = some value ∧ c.value = .number value)

/-- All conditions can be printed, and parentheses are not nested too deep. -/
structure Expr.Printable (e : Expr) : Prop where
  conditions : ∀ c ∈ e.conditions, c.Printable
  nested : e.depth ≤ maxNesting

/-! ## Shapes of what is printed -/

/-- The kind of token that spells a comparison. -/
def Comparison.tokenKind : Comparison → TokenKind
  | equals => .equals
  | notEquals => .notEquals
  | matching => .matching
  | notMatching => .notMatching
  | less => .less
  | lessOrEqual => .lessOrEqual
  | greater => .greater
  | greaterOrEqual => .greaterOrEqual

/-- The kind of token that spells a connective. -/
def Connective.tokenKind : Connective → TokenKind
  | and => .and
  | or => .or

/-- The kind of token that spells a value. -/
def Value.tokenKind : Value → TokenKind
  | string _ => .string
  | number _ => .number

/-- Every comparison has a kind of token of its own. -/
theorem Comparison.ofKind?_eq_some_iff {kind : TokenKind} {item : Comparison} :
    Comparison.ofKind? kind = some item ↔ kind = item.tokenKind := by
  cases kind <;> cases item <;> simp [Comparison.ofKind?, Comparison.tokenKind]

/-- Every connective has a kind of token of its own. -/
theorem Connective.ofKind?_eq_some_iff {kind : TokenKind} {item : Connective} :
    Connective.ofKind? kind = some item ↔ kind = item.tokenKind := by
  cases kind <;> cases item <;> simp [Connective.ofKind?, Connective.tokenKind]

/-- A comparison is spelled by its symbol only. -/
theorem Comparison.hasShape_iff {item : Comparison} {text : List Char} :
    HasShape item.tokenKind text ↔ text = item.symbol.toList := by
  cases item <;> exact Iff.rfl

/-- The keyword of a connective has the shape of its token. -/
theorem Connective.hasShape_keyword (item : Connective) :
    HasShape item.tokenKind item.keyword.toList := by
  cases item with
  | and =>
    have hchars : ∀ d ∈ ['n', 'd'], Lexeme.isWordChar d = true :=
      List.forall_mem_cons.mpr ⟨by decide, List.forall_mem_singleton.mpr (by decide)⟩
    exact Or.inr ⟨isWord_cons_iff.mpr ⟨by decide, hchars⟩, rfl⟩
  | or =>
    have hchars : ∀ d ∈ ['r'], Lexeme.isWordChar d = true :=
      List.forall_mem_singleton.mpr (by decide)
    exact Or.inr ⟨isWord_cons_iff.mpr ⟨by decide, hchars⟩, rfl⟩

/-- A text is cut into one token if it has the shape of its kind. -/
theorem lexesAs_iff {kind : TokenKind} {text : String} (hkind : kind ≠ .endOfInput) :
    LexesAs kind text ↔ HasShape kind text.toList := by
  constructor
  · intro ⟨last, h⟩
    obtain ⟨hmunched, -⟩ := munchedFrom_of_tokensFrom _ h
    exact hmunched.shaped ⟨kind, text, .start⟩ (List.mem_cons_self ..)
  · intro hshape
    have hends : EndsBefore kind text.toList [] := by
      intro c hc
      cases hc
    have hcut := tokensFrom_append .start hkind hshape hends
    rw [List.append_nil, tokensFrom, String.ofList_toList] at hcut
    exact ⟨_, hcut⟩

/-- A text that begins, and not with a blank. -/
def Solid (text : List Char) : Prop :=
  ∃ c ∈ text.head?, Text.isBlank c = false

theorem Solid.append {text : List Char} (h : Solid text) (rest : List Char) :
    Solid (text ++ rest) := by
  obtain ⟨c, hc, hblank⟩ := h
  refine ⟨c, ?_, hblank⟩
  rw [List.head?_append, hc]
  rfl

/-- Only blanks begin with a blank. -/
theorem solid_of_hasShape {kind : TokenKind} {text : List Char} (h : HasShape kind text)
    (hend : kind ≠ .endOfInput) (hblank : kind ≠ .whitespace) : Solid text := by
  have hword : IsWord text → Solid text := by
    intro hw
    obtain ⟨c, hc, hstart⟩ := hw.first
    exact ⟨c, hc, Lexeme.isBlank_of_isWordStart hstart⟩
  cases kind with
  | endOfInput => exact absurd rfl hend
  | whitespace => exact absurd rfl hblank
  | illegal =>
    obtain ⟨c, rfl, hstray | rfl | rfl | rfl⟩ := h
    · exact ⟨c, rfl, hstray.notBlank⟩
    · exact ⟨_, rfl, by decide⟩
    · exact ⟨_, rfl, by decide⟩
    · exact ⟨_, rfl, by decide⟩
  | identifier => exact hword h.1
  | number =>
    obtain ⟨c, hc, hdigit⟩ := IsNumeral.first h
    refine ⟨c, hc, ?_⟩
    by_contra hne
    rw [Lexeme.isDigit_of_isBlank (Bool.not_eq_false _ ▸ hne)] at hdigit
    cases hdigit
  | string =>
    obtain ⟨quote, body, hquote, -, rfl⟩ := h
    refine ⟨quote, rfl, ?_⟩
    rcases Lexeme.eq_of_isQuote hquote with rfl | rfl <;> decide
  | or =>
    rcases h with rfl | h
    · exact ⟨_, rfl, by decide⟩
    · exact hword h.1
  | and =>
    rcases h with rfl | h
    · exact ⟨_, rfl, by decide⟩
    · exact hword h.1
  | _ =>
    obtain rfl : text = _ := h
    exact ⟨_, rfl, by decide⟩

/-! ## Cutting what is printed -/

/-- A text in front of a rest is cut into tokens, whatever the rest is cut into. -/
def CutInto (position : Position) (text rest : List Char) (tokens : List Token) : Prop :=
  tokensFrom position (text ++ rest)
    = (tokensFrom (position.after text) rest).map fun others => tokens ++ others

/-- What stands behind a piece that is printed: nothing, a blank or a closing parenthesis. -/
def Delimits (rest : List Char) : Prop :=
  ∀ c ∈ rest.head?, c = ' ' ∨ c = ')'

theorem delimits_cons {c : Char} {rest : List Char} (h : c = ' ' ∨ c = ')') :
    Delimits (c :: rest) := by
  intro d hd
  obtain rfl := Option.mem_some_iff.mp hd
  exact h

namespace CutInto

variable {position : Position} {a b rest : List Char} {front back : List Token}

/-- Two texts that are cut into tokens one behind the other are cut into the tokens of both. -/
theorem append (ha : CutInto position a (b ++ rest) front)
    (hb : CutInto (position.after a) b rest back) :
    CutInto position (a ++ b) rest (front ++ back) := by
  unfold CutInto at ha hb ⊢
  rw [List.append_assoc, ha, hb, Position.after_append]
  cases tokensFrom ((position.after a).after b) rest with
  | error e => rfl
  | ok others =>
    show Except.ok (front ++ (back ++ others)) = Except.ok (front ++ back ++ others)
    rw [List.append_assoc]

/-- A piece that could not have gone on is a token. -/
theorem token {kind : TokenKind} {text : String} (hend : kind ≠ .endOfInput)
    (hshape : HasShape kind text.toList) (hends : EndsBefore kind text.toList rest) :
    CutInto position text.toList rest [⟨kind, text, position⟩] := by
  unfold CutInto
  rw [tokensFrom_append position hend hshape hends, String.ofList_toList]
  rfl

/-- No piece but a blank goes on with what stands behind it. -/
theorem piece {kind : TokenKind} {text : String} (hend : kind ≠ .endOfInput)
    (hblank : kind ≠ .whitespace) (hshape : HasShape kind text.toList) (hrest : Delimits rest) :
    CutInto position text.toList rest [⟨kind, text, position⟩] := by
  apply token hend hshape
  -- neither of the two goes on with a word or a number, or is the second half of an operator
  intro c hc
  have hclass : Lexeme.isWordChar c = false ∧ Lexeme.isDigit c = false
      ∧ c ∉ ['.', '~', '=', '&', '|'] := by
    rcases hrest c hc with rfl | rfl <;> decide
  obtain ⟨hword, hdigit, hne⟩ := hclass
  simp only [List.mem_cons, List.not_mem_nil, or_false, not_or] at hne
  cases kind with
  | whitespace => exact absurd rfl hblank
  | _ => simp [CanGoOn, hword, hdigit, hne]

/-- A blank in front of something else is a token. -/
theorem blank (h : Solid rest) :
    CutInto position [' '] rest [⟨.whitespace, " ", position⟩] := by
  obtain ⟨c, hc, hdark⟩ := h
  have hends : EndsBefore .whitespace " ".toList rest := by
    intro d hd hblank
    obtain rfl := Option.mem_unique hc hd
    have hblank : Text.isBlank c = true := hblank
    rw [hdark] at hblank
    cases hblank
  have hshape : HasShape .whitespace " ".toList :=
    ⟨List.cons_ne_nil _ _, List.forall_mem_singleton.mpr (by decide)⟩
  exact token (by decide) hshape hends

/-- A blank sets a text apart from what stands before it. -/
theorem spaced (h : Solid b)
    (hb : CutInto (position.after [' ']) b rest back) :
    CutInto position ([' '] ++ b) rest (⟨.whitespace, " ", position⟩ :: back) :=
  (blank (h.append rest)).append hb

end CutInto

/-! ## Printed trees -/

namespace Tree

/-- A tree as it is printed. -/
def text {l : Level} (t : Tree (Sourced Connective) Condition l) : List Char :=
  (t.render (fun connective => connective.item.keyword) Condition.describe).toList

section Text

variable {c : Condition} {operand : Operand} {inner rest : Expr} {joint : Sourced Connective}

/-- A condition as it is printed. -/
theorem text_leaf :
    text (leaf c) = c.name.toList ++ ([' '] ++ (c.operator.symbol.toList
      ++ ([' '] ++ c.literal.token.literal.toList))) := by
  simp [text, render, Condition.describe]

/-- Parentheses around a chain. -/
theorem text_group : text (group inner) = ['('] ++ (inner.text ++ [')']) := by
  simp [text, render]

/-- An operand, a connective and the rest, with blanks between them. -/
theorem text_join :
    text (join operand joint rest) = operand.text ++ ([' '] ++ (joint.item.keyword.toList
      ++ ([' '] ++ rest.text))) := by
  simp [text, render]

end Text

end Tree

/-- A condition as it is read back, its tokens standing at these places. -/
def Condition.Shape.reread (c : Condition.Shape) (a b d : Position) : Condition :=
  ⟨c.name, ⟨.identifier, c.name, a⟩, ⟨c.operator, ⟨c.operator.tokenKind, c.operator.symbol, b⟩⟩,
    ⟨c.value, ⟨c.value.tokenKind, c.literal, d⟩⟩⟩

/-- A connective as it is read back, its token standing at this place. -/
def Connective.reread (item : Connective) (a : Position) : Sourced Connective :=
  ⟨item, ⟨item.tokenKind, item.keyword, a⟩⟩

namespace Condition.Printable

variable {c : Condition}

/-- The name of a condition has the shape of an identifier. -/
theorem hasShape_name (h : c.Printable) : HasShape .identifier c.name.toList :=
  (lexesAs_iff (by decide)).mp h.name

/-- Its literal has the shape of a text or a number. -/
theorem hasShape_literal (h : c.Printable) :
    HasShape c.value.tokenKind c.literal.token.literal.toList := by
  rcases h.literal with ⟨hlexes, hvalue⟩ | ⟨hlexes, value, -, hvalue⟩
  · rw [hvalue]
    show HasShape .string _
    exact (lexesAs_iff (by decide)).mp hlexes
  · rw [hvalue]
    show HasShape .number _
    exact (lexesAs_iff (by decide)).mp hlexes

/-- A condition that was read again is spelled by its tokens. -/
theorem faithful_reread (h : c.Printable) (a b d : Position) : (c.shape.reread a b d).Faithful := by
  refine ⟨rfl, rfl, Comparison.ofKind?_eq_some_iff.mpr rfl, ?_⟩
  rcases h.literal with ⟨-, hvalue⟩ | ⟨-, value, htext, hvalue⟩
  · exact Or.inl ⟨congrArg Value.tokenKind hvalue, hvalue⟩
  · exact Or.inr ⟨congrArg Value.tokenKind hvalue, value, htext, hvalue⟩

end Condition.Printable

theorem Connective.faithful_reread (item : Connective) (a : Position) :
    (item.reread a).Faithful :=
  Connective.ofKind?_eq_some_iff.mpr rfl

theorem Comparison.tokenKind_ne (item : Comparison) :
    item.tokenKind ≠ .endOfInput ∧ item.tokenKind ≠ .whitespace := by
  cases item <;> decide

theorem Connective.tokenKind_ne (item : Connective) :
    item.tokenKind ≠ .endOfInput ∧ item.tokenKind ≠ .whitespace := by
  cases item <;> decide

theorem Value.tokenKind_ne (value : Value) :
    value.tokenKind ≠ .endOfInput ∧ value.tokenKind ≠ .whitespace := by
  cases value
  · exact ⟨by simp [Value.tokenKind], by simp [Value.tokenKind]⟩
  · exact ⟨by simp [Value.tokenKind], by simp [Value.tokenKind]⟩

namespace Tree

variable {l : Level}

/-- What is printed of a tree does not begin with a blank. -/
theorem solid_text {t : Tree (Sourced Connective) Condition l}
    (h : ∀ c ∈ t.leaves, c.Printable) : Solid t.text := by
  induction t with
  | leaf c =>
    have hc := h c (List.mem_singleton_self c)
    rw [text_leaf]
    exact (solid_of_hasShape hc.hasShape_name (by decide) (by decide)).append _
  | group inner _ =>
    rw [text_group]
    exact ⟨'(', rfl, by decide⟩
  | single operand ih => exact ih h
  | join operand joint rest ihOperand _ =>
    rw [text_join]
    exact (ihOperand fun c hc => h c (List.mem_append_left _ hc)).append _

/-- The three tokens of a printed condition have blanks between them. -/
theorem exists_cutInto_leaf {c : Condition} (h : c.Printable) (position : Position)
    {rest : List Char} (hrest : Delimits rest) :
    ∃ a b d x y, CutInto position (text (leaf c)) rest
      [⟨.identifier, c.name, a⟩, ⟨.whitespace, " ", x⟩,
        ⟨c.operator.tokenKind, c.operator.symbol, b⟩, ⟨.whitespace, " ", y⟩,
        ⟨c.value.tokenKind, c.literal.token.literal, d⟩] := by
  have hname := h.hasShape_name
  have hoperator := Comparison.hasShape_iff.mpr (rfl : c.operator.symbol.toList = _)
  have hliteral := h.hasShape_literal
  obtain ⟨hoperatorEnd, hoperatorBlank⟩ := c.operator.tokenKind_ne
  obtain ⟨hvalueEnd, hvalueBlank⟩ := c.value.tokenKind_ne
  -- from the right to the left, because a text has to know what it stands in front of
  have hcutLiteral : ∀ p, CutInto p ([' '] ++ c.literal.token.literal.toList) rest _ := fun p =>
    .spaced (solid_of_hasShape hliteral hvalueEnd hvalueBlank)
      (.piece hvalueEnd hvalueBlank hliteral hrest)
  have hcutOperator : ∀ p, CutInto p ([' '] ++ (c.operator.symbol.toList
      ++ ([' '] ++ c.literal.token.literal.toList))) rest _ := fun p =>
    .spaced ((solid_of_hasShape hoperator hoperatorEnd hoperatorBlank).append _)
      (.append (.piece hoperatorEnd hoperatorBlank hoperator (delimits_cons (Or.inl rfl)))
        (hcutLiteral _))
  have hcutName : ∀ after, CutInto position c.name.toList (' ' :: after)
      [⟨.identifier, c.name, position⟩] := fun _ =>
    .piece (by decide) (by decide) hname (delimits_cons (Or.inl rfl))
  rw [text_leaf]
  exact ⟨_, _, _, _, _, (hcutName _).append (hcutOperator _)⟩

/-- A connective has blanks around it. -/
theorem cutInto_joint {position : Position} {text rest : List Char} {back : List Token}
    (item : Connective) (htext : Solid text)
    (hback : CutInto (((position.after [' ']).after item.keyword.toList).after [' ']) text rest
      back) :
    CutInto position ([' '] ++ (item.keyword.toList ++ ([' '] ++ text))) rest
      (⟨.whitespace, " ", position⟩ :: (item.reread (position.after [' '])).token
        :: ⟨.whitespace, " ", (position.after [' ']).after item.keyword.toList⟩ :: back) := by
  have hkeyword := item.hasShape_keyword
  obtain ⟨hend, hblank⟩ := item.tokenKind_ne
  have hcutKeyword : ∀ after, CutInto (position.after [' ']) item.keyword.toList (' ' :: after)
      [(item.reread (position.after [' '])).token] := fun _ =>
    .piece hend hblank hkeyword (delimits_cons (Or.inl rfl))
  exact .spaced ((solid_of_hasShape hkeyword hend hblank).append _)
    ((hcutKeyword _).append (.spaced htext hback))

/-- A printed tree in front of a delimiter is cut into tokens that, blanks apart, spell a tree of
the same shape. -/
theorem exists_reread (t : Tree (Sourced Connective) Condition l)
    (h : ∀ c ∈ t.leaves, c.Printable) (position : Position) {rest : List Char}
    (hrest : Delimits rest) :
    ∃ tokens, ∃ t' : Tree (Sourced Connective) Condition l,
      CutInto position t.text rest tokens ∧ t'.SpelledBy (withoutWhitespace tokens)
        ∧ t'.map Sourced.item Condition.shape = t.map Sourced.item Condition.shape := by
  -- on the tree, for every place and every delimiter: an operand stands in front of a blank, what
  -- is in parentheses in front of the closing one
  induction t generalizing position rest with
  | leaf c =>
    have hc := h c (List.mem_singleton_self c)
    obtain ⟨a, b, d, x, y, hcut⟩ := exists_cutInto_leaf hc position hrest
    refine ⟨_, leaf (c.shape.reread a b d), hcut, ?_, rfl⟩
    have hoperator := c.operator.tokenKind_ne.2
    have hvalue := c.value.tokenKind_ne.2
    refine spelledBy_leaf_iff.mpr ⟨?_, hc.faithful_reread a b d⟩
    simp [withoutWhitespace, hoperator, hvalue, Condition.tokens, Condition.Shape.reread,
      Condition.shape]
  | group inner ih =>
    have hright : HasShape .rightParen ")".toList := rfl
    have hleft : HasShape .leftParen "(".toList := rfl
    have hclosing : ∀ p, CutInto p [')'] rest [⟨.rightParen, ")", p⟩] := fun p =>
      .piece (by decide) (by decide) hright hrest
    obtain ⟨tokens, inner', hcut, hspelled, hshape⟩ :=
      ih h (position.after ['(']) (delimits_cons (Or.inr rfl))
    have hopening : CutInto position ['('] (inner.text ++ [')'] ++ rest)
        [⟨.leftParen, "(", position⟩] :=
      .token (by decide) hleft (fun _ _ => id)
    have hall := hopening.append (hcut.append (hclosing _))
    rw [← text_group] at hall
    refine ⟨_, group inner', hall, ?_, ?_⟩
    · rw [withoutWhitespace_append, withoutWhitespace_append,
        withoutWhitespace_singleton (by simp), withoutWhitespace_singleton (by simp)]
      exact spelledBy_group_iff.mpr ⟨_, _, _, rfl, rfl, rfl, hspelled⟩
    · rw [map, map, hshape]
  | single operand ih =>
    obtain ⟨tokens, operand', hcut, hspelled, hshape⟩ := ih h position hrest
    refine ⟨tokens, single operand', hcut, spelledBy_single_iff.mpr hspelled, ?_⟩
    rw [map, map, hshape]
  | join operand joint rest' ihOperand ihRest =>
    have hoperand : ∀ c ∈ operand.leaves, c.Printable := fun c hc =>
      h c (List.mem_append_left _ hc)
    have hrest' : ∀ c ∈ rest'.leaves, c.Printable := fun c hc => h c (List.mem_append_right _ hc)
    have hbehind : Delimits
        ([' '] ++ (joint.item.keyword.toList ++ ([' '] ++ rest'.text)) ++ rest) :=
      delimits_cons (Or.inl rfl)
    obtain ⟨front, operand', hcutOperand, hspelledOperand, hshapeOperand⟩ :=
      ihOperand hoperand position hbehind
    obtain ⟨back, rest'', hcutRest, hspelledRest, hshapeRest⟩ := ihRest hrest' _ hrest
    have hall := hcutOperand.append (cutInto_joint joint.item (solid_text hrest') hcutRest)
    rw [← text_join] at hall
    refine ⟨_, join operand' (joint.item.reread ((position.after operand.text).after [' '])) rest'',
      hall, ?_, ?_⟩
    · refine spelledBy_join_iff.mpr ⟨_, _, ?_, hspelledOperand,
        joint.item.faithful_reread _, hspelledRest⟩
      have hblank := joint.item.tokenKind_ne.2
      simp [withoutWhitespace, hblank, Connective.reread]
    · rw [map, map, hshapeOperand, hshapeRest]
      rfl

end Tree

/-- A text is read as the tree that its tokens spell, blanks apart. -/
theorem Expr.ofText_eq_of_tokenize {text : String} {tokens : List Token} {last : Token} {e : Expr}
    (h : tokenize text = .ok (tokens ++ [last])) (hlast : last.kind = .endOfInput)
    (he : e.SpelledBy (withoutWhitespace tokens)) (hdepth : e.depth ≤ maxNesting) :
    Expr.ofText text = .ok e := by
  have hremaining : (Cursor.ofTokens (tokens ++ [last]) true).remaining
      = withoutWhitespace tokens ++ [last] := withoutWhitespace_ended hlast
  have haccepts := Cursor.accepts_of_remaining hremaining hlast
    (isExpression_iff.mpr ⟨e, he, hdepth⟩)
  have hread := Cursor.read_eq_of_spelledBy haccepts (by rwa [Cursor.upTo_of_remaining hremaining])
  rw [Expr.ofText, Cursor.ofText, h]
  simp only [hread]

/-- What can be printed is read back with its shape. -/
theorem Expr.exists_ofText_describe {e : Expr} (h : e.Printable) :
    ∃ e', Expr.ofText e.describe = .ok e' ∧ e'.shape = e.shape := by
  have hend : Delimits [] := by
    intro c hc
    cases hc
  obtain ⟨tokens, e', hcut, hspelled, hshape⟩ := Tree.exists_reread e h.conditions .start hend
  have hshape : Expr.shape e' = e.shape := hshape
  have hdepth : e'.depth ≤ maxNesting := by
    rw [Expr.depth_eq_of_shape hshape]
    exact h.nested
  -- what the printed text is cut into, now that nothing is behind it
  unfold CutInto at hcut
  rw [List.append_nil, tokensFrom] at hcut
  exact ⟨e', Expr.ofText_eq_of_tokenize hcut rfl hspelled hdepth, hshape⟩

/-! ## Trees that were read -/

namespace Tree

variable {l : Level} {tokens : List Token}

/-- The tokens of the conditions of a tree are among those that spell it. -/
theorem SpelledBy.leaves {t : Tree (Sourced Connective) Condition l} (h : t.SpelledBy tokens) :
    ∀ c ∈ t.leaves, c.Faithful ∧ ∀ token ∈ c.tokens, token ∈ tokens := by
  induction t generalizing tokens with
  | leaf c =>
    obtain ⟨rfl, hc⟩ := spelledBy_leaf_iff.mp h
    intro d hd
    obtain rfl := List.mem_singleton.mp hd
    exact ⟨hc, fun _ => id⟩
  | group inner ih =>
    obtain ⟨opening, within, closing, rfl, -, -, hinner⟩ := spelledBy_group_iff.mp h
    intro c hc
    obtain ⟨hfaithful, htokens⟩ := ih hinner c hc
    refine ⟨hfaithful, fun token ht => ?_⟩
    exact List.mem_cons_of_mem _ (List.mem_append_left _ (htokens token ht))
  | single operand ih => exact ih (spelledBy_single_iff.mp h)
  | join operand joint rest ihOperand ihRest =>
    obtain ⟨front, back, rfl, hoperand, -, hrest⟩ := spelledBy_join_iff.mp h
    intro c hc
    rcases List.mem_append.mp hc with hc | hc
    · obtain ⟨hfaithful, htokens⟩ := ihOperand hoperand c hc
      exact ⟨hfaithful, fun token ht => List.mem_append_left _ (htokens token ht)⟩
    · obtain ⟨hfaithful, htokens⟩ := ihRest hrest c hc
      refine ⟨hfaithful, fun token ht => ?_⟩
      exact List.mem_append_right _ (List.mem_cons_of_mem _ (htokens token ht))

end Tree

/-- What was read from a text is spelled by tokens that have the shapes of their kinds. -/
theorem Expr.exists_spelledBy_of_ofText {text : String} {e : Expr} (h : Expr.ofText text = .ok e) :
    ∃ tokens, e.SpelledBy tokens ∧ e.depth ≤ maxNesting
      ∧ ∀ token ∈ tokens, HasShape token.kind token.literal.toList := by
  rw [Expr.ofText, Cursor.ofText] at h
  cases htokenize : tokenize text with
  | error error =>
    rw [htokenize] at h
    cases h
  | ok tokens =>
    rw [htokenize] at h
    obtain ⟨j, hj, hspelled⟩ := Cursor.exists_accepts_of_read h
    obtain ⟨hmunched, -⟩ := munchedFrom_of_tokensFrom _ htokenize
    refine ⟨_, hspelled, ?_, ?_⟩
    · have hnested := hj.expression.nested
      rwa [(hspelled.opened []).2, List.length_nil, Nat.zero_add] at hnested
    -- the tokens of the tree are tokens of the text
    · intro token ht
      have hmem : token ∈ withoutWhitespace tokens :=
        List.mem_of_mem_drop (List.mem_of_mem_take ht)
      exact hmunched.shaped token (List.mem_of_mem_filter hmem)

section Read

variable {tokens : List Token}

/-- A condition that was read can be printed. -/
theorem Condition.Faithful.printable {c : Condition} (h : c.Faithful)
    (hshaped : ∀ token ∈ c.tokens, HasShape token.kind token.literal.toList) : c.Printable := by
  have hidentifier := hshaped c.identifier (by simp [Condition.tokens])
  have hliteral := hshaped c.literal.token (by simp [Condition.tokens])
  rw [h.identifier, ← h.name] at hidentifier
  refine ⟨(lexesAs_iff (by decide)).mpr hidentifier, ?_⟩
  rcases h.literal with ⟨hkind, hvalue⟩ | ⟨hkind, hvalue⟩
  · rw [hkind] at hliteral
    exact Or.inl ⟨(lexesAs_iff (by decide)).mpr hliteral, hvalue⟩
  · rw [hkind] at hliteral
    exact Or.inr ⟨(lexesAs_iff (by decide)).mpr hliteral, hvalue⟩

/-- A condition that was read is, places apart, what its shape is read back as. -/
theorem Condition.Faithful.unplaced_eq {c : Condition} (h : c.Faithful)
    (hshaped : ∀ token ∈ c.tokens, HasShape token.kind token.literal.toList) :
    c.unplaced = c.shape.reread .start .start .start := by
  have hcomparison := hshaped c.comparison.token (by simp [Condition.tokens])
  have hkind := Comparison.ofKind?_eq_some_iff.mp h.comparison
  rw [hkind, Comparison.hasShape_iff] at hcomparison
  have hsymbol : c.comparison.token.literal = c.operator.symbol := String.toList_inj.mp hcomparison
  have hvalue : c.literal.token.kind = c.value.tokenKind := by
    rcases h.literal with ⟨hk, hv⟩ | ⟨hk, value, -, hv⟩
    · rw [hk, hv]
      rfl
    · rw [hk, hv]
      rfl
  simp [Condition.unplaced, Token.unplaced, Condition.Shape.reread, Condition.shape, h.identifier,
    ← h.name, hkind, hsymbol, hvalue]

theorem Sourced.Faithful.unspelled_eq {joint : Sourced Connective} (h : joint.Faithful) :
    joint.unspelled = ⟨joint.item, ⟨joint.item.tokenKind, "", .start⟩⟩ := by
  rw [Sourced.unspelled, Connective.ofKind?_eq_some_iff.mp h]

/-- A tree that was read is determined by its shape, up to places and the spelling of
connectives. -/
theorem Tree.SpelledBy.unplaced_eq {l : Level} {t : Tree (Sourced Connective) Condition l}
    (h : t.SpelledBy tokens)
    (hshaped : ∀ token ∈ tokens, HasShape token.kind token.literal.toList) :
    t.map Sourced.unspelled Condition.unplaced
      = (t.map Sourced.item Condition.shape).map
          (fun item => (⟨item, ⟨item.tokenKind, "", .start⟩⟩ : Sourced Connective))
          (fun c => c.reread .start .start .start) := by
  induction t generalizing tokens with
  | leaf c =>
    obtain ⟨rfl, hc⟩ := spelledBy_leaf_iff.mp h
    rw [map, map, map, hc.unplaced_eq hshaped]
  | group inner ih =>
    obtain ⟨opening, within, closing, rfl, -, -, hinner⟩ := spelledBy_group_iff.mp h
    rw [map, map, map, ih hinner fun token ht => hshaped token (by simp [ht])]
  | single operand ih => rw [map, map, map, ih (spelledBy_single_iff.mp h) hshaped]
  | join operand joint rest ihOperand ihRest =>
    obtain ⟨front, back, rfl, hoperand, hjoint, hrest⟩ := spelledBy_join_iff.mp h
    rw [map, map, map, hjoint.unspelled_eq,
      ihOperand hoperand fun token ht => hshaped token (by simp [ht]),
      ihRest hrest fun token ht => hshaped token (by simp [ht])]

end Read

/-- An expression that was read can be printed. -/
theorem Expr.printable_of_ofText {text : String} {e : Expr} (h : Expr.ofText text = .ok e) :
    e.Printable := by
  obtain ⟨tokens, hspelled, hdepth, hshaped⟩ := Expr.exists_spelledBy_of_ofText h
  refine ⟨fun c hc => ?_, hdepth⟩
  obtain ⟨hfaithful, htokens⟩ := hspelled.leaves c hc
  exact hfaithful.printable fun token ht => hshaped token (htokens token ht)

/-- **Printing and reading are inverse up to what printing does not show.** An expression that
can be printed is read back with the same shape, and printed in the same way again. All
expressions that were read can be printed, and these differ from what is read back only in the
places of their tokens and in the spelling of connectives. -/
theorem describe_roundTrip :
    (∀ e : Expr, e.Printable → ∃ e', Expr.ofText e.describe = .ok e' ∧ e'.shape = e.shape
        ∧ e'.describe = e.describe)
      ∧ ∀ text, ∀ e : Expr, Expr.ofText text = .ok e → e.Printable
        ∧ ∃ e', Expr.ofText e.describe = .ok e' ∧ e'.unplaced = e.unplaced := by
  -- what is erased is the same function of the shape for both readings
  have hunplaced : ∀ text, ∀ e : Expr, Expr.ofText text = .ok e →
      e.unplaced = e.shape.map (fun item => ⟨item, ⟨item.tokenKind, "", .start⟩⟩)
        (fun c => c.reread .start .start .start) := by
    intro text e h
    obtain ⟨tokens, hspelled, -, hshaped⟩ := Expr.exists_spelledBy_of_ofText h
    exact hspelled.unplaced_eq hshaped
  constructor
  · intro e h
    obtain ⟨e', hread, hshape⟩ := Expr.exists_ofText_describe h
    exact ⟨e', hread, hshape, Expr.describe_eq_of_shape hshape⟩
  · intro text e h
    have hprintable := Expr.printable_of_ofText h
    obtain ⟨e', hread, hshape⟩ := Expr.exists_ofText_describe hprintable
    refine ⟨hprintable, e', hread, ?_⟩
    rw [hunplaced _ e' hread, hunplaced text e h, hshape]

/-- A string with an escaped quote and a parenthesis in it, in a tree that was never read. -/
theorem describe_roundTrip_quoted :
    let nowhere : Token := ⟨.illegal, "", .start⟩
    let c : Condition :=
      ⟨"a", nowhere, ⟨.less, nowhere⟩, ⟨.string "'\\')'", ⟨.illegal, "'\\')'", .start⟩⟩⟩
    let e : Expr := .join (.group (.single (.leaf c))) ⟨.or, nowhere⟩ (.single (.leaf c))
    e.Printable ∧ ∃ e', Expr.ofText e.describe = .ok e' ∧ e'.shape = e.shape
      ∧ e'.describe = e.describe ∧ e'.Printable := by
  intro nowhere c e
  have hname : HasShape .identifier "a".toList :=
    ⟨isWord_cons_iff.mpr ⟨by decide, by simp⟩, by decide, by decide⟩
  have hliteral : HasShape .string "'\\')'".toList :=
    ⟨'\'', ['\\', '\'', ')'], rfl, .escaped _ (.plain (by decide) (by decide) .nil), rfl⟩
  have hc : c.Printable :=
    ⟨(lexesAs_iff (by decide)).mpr hname, Or.inl ⟨(lexesAs_iff (by decide)).mpr hliteral, rfl⟩⟩
  have he : e.Printable := by
    refine ⟨fun d hd => ?_, by decide⟩
    have hd : d ∈ [c, c] := hd
    simp only [List.mem_cons, List.not_mem_nil, or_false, or_self] at hd
    rwa [hd]
  obtain ⟨e', hread, hshape, hdescribe⟩ := describe_roundTrip.1 e he
  exact ⟨he, e', hread, hshape, hdescribe, (describe_roundTrip.2 _ e' hread).1⟩

end RecordFilter
