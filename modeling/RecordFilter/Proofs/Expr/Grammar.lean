import Mathlib.Data.List.Basic
import RecordFilter.Expr.Reader

/-!
# The grammar of expressions

What an expression is, as a row of tokens and as a tree, without the machine that reads one:

* `Derives` is the grammar over rows of tokens, `IsExpression` adds the two limits that the
  grammar does not know, on the nesting of parentheses and on the size of numbers;
* `Tree.SpelledBy` says that a tree, read from left to right, is a row of tokens. A tree keeps no
  parentheses, so their texts and places are free; everything else has to be there, in order, and
  every node has to be what its tokens say.

`isExpression_iff` joins the two: a row of tokens is an expression if and only if it spells a tree
that is not nested too deep.
-/

namespace RecordFilter

/-! ## Rows of tokens -/

/-- The kinds of token that spell a comparison. -/
def comparisonKinds : List TokenKind :=
  [.equals, .notEquals, .matching, .notMatching, .less, .lessOrEqual, .greater, .greaterOrEqual]

/-- The grammar: a chain is operands with connectives between them, an operand is a condition or a
chain in parentheses, and a condition is an identifier, a comparison and a literal. -/
inductive Derives : Level → List Token → Prop where
  | condition {identifier comparison literal : Token}
    (hidentifier : identifier.kind = .identifier)
    (hcomparison : comparison.kind ∈ comparisonKinds)
    (hliteral : literal.kind = .string ∨ literal.kind = .number) :
    Derives .operand [identifier, comparison, literal]
  | group {opening closing : Token} {inner : List Token} (hopening : opening.kind = .leftParen)
    (hinner : Derives .chain inner) (hclosing : closing.kind = .rightParen) :
    Derives .operand (opening :: (inner ++ [closing]))
  | single {operand : List Token} (hoperand : Derives .operand operand) : Derives .chain operand
  | join {operand rest : List Token} {connective : Token} (hoperand : Derives .operand operand)
    (hconnective : connective.kind = .and ∨ connective.kind = .or)
    (hrest : Derives .chain rest) : Derives .chain (operand ++ connective :: rest)

/-- The end of the input is no part of an expression. -/
theorem Derives.kind_ne_endOfInput {l : Level} {tokens : List Token} (h : Derives l tokens) :
    ∀ token ∈ tokens, token.kind ≠ .endOfInput := by
  induction h with
  | condition hidentifier hcomparison hliteral =>
    intro token ht
    simp only [List.mem_cons, List.not_mem_nil, or_false] at ht
    rcases ht with rfl | rfl | rfl
    · rw [hidentifier]
      decide
    · intro hkind
      rw [hkind] at hcomparison
      exact absurd hcomparison (by decide)
    · rcases hliteral with hkind | hkind <;> rw [hkind] <;> decide
  | group hopening _ hclosing ih =>
    intro token ht
    simp only [List.mem_cons, List.mem_append, List.not_mem_nil, or_false] at ht
    rcases ht with rfl | ht | rfl
    · rw [hopening]
      decide
    · exact ih token ht
    · rw [hclosing]
      decide
  | single _ ih => exact ih
  | join _ hconnective _ ihOperand ihRest =>
    intro token ht
    rcases List.mem_append.mp ht with ht | ht
    · exact ihOperand token ht
    · rcases List.mem_cons.mp ht with rfl | ht
      · rcases hconnective with hkind | hkind <;> rw [hkind] <;> decide
      · exact ihRest token ht

/-! ## Nesting -/

/-- The parentheses that are open behind a token, innermost first. -/
def openAfter (opened : List Token) (token : Token) : List Token :=
  match token.kind with
  | .leftParen => token :: opened
  | .rightParen => opened.tail
  | _ => opened

/-- The parentheses that tokens open and do not close, innermost first. -/
def openParens (tokens : List Token) : List Token :=
  tokens.foldl openAfter []

/-- How many parentheses are open at once, at most, from `opened` on. -/
def deepest (opened : List Token) : List Token → Nat
  | [] => opened.length
  | token :: rest => max opened.length (deepest (openAfter opened token) rest)

theorem openAfter_of_leftParen {token : Token} (opened : List Token)
    (h : token.kind = .leftParen) : openAfter opened token = token :: opened := by
  rw [openAfter, h]

theorem openAfter_of_rightParen {token : Token} (opened : List Token)
    (h : token.kind = .rightParen) : openAfter opened token = opened.tail := by
  rw [openAfter, h]

theorem openAfter_of_noParen {token : Token} (opened : List Token) (hl : token.kind ≠ .leftParen)
    (hr : token.kind ≠ .rightParen) : openAfter opened token = opened := by
  unfold openAfter
  split
  · next h => exact absurd h hl
  · next h => exact absurd h hr
  · rfl

/-- The depth of a row is that of its front, or that of the rest behind the parentheses that are
open there. -/
theorem deepest_append (opened a b : List Token) :
    deepest opened (a ++ b)
      = max (deepest opened a) (deepest (a.foldl openAfter opened) b) := by
  induction a generalizing opened with
  | nil =>
    rw [List.nil_append, List.foldl_nil]
    cases b with
    | nil => rw [deepest, Nat.max_self]
    | cons token b => rw [deepest, deepest, ← Nat.max_assoc, Nat.max_self]
  | cons token a ih =>
    rw [List.cons_append, deepest, deepest, List.foldl_cons, ih, Nat.max_assoc]

/-- No comparison is spelled by a parenthesis. -/
theorem noParen_of_mem_comparisonKinds {kind : TokenKind} (h : kind ∈ comparisonKinds) :
    kind ≠ .leftParen ∧ kind ≠ .rightParen := by
  have hall : ∀ kind ∈ comparisonKinds, kind ≠ .leftParen ∧ kind ≠ .rightParen := by decide
  exact hall kind h

/-! ## Expressions -/

/-- The tokens of an expression: they derive from the grammar, parentheses are not nested too
deep, and every number is one that a finite double is nearest to. -/
structure IsExpression (tokens : List Token) : Prop where
  derives : Derives .chain tokens
  nested : deepest [] tokens ≤ maxNesting
  finite : ∀ token ∈ tokens, token.kind = .number →
    ∃ value, Binary64.ofText? token.literal.toList = some value

/-! ## Trees from left to right -/

/-- What a tree shows of a token: of parentheses no more than that they stand there. -/
inductive Mark where
  | opening
  | closing
  | token (token : Token)

/-- A token as a tree shows it. -/
def Token.mark (token : Token) : Mark :=
  match token.kind with
  | .leftParen => .opening
  | .rightParen => .closing
  | _ => .token token

/-- The tokens of a condition. -/
def Condition.tokens (c : Condition) : List Token :=
  [c.identifier, c.comparison.token, c.literal.token]

/-- The name, the comparison and the value of a condition are what its tokens say. -/
structure Condition.Faithful (c : Condition) : Prop where
  identifier : c.identifier.kind = .identifier
  name : c.name = c.identifier.literal
  comparison : Comparison.ofKind? c.comparison.token.kind = some c.operator
  literal : (c.literal.token.kind = .string ∧ c.value = .string c.literal.token.literal)
    ∨ (c.literal.token.kind = .number ∧ ∃ value,
        Binary64.ofText? c.literal.token.literal.toList = some value ∧ c.value = .number value)

/-- A connective is what its token says. -/
def Sourced.Faithful (joint : Sourced Connective) : Prop :=
  Connective.ofKind? joint.token.kind = some joint.item

namespace Tree

/-- The tokens of a piece, as a tree shows them. -/
def Piece.marks : Piece (Sourced Connective) Condition → List Mark
  | .opening => [.opening]
  | .closing => [.closing]
  | .connective joint => [.token joint.token]
  | .leaf c => c.tokens.map .token

/-- A piece is what its tokens say. -/
def Piece.Faithful : Piece (Sourced Connective) Condition → Prop
  | .opening => True
  | .closing => True
  | .connective joint => joint.Faithful
  | .leaf c => c.Faithful

variable {l : Level}

/-- The tokens of a tree from left to right. -/
def marks (t : Tree (Sourced Connective) Condition l) : List Mark :=
  t.pieces.flatMap Piece.marks

/-- Every node of a tree is what its tokens say. -/
def Faithful (t : Tree (Sourced Connective) Condition l) : Prop :=
  ∀ piece ∈ t.pieces, piece.Faithful

/-- A tree is, from left to right, a row of tokens, and its nodes are what these say. -/
structure SpelledBy (t : Tree (Sourced Connective) Condition l) (tokens : List Token) : Prop where
  marks : tokens.map Token.mark = t.marks
  faithful : t.Faithful

end Tree

/-! ## Marks -/

theorem Token.mark_eq_opening_iff {token : Token} :
    token.mark = .opening ↔ token.kind = .leftParen := by
  unfold Token.mark
  split <;> simp_all

theorem Token.mark_eq_closing_iff {token : Token} :
    token.mark = .closing ↔ token.kind = .rightParen := by
  unfold Token.mark
  split <;> simp_all

/-- All tokens but parentheses are marked as themselves. -/
theorem Token.mark_eq_token_iff {token other : Token} :
    token.mark = .token other
      ↔ token = other ∧ other.kind ≠ .leftParen ∧ other.kind ≠ .rightParen := by
  unfold Token.mark
  split <;> grind

/-! ## Kinds of tokens -/

/-- The kinds of tokens that are comparisons. -/
theorem Comparison.exists_ofKind?_iff {kind : TokenKind} :
    (∃ comparison, Comparison.ofKind? kind = some comparison) ↔ kind ∈ comparisonKinds := by
  cases kind <;> simp [Comparison.ofKind?, comparisonKinds]

/-- The kinds of tokens that are connectives. -/
theorem Connective.exists_ofKind?_iff {kind : TokenKind} :
    (∃ connective, Connective.ofKind? kind = some connective) ↔ kind = .and ∨ kind = .or := by
  cases kind <;> simp [Connective.ofKind?]

/-- A connective that is spelled by its token has a token for one. -/
theorem Sourced.Faithful.kind {joint : Sourced Connective} (h : joint.Faithful) :
    joint.token.kind = .and ∨ joint.token.kind = .or :=
  Connective.exists_ofKind?_iff.mp ⟨_, h⟩

namespace Condition.Faithful

variable {c : Condition}

/-- A condition that is spelled by its tokens has a token for a comparison in the middle. -/
theorem comparison_kind (h : c.Faithful) : c.comparison.token.kind ∈ comparisonKinds :=
  Comparison.exists_ofKind?_iff.mp ⟨_, h.comparison⟩

/-- A condition that is spelled by its tokens has a text or a number at the end. -/
theorem literal_kind (h : c.Faithful) :
    c.literal.token.kind = .string ∨ c.literal.token.kind = .number :=
  h.literal.imp And.left And.left

/-- None of the tokens of a condition is a parenthesis. -/
theorem noParen (h : c.Faithful) :
    ∀ token ∈ c.tokens, token.kind ≠ .leftParen ∧ token.kind ≠ .rightParen := by
  intro token ht
  simp only [Condition.tokens, List.mem_cons, List.not_mem_nil, or_false] at ht
  rcases ht with rfl | rfl | rfl
  · rw [h.identifier]
    decide
  · exact noParen_of_mem_comparisonKinds h.comparison_kind
  · rcases h.literal_kind with hk | hk <;> rw [hk] <;> decide

end Condition.Faithful

/-- Marks of tokens that are no parentheses belong to these tokens alone. -/
theorem eq_of_map_mark_eq {tokens others : List Token}
    (h : tokens.map Token.mark = others.map .token) : tokens = others := by
  induction others generalizing tokens with
  | nil => exact List.map_eq_nil_iff.mp h
  | cons other others ih =>
    obtain ⟨token, rest, rfl, htoken, hrest⟩ := List.map_eq_cons_iff.mp h
    rw [(Token.mark_eq_token_iff.mp htoken).1, ih hrest]

/-- Where there are no parentheses the marks are the tokens. -/
theorem map_mark_eq_of_noParen {tokens : List Token}
    (h : ∀ token ∈ tokens, token.kind ≠ .leftParen ∧ token.kind ≠ .rightParen) :
    tokens.map Token.mark = tokens.map .token := by
  apply List.map_congr_left
  intro token ht
  exact Token.mark_eq_token_iff.mpr ⟨rfl, h token ht⟩

/-! ## Trees form by form -/

namespace Tree

section Forms

variable {tokens : List Token} {c : Condition} {operand : Operand} {inner rest : Expr}
  {joint : Sourced Connective}

/-- A condition is spelled by its own tokens. -/
theorem spelledBy_leaf_iff : SpelledBy (leaf c) tokens ↔ tokens = c.tokens ∧ c.Faithful := by
  constructor
  · rintro ⟨hmarks, hfaithful⟩
    have hc : c.Faithful := hfaithful (.leaf c) (List.mem_singleton_self _)
    refine ⟨eq_of_map_mark_eq ?_, hc⟩
    rw [hmarks]
    exact List.append_nil _
  · rintro ⟨rfl, hc⟩
    constructor
    · rw [map_mark_eq_of_noParen hc.noParen]
      exact (List.append_nil _).symm
    · intro piece hpiece
      obtain rfl := List.mem_singleton.mp hpiece
      exact hc

/-- A chain in parentheses is spelled by these and by what spells the chain. -/
theorem spelledBy_group_iff :
    SpelledBy (group inner) tokens ↔
      ∃ opening within closing, tokens = opening :: (within ++ [closing])
        ∧ opening.kind = .leftParen ∧ closing.kind = .rightParen ∧ inner.SpelledBy within := by
  have hmarks : (group inner).marks = .opening :: (inner.marks ++ [.closing]) := by
    simp [marks, pieces, Piece.marks]
  constructor
  · rintro ⟨htokens, hfaithful⟩
    rw [hmarks] at htokens
    -- cut the tokens where the marks are cut
    obtain ⟨opening, others, rfl, hopening, hothers⟩ := List.map_eq_cons_iff.mp htokens
    obtain ⟨within, last, rfl, hwithin, hlast⟩ := List.map_eq_append_iff.mp hothers
    obtain ⟨closing, nothing, rfl, hclosing, hnothing⟩ := List.map_eq_cons_iff.mp hlast
    obtain rfl := List.map_eq_nil_iff.mp hnothing
    refine ⟨opening, within, closing, rfl, Token.mark_eq_opening_iff.mp hopening,
      Token.mark_eq_closing_iff.mp hclosing, hwithin, fun piece hpiece => hfaithful piece ?_⟩
    simp [pieces, hpiece]
  · rintro ⟨opening, within, closing, rfl, hopening, hclosing, hinner⟩
    constructor
    · rw [hmarks, List.map_cons, List.map_append, hinner.marks,
        Token.mark_eq_opening_iff.mpr hopening, List.map_singleton,
        Token.mark_eq_closing_iff.mpr hclosing]
    · intro piece hpiece
      simp only [pieces, List.mem_cons, List.mem_append, List.not_mem_nil, or_false] at hpiece
      rcases hpiece with rfl | hpiece | rfl
      · trivial
      · exact hinner.faithful piece hpiece
      · trivial

theorem spelledBy_single_iff : SpelledBy (single operand) tokens ↔ operand.SpelledBy tokens :=
  ⟨fun h => ⟨h.marks, h.faithful⟩, fun h => ⟨h.marks, h.faithful⟩⟩

/-- A chain is spelled by its first operand, a connective and the rest. -/
theorem spelledBy_join_iff :
    SpelledBy (join operand joint rest) tokens ↔
      ∃ front back, tokens = front ++ joint.token :: back ∧ operand.SpelledBy front
        ∧ joint.Faithful ∧ rest.SpelledBy back := by
  have hmarks : (join operand joint rest).marks
      = operand.marks ++ .token joint.token :: rest.marks := by
    simp [marks, pieces, Piece.marks]
  constructor
  · rintro ⟨htokens, hfaithful⟩
    rw [hmarks] at htokens
    obtain ⟨front, others, rfl, hfront, hothers⟩ := List.map_eq_append_iff.mp htokens
    obtain ⟨token, back, rfl, htoken, hback⟩ := List.map_eq_cons_iff.mp hothers
    obtain rfl := (Token.mark_eq_token_iff.mp htoken).1
    refine ⟨front, back, rfl, ⟨hfront, fun piece hpiece => hfaithful piece ?_⟩,
      hfaithful (.connective joint) ?_, ⟨hback, fun piece hpiece => hfaithful piece ?_⟩⟩
    all_goals simp [pieces, *]
  · rintro ⟨front, back, rfl, hoperand, hjoint, hrest⟩
    constructor
    · have hmark : joint.token.mark = .token joint.token :=
        Token.mark_eq_token_iff.mpr ⟨rfl, by rcases hjoint.kind with hk | hk <;> rw [hk] <;> decide⟩
      rw [hmarks, List.map_append, List.map_cons, hoperand.marks, hrest.marks, hmark]
    · intro piece hpiece
      simp only [pieces, List.mem_cons, List.mem_append] at hpiece
      rcases hpiece with hpiece | rfl | hpiece
      · exact hoperand.faithful piece hpiece
      · exact hjoint
      · exact hrest.faithful piece hpiece

end Forms

variable {l : Level} {tokens : List Token}

/-- What spells a tree derives from the grammar. -/
theorem SpelledBy.derives {t : Tree (Sourced Connective) Condition l} (h : t.SpelledBy tokens) :
    Derives l tokens := by
  -- on the tree: each form is one rule of the grammar
  induction t generalizing tokens with
  | leaf c =>
    obtain ⟨rfl, hc⟩ := spelledBy_leaf_iff.mp h
    exact .condition hc.identifier hc.comparison_kind hc.literal_kind
  | group inner ih =>
    obtain ⟨opening, within, closing, rfl, hopening, hclosing, hinner⟩ :=
      spelledBy_group_iff.mp h
    exact .group hopening (ih hinner) hclosing
  | single operand ih => exact .single (ih (spelledBy_single_iff.mp h))
  | join operand joint rest ihOperand ihRest =>
    obtain ⟨front, back, rfl, hoperand, hjoint, hrest⟩ := spelledBy_join_iff.mp h
    exact .join (ihOperand hoperand) hjoint.kind (ihRest hrest)

/-- The numbers among the tokens of a tree are within reach. -/
theorem SpelledBy.finite {t : Tree (Sourced Connective) Condition l} (h : t.SpelledBy tokens) :
    ∀ token ∈ tokens, token.kind = .number →
      ∃ value, Binary64.ofText? token.literal.toList = some value := by
  induction t generalizing tokens with
  | leaf c =>
    obtain ⟨rfl, hc⟩ := spelledBy_leaf_iff.mp h
    intro token ht hkind
    simp only [Condition.tokens, List.mem_cons, List.not_mem_nil, or_false] at ht
    rcases ht with rfl | rfl | rfl
    · rw [hc.identifier] at hkind
      cases hkind
    · have hmem := hc.comparison_kind
      rw [hkind] at hmem
      exact absurd hmem (by decide)
    · rcases hc.literal with ⟨hstring, -⟩ | ⟨-, value, hvalue, -⟩
      · rw [hstring] at hkind
        cases hkind
      · exact ⟨value, hvalue⟩
  | group inner ih =>
    obtain ⟨opening, within, closing, rfl, hopening, hclosing, hinner⟩ :=
      spelledBy_group_iff.mp h
    intro token ht hkind
    simp only [List.mem_cons, List.mem_append, List.not_mem_nil, or_false] at ht
    rcases ht with rfl | ht | rfl
    · rw [hopening] at hkind
      cases hkind
    · exact ih hinner token ht hkind
    · rw [hclosing] at hkind
      cases hkind
  | single operand ih => exact ih (spelledBy_single_iff.mp h)
  | join operand joint rest ihOperand ihRest =>
    obtain ⟨front, back, rfl, hoperand, hjoint, hrest⟩ := spelledBy_join_iff.mp h
    intro token ht hkind
    rcases List.mem_append.mp ht with ht | ht
    · exact ihOperand hoperand token ht hkind
    · rcases List.mem_cons.mp ht with rfl | ht
      · rcases hjoint.kind with hk | hk <;> rw [hk] at hkind <;> cases hkind
      · exact ihRest hrest token ht hkind

/-- A tree closes the parentheses that it opens, and is nested as deep as they are. -/
theorem SpelledBy.opened {t : Tree (Sourced Connective) Condition l} (h : t.SpelledBy tokens)
    (opened : List Token) :
    tokens.foldl openAfter opened = opened ∧ deepest opened tokens = opened.length + t.depth := by
  induction t generalizing tokens opened with
  | leaf c =>
    obtain ⟨rfl, hc⟩ := spelledBy_leaf_iff.mp h
    have hopen : ∀ token ∈ c.tokens, openAfter opened token = opened := fun token ht =>
      openAfter_of_noParen opened (hc.noParen token ht).1 (hc.noParen token ht).2
    simp only [Condition.tokens, List.mem_cons, List.not_mem_nil, or_false, forall_eq_or_imp,
      forall_eq] at hopen
    obtain ⟨hidentifier, hcomparison, hliteral⟩ := hopen
    simp [Condition.tokens, deepest, depth, hidentifier, hcomparison, hliteral]
  | group inner ih =>
    obtain ⟨opening, within, closing, rfl, hopening, hclosing, hinner⟩ :=
      spelledBy_group_iff.mp h
    -- inside, one more is open; the closing token takes it away again
    obtain ⟨hfold, hdeep⟩ := ih hinner (opening :: opened)
    rw [List.foldl_cons, List.foldl_append, deepest, deepest_append,
      openAfter_of_leftParen opened hopening, hfold, hdeep]
    simp only [List.foldl_cons, List.foldl_nil, deepest, openAfter_of_rightParen _ hclosing,
      List.tail_cons, List.length_cons, depth, true_and]
    omega
  | single operand ih => exact ih (spelledBy_single_iff.mp h) opened
  | join operand joint rest ihOperand ihRest =>
    -- both sides start from the same open parentheses, so the deeper one counts
    obtain ⟨front, back, rfl, hoperand, hjoint, hrest⟩ := spelledBy_join_iff.mp h
    obtain ⟨hfront, hdeepFront⟩ := ihOperand hoperand opened
    obtain ⟨hback, hdeepBack⟩ := ihRest hrest opened
    have hopen : openAfter opened joint.token = opened := by
      rcases hjoint.kind with hk | hk
      · exact openAfter_of_noParen opened (by rw [hk]; decide) (by rw [hk]; decide)
      · exact openAfter_of_noParen opened (by rw [hk]; decide) (by rw [hk]; decide)
    rw [List.foldl_append, List.foldl_cons, deepest_append, deepest, hfront, hopen, hback,
      hdeepFront, hdeepBack]
    simp only [depth, true_and]
    omega

/-- What derives from the grammar spells a tree, if its numbers are within reach. -/
theorem exists_spelledBy (h : Derives l tokens) (hfinite : ∀ token ∈ tokens,
      token.kind = .number → ∃ value, Binary64.ofText? token.literal.toList = some value) :
    ∃ t : Tree (Sourced Connective) Condition l, t.SpelledBy tokens := by
  -- on the derivation: the numbers alone could keep a row of tokens from being a tree
  induction h with
  | @condition identifier comparison literal hidentifier hcomparison hliteral =>
    obtain ⟨operator, hoperator⟩ := Comparison.exists_ofKind?_iff.mpr hcomparison
    rcases hliteral with hstring | hnumber
    · refine ⟨leaf ⟨identifier.literal, identifier, ⟨operator, comparison⟩,
        ⟨.string literal.literal, literal⟩⟩, spelledBy_leaf_iff.mpr ⟨rfl, ?_⟩⟩
      exact ⟨hidentifier, rfl, hoperator, Or.inl ⟨hstring, rfl⟩⟩
    · obtain ⟨value, hvalue⟩ := hfinite literal (by simp) hnumber
      refine ⟨leaf ⟨identifier.literal, identifier, ⟨operator, comparison⟩,
        ⟨.number value, literal⟩⟩, spelledBy_leaf_iff.mpr ⟨rfl, ?_⟩⟩
      exact ⟨hidentifier, rfl, hoperator, Or.inr ⟨hnumber, value, hvalue, rfl⟩⟩
  | group hopening _ hclosing ih =>
    obtain ⟨inner, hinner⟩ := ih fun token ht => hfinite token (by simp [ht])
    exact ⟨group inner, spelledBy_group_iff.mpr ⟨_, _, _, rfl, hopening, hclosing, hinner⟩⟩
  | single _ ih =>
    obtain ⟨operand, hoperand⟩ := ih hfinite
    exact ⟨single operand, spelledBy_single_iff.mpr hoperand⟩
  | @join _ _ connective _ hconnective _ ihOperand ihRest =>
    obtain ⟨operand, hoperand⟩ := ihOperand fun token ht => hfinite token (by simp [ht])
    obtain ⟨rest, hrest⟩ := ihRest fun token ht => hfinite token (by simp [ht])
    obtain ⟨item, hitem⟩ := Connective.exists_ofKind?_iff.mpr hconnective
    exact ⟨join operand ⟨item, connective⟩ rest,
      spelledBy_join_iff.mpr ⟨_, _, rfl, hoperand, hitem, hrest⟩⟩

end Tree

/-- A row of tokens is an expression if it spells a tree that is not nested too deep. -/
theorem isExpression_iff {tokens : List Token} :
    IsExpression tokens ↔ ∃ e : Expr, e.SpelledBy tokens ∧ e.depth ≤ maxNesting := by
  constructor
  · rintro ⟨hderives, hnested, hfinite⟩
    -- a tree is nested as deep as the parentheses of its tokens
    obtain ⟨e, he⟩ := Tree.exists_spelledBy hderives hfinite
    have hdeep := (he.opened []).2
    rw [hdeep, List.length_nil, Nat.zero_add] at hnested
    exact ⟨e, he, hnested⟩
  · rintro ⟨e, he, hdepth⟩
    have hdeep := (he.opened []).2
    rw [List.length_nil, Nat.zero_add] at hdeep
    exact ⟨he.derives, by rw [hdeep]; exact hdepth, he.finite⟩

end RecordFilter
