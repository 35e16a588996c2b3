import RecordFilter.Proofs.CommandLine.Effects
import RecordFilter.Proofs.Expr.Layout
import RecordFilter.Proofs.Record.Duality

/-!
# Filters in another layout

Two texts of one expression, with other blanks and line breaks and other spellings of its
connectives, are the same filter. They are read as the same tree or draw the same complaint
(`Expr.ofText_alike`), the tree has the same meaning (`compileFor_alike`), and so the program does
the same with both, whatever lies outside. If it fails, the two messages may differ in the place
that they name and in the spelling of a connective that cannot stand there (`SameMessage`), and in
nothing else.
-/

namespace RecordFilter

/-! ## The meaning of an expression -/

section Meaning

variable {rules : Rules} {c c' : Condition} {e e' : Expr}

/-- What a condition says of records; one that is objected to holds of none. -/
def Rules.meaning (rules : Rules) (c : Condition) : Json → Bool :=
  (rules.test c).toOption.getD fun _ => false

theorem Rules.bind_eq_meaning {test : Json → Bool} (h : rules.bind c = .ok test) :
    rules.bind c = .ok (rules.meaning c) := by
  rw [Rules.bind] at h
  rw [Rules.bind, meaning]
  cases htest : rules.test c with
  | error objection =>
    rw [htest] at h
    cases h
  | ok test => rfl

/-- The test of a condition does not depend on the places of its tokens. -/
theorem Rules.test_unplaced (c : Condition) : rules.test c.unplaced = rules.test c := rfl

theorem Rules.test_eq_of_unplaced (h : c'.unplaced = c.unplaced) :
    rules.test c' = rules.test c := by
  rw [← test_unplaced c', h, test_unplaced]

/-- Conditions that are the same but for places have the same test, or are objected to for the same
reason, each at its own name. -/
theorem Rules.bind_alike (h : c'.unplaced = c.unplaced) :
    (∃ test, rules.bind c = .ok test ∧ rules.bind c' = .ok test)
      ∨ ∃ reason, rules.bind c = .error (.condition reason c.identifier)
        ∧ rules.bind c' = .error (.condition reason c'.identifier) := by
  rw [Rules.bind, Rules.bind, Rules.test_eq_of_unplaced h]
  cases rules.test c with
  | error objection => exact .inr ⟨objection.message, rfl, rfl⟩
  | ok test => exact .inl ⟨test, rfl, rfl⟩

theorem Expr.conditions_unplaced (e : Expr) :
    e.unplaced.conditions = e.conditions.map Condition.unplaced :=
  Tree.leaves_map _ _ e

/-- Whatever does not depend on the places of the tokens of a condition does not make the value of
an expression depend on them. -/
theorem Expr.value_eq_of_unplaced (record : Json) (h : e'.unplaced = e.unplaced) :
    Tree.value Sourced.item (fun c => rules.meaning c record) e'
      = Tree.value Sourced.item (fun c => rules.meaning c record) e := by
  have hvalue (e : Expr) : Tree.value Sourced.item (fun c => rules.meaning c record) e.unplaced
      = Tree.value Sourced.item (fun c => rules.meaning c record) e :=
    Tree.value_map ..
  rw [← hvalue e', h, hvalue e]

/-- An expression without objections is compiled to what its conditions say. -/
theorem Expr.exists_compileFor (h : ∀ c ∈ e.conditions, ∃ test, rules.bind c = .ok test) :
    ∃ compiled, e.compileFor rules = .ok compiled ∧ ∀ record,
      compiled.evaluate record
        = Tree.value Sourced.item (fun c => rules.meaning c record) e := by
  have hmeaning : ∀ c ∈ e.conditions, rules.bind c = .ok (rules.meaning c) := by
    intro c hc
    obtain ⟨test, htest⟩ := h c hc
    exact Rules.bind_eq_meaning htest
  have hcompiled := compile_eq_ok_map hmeaning
  exact ⟨_, hcompiled, Expr.evaluate_of_compileFor hmeaning hcompiled⟩

/-- Of two rows of conditions that are the same but for places, none or both are objected to. -/
theorem accepted_of_map_unplaced {row row' : List Condition}
    (h : row'.map Condition.unplaced = row.map Condition.unplaced)
    (hrow : ∀ c ∈ row, ∃ test, rules.bind c = .ok test) :
    ∀ c ∈ row', ∃ test, rules.bind c = .ok test := by
  intro c' hc'
  have hmem := List.mem_map_of_mem (f := Condition.unplaced) hc'
  rw [h] at hmem
  obtain ⟨c, hc, hsame⟩ := List.mem_map.mp hmem
  obtain ⟨test, htest⟩ := hrow c hc
  rcases Rules.bind_alike hsame.symm with ⟨test', -, htest'⟩ | ⟨reason, herror, -⟩
  · exact ⟨test', htest'⟩
  · rw [htest] at herror
    cases herror

/-- Expressions that are the same but for places and the spelling of connectives have the same
meaning, or draw the same objection. -/
theorem compileFor_alike (rules : Rules) (h : e'.unplaced = e.unplaced) :
    (∃ compiled compiled', e.compileFor rules = .ok compiled ∧ e'.compileFor rules = .ok compiled'
        ∧ compiled'.evaluate = compiled.evaluate)
      ∨ ∃ reason name name', e.compileFor rules = .error (.condition reason name)
        ∧ e'.compileFor rules = .error (.condition reason name')
        ∧ name'.unplaced = name.unplaced := by
  have hconditions : e'.conditions.map Condition.unplaced
      = e.conditions.map Condition.unplaced := by
    rw [← Expr.conditions_unplaced, h, Expr.conditions_unplaced]
  cases hcompile : e.compileFor rules with
  | ok compiled₀ =>
    have haccepted := exists_compile_eq_ok_iff.mp ⟨compiled₀, hcompile⟩
    obtain ⟨compiled, hcompiled, hvalue⟩ := Expr.exists_compileFor haccepted
    obtain ⟨compiled', hcompiled', hvalue'⟩ :=
      Expr.exists_compileFor (accepted_of_map_unplaced hconditions haccepted)
    refine .inl ⟨compiled, compiled', hcompile.symm.trans hcompiled, hcompiled', ?_⟩
    funext record
    rw [hvalue', hvalue, Expr.value_eq_of_unplaced record h]
  | error error =>
    obtain ⟨before, c, after, hsplit, hbefore, hc⟩ := compile_eq_error_iff.mp hcompile
    rw [hsplit, List.map_append, List.map_cons, List.map_eq_append_iff] at hconditions
    obtain ⟨before', rest, hsplit', hfront, hrest⟩ := hconditions
    obtain ⟨c', after', rfl, hsame, -⟩ := List.map_eq_cons_iff.mp hrest
    rcases Rules.bind_alike hsame with ⟨test, htest, -⟩ | ⟨reason, herror, hc'⟩
    · rw [hc] at htest
      cases htest
    · obtain rfl := Except.error.inj (hc.symm.trans herror)
      refine .inr ⟨reason, c.identifier, c'.identifier, rfl, ?_,
        congrArg Condition.identifier hsame⟩
      exact compile_eq_error_iff.mpr
        ⟨before', c', after', hsplit', accepted_of_map_unplaced hfront hbefore, hc'⟩

end Meaning

/-! ## Messages -/

/-- Messages that are the same but for the place that they name at the end and, in front of it,
the spelling of a connective. -/
inductive SameMessage : String → String → Prop where
  | same (message : String) : SameMessage message message
  | place (front : String) (place place' : Position) :
    SameMessage (front ++ place.describe) (front ++ place'.describe)
  | connective (front : String) {kind : TokenKind} (hkind : kind = .and ∨ kind = .or)
    {word word' : String} (hword : HasShape kind word.toList) (hword' : HasShape kind word'.toList)
    (middle : String) (place place' : Position) :
    SameMessage (front ++ word ++ middle ++ place.describe)
      (front ++ word' ++ middle ++ place'.describe)

theorem SameMessage.append_left {message message' : String} (h : SameMessage message message')
    (first : String) : SameMessage (first ++ message) (first ++ message') := by
  have hplace (front place : String) : first ++ (front ++ place) = first ++ front ++ place :=
    String.append_assoc.symm
  cases h with
  | same message => exact .same _
  | place front place place' =>
    rw [hplace, hplace]
    exact .place _ _ _
  | connective front hkind hword hword' middle place place' =>
    rw [hplace, hplace, hplace, hplace, hplace, hplace]
    exact .connective _ hkind hword hword' _ _ _

theorem message_unexpectedToken (token : Token) : (ExprError.unexpectedToken token none).message
    = "unexpected token " ++ token.literal ++ (" (" ++ token.kind.name ++ ") at ")
      ++ token.position.describe := by
  have hgroup (a b c d e f : String) :
      a ++ b ++ c ++ d ++ e ++ f ++ "" = a ++ b ++ (c ++ d ++ e) ++ f := by
    simp only [String.append_empty, String.append_assoc]
  exact hgroup _ _ _ _ _ _

/-- Complaints of the same form about tokens that are alike are told in the same words. -/
theorem SameComplaint.sameMessage {a b : Token} {error error' : ExprError}
    (h : SameComplaint a b error error') (halike : a.Alike b)
    (ha : HasShape a.kind a.literal.toList) (hb : HasShape b.kind b.literal.toList) :
    SameMessage error.message error'.message := by
  cases h with
  | unexpected =>
    rw [message_unexpectedToken, message_unexpectedToken, halike.kind]
    rw [halike.kind] at hb
    by_cases hkind : a.kind = .and ∨ a.kind = .or
    · exact .connective _ hkind ha hb _ _ _
    · rw [not_or] at hkind
      rw [halike.literal hkind.1 hkind.2]
      exact .place _ _ _
  | ended => exact .place _ _ _
  | unclosed => exact .place _ _ _
  | tooDeep limit => exact .place _ _ _
  | outOfReach literal => exact .place _ _ _

theorem sameMessage_condition {reason : String} {name name' : Token}
    (h : name'.unplaced = name.unplaced) :
    SameMessage (ExprError.condition reason name).message
      (ExprError.condition reason name').message := by
  obtain ⟨kind, literal, place⟩ := name
  obtain ⟨kind', literal', place'⟩ := name'
  obtain ⟨rfl, rfl, -⟩ := Token.mk.inj h
  exact .place (reason ++ ": " ++ literal' ++ " (" ++ kind'.name ++ ") at ") place place'

/-! ## Runs -/

/-- Outcomes of two commands that succeed with the same output, or fail with the same code and the
same message. -/
inductive SameOutcome : Except Failure String → Except Failure String → Prop where
  | output (text : String) : SameOutcome (.ok text) (.ok text)
  | failure {cause cause' : Failure} (hcode : cause'.code = cause.code)
    (hmessage : SameMessage cause.message cause'.message) :
    SameOutcome (.error cause) (.error cause')

theorem SameOutcome.refl (outcome : Except Failure String) : SameOutcome outcome outcome := by
  cases outcome with
  | error cause => exact .failure rfl (.same _)
  | ok text => exact .output text

/-- Two commands that, begun in the same world, end in the same world with the same outcome. -/
def RunAlike {ω : Type} (x y : Run (StateM ω) String) (w : ω) : Prop :=
  (y.run.run w).2 = (x.run.run w).2 ∧ SameOutcome (x.run.run w).1 (y.run.run w).1

section Runs

variable {ω α : Type} {w : ω}

theorem runAlike_refl (x : Run (StateM ω) String) : RunAlike x x w := ⟨rfl, .refl _⟩

/-- Commands that begin alike and go on alike. -/
theorem RunAlike.bind {x : Run (StateM ω) α} {f g : α → Run (StateM ω) String}
    (h : ∀ value w, RunAlike (f value) (g value) w) : RunAlike (x >>= f) (x >>= g) w := by
  rcases hrun : x.run.run w with ⟨outcome, after⟩
  unfold RunAlike
  cases outcome with
  | error cause =>
    rw [run_bind_of_error hrun, run_bind_of_error hrun]
    exact ⟨rfl, .refl _⟩
  | ok value =>
    rw [run_bind_of_ok hrun, run_bind_of_ok hrun]
    exact h value after

variable {a b : String} {as bs : List Token}

/-- Two texts whose tokens are alike are the same filter, or are objected to in the same words. -/
theorem FilterOptions.compile_alike (ha : tokenize a = .ok as) (hb : tokenize b = .ok bs)
    (h : List.Forall₂ Token.Alike (withoutWhitespace as) (withoutWhitespace bs))
    (options : FilterOptions) (settings : Settings) :
    (∃ compiled compiled', { options with expression := a }.compile settings = .ok compiled
        ∧ { options with expression := b }.compile settings = .ok compiled'
        ∧ compiled'.evaluate = compiled.evaluate)
      ∨ ∃ error error', { options with expression := a }.compile settings = .error error
        ∧ { options with expression := b }.compile settings = .error error'
        ∧ SameMessage error.message error'.message := by
  have hshaped {text : String} {tokens : List Token} (htokens : tokenize text = .ok tokens)
      {k : Nat} {token : Token} (hk : (withoutWhitespace tokens)[k]? = some token) :
      HasShape token.kind token.literal.toList := by
    obtain ⟨hmunched, -⟩ := (tokenize_eq_ok_iff text tokens).mp htokens
    exact hmunched.shaped token (List.mem_of_mem_filter (List.mem_of_getElem? hk))
  unfold FilterOptions.compile
  have hread := Expr.ofText_alike ha hb h
  generalize Expr.ofText a = first at hread
  generalize Expr.ofText b = second at hread
  cases hread with
  | read he =>
    rcases compileFor_alike (options.rules settings) he with
      ⟨compiled, compiled', hcompiled, hcompiled', hvalue⟩ | ⟨reason, name, name', hc, hc', hname⟩
    · exact .inl ⟨compiled, compiled', hcompiled, hcompiled', hvalue⟩
    · exact .inr ⟨_, _, hc, hc', sameMessage_condition hname⟩
  | refused hcomplaint =>
    obtain ⟨t, t', hindex, hsame⟩ := hcomplaint
    obtain ⟨k, hk, hk'⟩ := id hindex
    exact .inr ⟨_, _, rfl, rfl,
      hsame.sameMessage (SameIndex.alike h hindex) (hshaped ha hk) (hshaped hb hk')⟩

theorem FilterOptions.run_alike (ha : tokenize a = .ok as) (hb : tokenize b = .ok bs)
    (h : List.Forall₂ Token.Alike (withoutWhitespace as) (withoutWhitespace bs))
    (options : FilterOptions) (o : Outside (StateM ω)) (layout : OutputOptions)
    (settings : Settings) (w : ω) :
    RunAlike ({ options with expression := a }.run o layout settings)
      ({ options with expression := b }.run o layout settings) w := by
  unfold FilterOptions.run
  rcases FilterOptions.compile_alike ha hb h options settings with
    ⟨compiled, compiled', hcompile, hcompile', hvalue⟩ | ⟨error, error', hcompile, hcompile', hsame⟩
  · rw [hcompile, hcompile']
    dsimp only
    rw [hvalue]
    exact runAlike_refl _
  · rw [hcompile, hcompile']
    exact ⟨rfl, .failure rfl (hsame.append_left "filter error: ")⟩

/-- **The layout of a filter and the spelling of its connectives do not matter.** Two texts whose
tokens are the same but for blanks, places and the spelling of connectives are read as the same
expression but for that, with the same canonical spelling, or draw a complaint of the same form
about the tokens of one index. With either text the program ends in the same world, whatever lies
outside and whatever else it is asked: with the same output, or with the same code and the same
message but for places and for the spelling of a connective that is complained about. -/
theorem filter_layout (ha : tokenize a = .ok as) (hb : tokenize b = .ok bs)
    (h : List.Forall₂ Token.Alike (withoutWhitespace as) (withoutWhitespace bs)) :
    ((∃ t t' error error', SameIndex (withoutWhitespace as) (withoutWhitespace bs) t t'
          ∧ SameComplaint t t' error error'
          ∧ Expr.ofText a = .error error ∧ Expr.ofText b = .error error')
        ∨ ∃ e e', Expr.ofText a = .ok e ∧ Expr.ofText b = .ok e' ∧ e'.unplaced = e.unplaced
          ∧ e'.describe = e.describe)
      ∧ ∀ (ω : Type) (o : Outside (StateM ω)) (common : CommonOptions) (options : FilterOptions)
          (w : ω), RunAlike (Invocation.run o ⟨common, .filter { options with expression := a }⟩)
            (Invocation.run o ⟨common, .filter { options with expression := b }⟩) w := by
  constructor
  · have hread := Expr.ofText_alike ha hb h
    generalize Expr.ofText a = first at hread
    generalize Expr.ofText b = second at hread
    cases hread with
    | @read e e' he =>
      refine .inr ⟨e, e', rfl, rfl, he, ?_⟩
      rw [← Expr.describe_unplaced, he, Expr.describe_unplaced]
    | refused hcomplaint =>
      obtain ⟨t, t', hindex, hsame⟩ := hcomplaint
      exact .inl ⟨t, t', _, _, hindex, hsame, rfl, rfl⟩
  · intro ω o common options w
    rw [Invocation.run_eq, Invocation.run_eq]
    refine RunAlike.bind fun settings w => RunAlike.bind fun layout w => ?_
    exact FilterOptions.run_alike ha hb h options o layout settings w

end Runs

/-- The same filter on one line and on two, and a filter that begins with a connective. -/
theorem filter_layout_lines :
    (∃ e e', Expr.ofText "a='x' and b=1" = .ok e ∧ Expr.ofText "a = 'x'\n && b = 1" = .ok e'
      ∧ e'.unplaced = e.unplaced ∧ e'.describe = e.describe)
    ∧ ∀ (ω : Type) (o : Outside (StateM ω)) (common : CommonOptions) (options : FilterOptions)
        (w : ω), RunAlike (Invocation.run o ⟨common, .filter { options with expression := "AND b" }⟩)
          (Invocation.run o ⟨common, .filter { options with expression := "\n && b" }⟩) w := by
  let tokensOf (text : String) : List Token := (tokenize text).toOption.getD []
  have hone : tokenize "a='x' and b=1" = .ok (tokensOf "a='x' and b=1") := by decide +kernel
  have htwo : tokenize "a = 'x'\n && b = 1" = .ok (tokensOf "a = 'x'\n && b = 1") := by
    decide +kernel
  have hfirst : tokenize "AND b" = .ok (tokensOf "AND b") := by decide +kernel
  have hsecond : tokenize "\n && b" = .ok (tokensOf "\n && b") := by decide +kernel
  have hread : cause? (Expr.ofText "a='x' and b=1") = none := by decide +kernel
  refine ⟨?_, (filter_layout hfirst hsecond (by decide +kernel)).2⟩
  rcases (filter_layout hone htwo (by decide +kernel)).1 with
    ⟨t, t', error, error', -, -, herror, -⟩ | hexpressions
  · rw [herror] at hread
    cases hread
  · exact hexpressions

end RecordFilter
