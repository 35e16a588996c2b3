import RecordFilter.Proofs.Record.Declarations
import RecordFilter.Proofs.Text.EditDistance
import RecordFilter.Proofs.Text.Order

/-!
# Suggestions

What a name that is not declared is likely to be a misspelling of. The declared name that is
suggested is the first of those with the fewest edits (`Schema.FirstLeast`), where declared names
stand in the order of their bytes and an edit changes one character of the name in lower case.
There is a suggestion if and only if three edits are enough, and it depends on which names are
declared, not on the order of the declarations.
-/

namespace RecordFilter

namespace Text

/-- A text in lower case is empty only if the text is. -/
theorem lowercase_eq_nil_iff {text : String} : lowercase text = [] ↔ text = "" := by
  have hfrom (before : List Char) (s : List Char) : lowerFrom before s = [] ↔ s = [] := by
    cases s with
    | nil => simp [lowerFrom]
    | cons c s =>
      have hchar : lowerAt before c s ≠ [] := by
        unfold lowerAt
        split_ifs <;> exact List.cons_ne_nil _ _
      simp [lowerFrom, hchar]
  rw [lowercase, hfrom, String.toList_eq_nil_iff]

end Text

namespace Schema

/-! ## The nearest of several names -/

/-- The first of several names whose distance is least: those before it are farther, and those
behind it no nearer. -/
def FirstLeast (distance : String → Nat) (names : List String) (best : String) : Prop :=
  ∃ before after, names = before ++ best :: after
    ∧ (∀ name ∈ before, distance best < distance name)
    ∧ ∀ name ∈ after, distance best ≤ distance name

namespace FirstLeast

variable {distance : String → Nat} {names : List String} {best name : String}

theorem mem (h : FirstLeast distance names best) : best ∈ names := by
  obtain ⟨before, after, rfl, -, -⟩ := h
  simp

theorem le (h : FirstLeast distance names best) (hname : name ∈ names) :
    distance best ≤ distance name := by
  obtain ⟨before, after, rfl, hbefore, hafter⟩ := h
  rcases List.mem_append.mp hname with hname | hname
  · exact (hbefore name hname).le
  · rcases List.mem_cons.mp hname with rfl | hname
    · exact Nat.le_refl _
    · exact hafter name hname

/-- Among names that stand in order, the others that are as near come later. -/
theorem eq_or_lt (h : FirstLeast distance names best)
    (hordered : names.Pairwise fun a b => Text.compareText a b = .lt) (hname : name ∈ names)
    (hnear : distance name = distance best) : name = best ∨ Text.bytes best < Text.bytes name := by
  obtain ⟨before, after, rfl, hbefore, -⟩ := h
  rcases List.mem_append.mp hname with hname | hname
  · have hlt := hbefore name hname
    omega
  · rcases List.mem_cons.mp hname with rfl | hname
    · exact .inl rfl
    · have hbehind := (List.pairwise_append.mp hordered).2.1
      exact .inr (Text.compareText_lt_iff.mp (List.rel_of_pairwise_cons hbehind hname))

end FirstLeast

/-- There is a nearest name unless there are no names. -/
theorem nearest_eq_none_iff {distance : String → Nat} {names : List String} :
    nearest distance names = none ↔ names = [] := by
  cases names with
  | nil => simp [nearest]
  | cons name names =>
    rw [nearest]
    cases nearest distance names with
    | none => simp
    | some best => simp [ite_eq_iff]

/-- The nearest name is the first of those whose distance is least. -/
theorem firstLeast_of_nearest {distance : String → Nat} {names : List String} {best : String}
    (h : nearest distance names = some best) : FirstLeast distance names best := by
  induction names generalizing best with
  | nil => cases h
  | cons name names ih =>
    rw [nearest] at h
    cases hrest : nearest distance names with
    | none =>
      rw [hrest] at h
      obtain rfl := Option.some.inj h
      obtain rfl := nearest_eq_none_iff.mp hrest
      exact ⟨[], [], rfl, by simp, by simp⟩
    | some other =>
      have hother := ih hrest
      rw [hrest] at h
      dsimp only at h
      split at h
      · next hlt =>
        obtain rfl := Option.some.inj h
        obtain ⟨before, after, rfl, hbefore, hafter⟩ := hother
        exact ⟨name :: before, after, rfl, List.forall_mem_cons.mpr ⟨hlt, hbefore⟩, hafter⟩
      · next hle =>
        obtain rfl := Option.some.inj h
        exact ⟨[], names, rfl, by simp, fun n hn => (Nat.not_lt.mp hle).trans (hother.le hn)⟩

/-! ## The declared name that is suggested -/

section Suggestion

variable {schema : Schema} {name best : String}

/-- The declared names that can be suggested. -/
def candidates (schema : Schema) : List String :=
  (schema.fields.map Prod.fst).filter fun declared => declared ≠ ""

/-- Every declared name is a candidate, but for the empty one. -/
theorem mem_candidates_iff :
    name ∈ schema.candidates ↔ name ∈ schema.fields.map Prod.fst ∧ name ≠ "" := by
  rw [candidates, List.mem_filter, decide_eq_true_iff]

/-- The nearest candidate is suggested, if it is near enough and not the name itself. -/
theorem suggestion?_eq (schema : Schema) (name : String) : schema.suggestion? name
    = (nearest (nameDistance name) schema.candidates).filter fun best =>
        best ≠ name ∧ nameDistance name best ≤ maxSuggestionDistance := by
  rw [suggestion?, candidates]
  cases h : nearest (nameDistance name) _ with
  | none => rfl
  | some best => rw [Option.filter_some]; simp

/-- A name that is suggested is near, and no declared one is nearer. -/
theorem firstLeast_of_suggestion? (h : schema.suggestion? name = some best) :
    FirstLeast (nameDistance name) schema.candidates best
      ∧ nameDistance name best ≤ maxSuggestionDistance := by
  rw [suggestion?_eq, Option.filter_eq_some_iff] at h
  obtain ⟨hnearest, hnear⟩ := h
  exact ⟨firstLeast_of_nearest hnearest, (of_decide_eq_true hnear).2⟩

/-- If a declared name is near enough, there is a suggestion. -/
theorem exists_suggestion? (hname : name ∉ schema.fields.map Prod.fst) {declared : String}
    (hdeclared : declared ∈ schema.candidates)
    (hnear : nameDistance name declared ≤ maxSuggestionDistance) :
    ∃ best, schema.suggestion? name = some best := by
  cases hnearest : nearest (nameDistance name) schema.candidates with
  | none =>
    rw [nearest_eq_none_iff.mp hnearest] at hdeclared
    cases hdeclared
  | some best =>
    have hleast := firstLeast_of_nearest hnearest
    have hne : best ≠ name := by
      rintro rfl
      exact hname (mem_candidates_iff.mp hleast.mem).1
    refine ⟨best, ?_⟩
    rw [suggestion?_eq, hnearest, Option.filter_some, if_pos]
    exact decide_eq_true ⟨hne, (hleast.le hdeclared).trans hnear⟩

end Suggestion

end Schema

/-! ## Complaints about undeclared fields -/

section Undeclared

variable {rules : Rules} {c : Condition}

/-- A field that is not declared is objected to, with the suggestion that there is. -/
theorem Rules.bind_of_undeclared (hschema : rules.schema ≠ .empty)
    (hname : c.name ∉ rules.schema.fields.map Prod.fst) :
    rules.bind c = .error
      (.condition (Objection.unknownField (rules.schema.suggestion? c.name)).message
        c.identifier) := by
  have htype : rules.schema.typeOf? c.name = none :=
    Keyed.find?_eq_none fun entry hentry heq =>
      hname (List.mem_map.mpr ⟨entry, hentry, heq⟩)
  refine Rules.bind_eq_error_iff.mpr ⟨_, ?_, rfl⟩
  simp [Rules.faults, firstFault, Rules.undeclared?, hschema, htype]

/-- The complaint that asks whether a name was meant. -/
def didYouMean (name : String) : String := "unknown field, did you mean '" ++ name ++ "'?"

theorem ne_didYouMean (name : String) : "unknown field" ≠ didYouMean name := by
  intro h
  have hlength : "unknown field".length
      = "unknown field, did you mean '".length + (name ++ "'?").length := by
    rw [← String.length_append, ← String.append_assoc]
    exact congrArg String.length h
  have hshort : "unknown field".length < "unknown field, did you mean '".length := by decide
  exact absurd hlength (hshort.trans_le (Nat.le_add_right _ _)).ne

/-- The message names the suggestion, and without one it names nothing. -/
theorem Objection.message_eq_didYouMean_iff {suggestion : Option String} {name : String} :
    (Objection.unknownField suggestion).message = didYouMean name ↔ suggestion = some name := by
  cases suggestion with
  | none => exact iff_of_false (ne_didYouMean name) nofun
  | some best =>
    constructor
    · intro h
      have hfront := (String.append_left_inj "'?").mp h
      rw [(String.append_right_inj _).mp hfront]
    · intro h
      rw [Option.some.inj h]
      rfl

end Undeclared

/-! ## Declared fields in any order -/

section Declarations

variable {declarations : List (String × FieldType)} {name : String}

/-- The names of a schema are those that were declared. -/
theorem Schema.mem_keys_declare : name ∈ (Schema.empty.declare declarations).fields.map Prod.fst
    ↔ name ∈ declarations.map Prod.fst := by
  rw [Schema.declare, Keyed.mem_keys_insertAll]
  simp [Schema.empty]

/-- A schema with declarations is not the empty one. -/
theorem Schema.declare_ne_empty (h : declarations ≠ []) :
    Schema.empty.declare declarations ≠ .empty := by
  intro hempty
  obtain ⟨first, rest, rfl⟩ := List.exists_cons_of_ne_nil h
  have hfirst : first.1 ∈ ((Schema.empty.declare (first :: rest)).fields.map Prod.fst) :=
    Schema.mem_keys_declare.mpr (List.mem_map_of_mem List.mem_cons_self)
  rw [hempty] at hfirst
  cases hfirst

/-- A condition on a field that is not declared is objected to, and the objection tells what is
suggested. -/
theorem bind_declare {c : Condition} (ignoreCase : Bool) (hdeclared : declarations ≠ [])
    (hname : c.name ∉ declarations.map Prod.fst) :
    Rules.bind ⟨Schema.empty.declare declarations, ignoreCase⟩ c
      = .error (.condition
          (Objection.unknownField ((Schema.empty.declare declarations).suggestion? c.name)).message
          c.identifier) := by
  refine Rules.bind_of_undeclared (Schema.declare_ne_empty hdeclared) ?_
  rwa [Schema.mem_keys_declare]

/-- Which fields are declared decides over suggestions, and not the order of the declarations. -/
theorem Schema.suggestion?_declare_congr {others : List (String × FieldType)}
    (h : ∀ name, name ∈ others.map Prod.fst ↔ name ∈ declarations.map Prod.fst) (name : String) :
    (Schema.empty.declare others).suggestion? name
      = (Schema.empty.declare declarations).suggestion? name := by
  have hothers : Keyed.Ordered (Schema.empty.declare others).fields := ordered_declare
  have hkeys := Keyed.map_fst_eq_of_ordered hothers (@ordered_declare declarations) fun name => by
    rw [mem_keys_declare, mem_keys_declare, h]
  rw [suggestion?_eq, suggestion?_eq, candidates, candidates, hkeys]

/-- What a name has to be to be suggested: declared and not empty, no farther than any other that is
declared and not empty, and the first of those that are as near, in the order of their bytes. -/
structure BestSuggestion (names : List String) (name best : String) : Prop where
  declared : best ∈ names
  nonempty : best ≠ ""
  least : ∀ other ∈ names, other ≠ "" →
    Schema.nameDistance name best ≤ Schema.nameDistance name other
  first : ∀ other ∈ names, other ≠ "" →
    Schema.nameDistance name other = Schema.nameDistance name best →
      other = best ∨ Text.bytes best < Text.bytes other

/-- There is one best suggestion at most. -/
theorem BestSuggestion.unique {names : List String} {best other : String}
    (h : BestSuggestion names name best) (h' : BestSuggestion names name other) :
    best = other := by
  have hnear : Schema.nameDistance name best = Schema.nameDistance name other :=
    Nat.le_antisymm (h.least other h'.declared h'.nonempty) (h'.least best h.declared h.nonempty)
  rcases h'.first best h.declared h.nonempty hnear with heq | hlt
  · exact heq
  · rcases h.first other h'.declared h'.nonempty hnear.symm with heq | hlt'
    · exact heq.symm
    · exact absurd hlt' (List.lt_asymm hlt)

theorem Schema.mem_candidates_declare : name ∈ (Schema.empty.declare declarations).candidates
    ↔ name ∈ declarations.map Prod.fst ∧ name ≠ "" := by
  rw [mem_candidates_iff, mem_keys_declare]

/-- What is suggested is the best suggestion. -/
theorem bestSuggestion_of_suggestion? {best : String}
    (h : (Schema.empty.declare declarations).suggestion? name = some best) :
    BestSuggestion (declarations.map Prod.fst) name best := by
  obtain ⟨hleast, -⟩ := Schema.firstLeast_of_suggestion? h
  have hkeys : ((Schema.empty.declare declarations).fields.map Prod.fst).Pairwise fun a b =>
      Text.compareText a b = .lt := List.pairwise_map.mpr Schema.ordered_declare
  have hordered := hkeys.filter fun declared => declared ≠ ""
  obtain ⟨hdeclared, hne⟩ := Schema.mem_candidates_declare.mp hleast.mem
  exact {
    declared := hdeclared
    nonempty := hne
    least := fun other hother hne => hleast.le (Schema.mem_candidates_declare.mpr ⟨hother, hne⟩)
    first := fun other hother hne hnear =>
      hleast.eq_or_lt hordered (Schema.mem_candidates_declare.mpr ⟨hother, hne⟩) hnear }

/-- The declared name that is suggested is the best one, if it is near enough. -/
theorem suggestion?_declare_eq_some_iff (hname : name ∉ declarations.map Prod.fst)
    {best : String} : (Schema.empty.declare declarations).suggestion? name = some best
      ↔ BestSuggestion (declarations.map Prod.fst) name best
        ∧ Schema.nameDistance name best ≤ Schema.maxSuggestionDistance := by
  constructor
  · intro h
    exact ⟨bestSuggestion_of_suggestion? h, (Schema.firstLeast_of_suggestion? h).2⟩
  · rintro ⟨hbest, hnear⟩
    obtain ⟨other, hother⟩ := Schema.exists_suggestion?
      (fun hmem => hname (Schema.mem_keys_declare.mp hmem))
      (Schema.mem_candidates_declare.mpr ⟨hbest.declared, hbest.nonempty⟩) hnear
    rw [hother, (bestSuggestion_of_suggestion? hother).unique hbest]

/-- There is a suggestion if and only if a declared name is near enough. -/
theorem exists_suggestion?_declare_iff (hname : name ∉ declarations.map Prod.fst) :
    (∃ best, (Schema.empty.declare declarations).suggestion? name = some best)
      ↔ ∃ declared ∈ declarations.map Prod.fst, declared ≠ ""
        ∧ Schema.nameDistance name declared ≤ Schema.maxSuggestionDistance := by
  constructor
  · rintro ⟨best, hbest⟩
    obtain ⟨h, hnear⟩ := (suggestion?_declare_eq_some_iff hname).mp hbest
    exact ⟨best, h.declared, h.nonempty, hnear⟩
  · rintro ⟨declared, hmem, hne, hnear⟩
    exact Schema.exists_suggestion? (fun hmem => hname (Schema.mem_keys_declare.mp hmem))
      (Schema.mem_candidates_declare.mpr ⟨hmem, hne⟩) hnear

/-- Names that differ in case only are at no distance. -/
theorem nameDistance_eq_zero {a b : String} (h : Text.lowercase b = Text.lowercase a) :
    Schema.nameDistance a b = 0 := by
  rw [Schema.nameDistance, h]
  exact Nat.le_zero.mp (Text.distance_le (Text.Alignment.self _))

/-- **Suggestions are optimal.** A condition on a field that is not declared, while others are, is
objected to. The objection suggests the best of the declared names if three edits turn the name in
lower case into one of them, and none otherwise; a name that differs in its casing only takes no
edits. Only which fields are declared counts, not in which order. -/
theorem bind_undeclared_suggests {declarations : List (String × FieldType)} (ignoreCase : Bool)
    {c : Condition} (hdeclared : declarations ≠ []) (hname : c.name ∉ declarations.map Prod.fst) :
    (∀ name, IsLeast {n | Text.Edits n (Text.lowercase c.name) (Text.lowercase name)}
        (Schema.nameDistance c.name name))
      ∧ (∀ best, Rules.bind ⟨Schema.empty.declare declarations, ignoreCase⟩ c
            = .error (.condition (didYouMean best) c.identifier)
          ↔ BestSuggestion (declarations.map Prod.fst) c.name best
            ∧ Schema.nameDistance c.name best ≤ 3)
      ∧ ((∃ best, Rules.bind ⟨Schema.empty.declare declarations, ignoreCase⟩ c
            = .error (.condition (didYouMean best) c.identifier))
          ↔ ∃ name ∈ declarations.map Prod.fst, name ≠ "" ∧ Schema.nameDistance c.name name ≤ 3)
      ∧ ((∀ name ∈ declarations.map Prod.fst, name ≠ "" → 3 < Schema.nameDistance c.name name) →
          Rules.bind ⟨Schema.empty.declare declarations, ignoreCase⟩ c
            = .error (.condition "unknown field" c.identifier))
      ∧ (∀ name ∈ declarations.map Prod.fst, Text.lowercase name = Text.lowercase c.name →
          ∃ best, Rules.bind ⟨Schema.empty.declare declarations, ignoreCase⟩ c
              = .error (.condition (didYouMean best) c.identifier)
            ∧ Schema.nameDistance c.name best = 0)
      ∧ ∀ others : List (String × FieldType),
          (∀ name, name ∈ others.map Prod.fst ↔ name ∈ declarations.map Prod.fst) →
          Rules.bind ⟨Schema.empty.declare others, ignoreCase⟩ c
            = Rules.bind ⟨Schema.empty.declare declarations, ignoreCase⟩ c := by
  have hbind := bind_declare ignoreCase hdeclared hname
  have hsuggests (best : String) : Rules.bind ⟨Schema.empty.declare declarations, ignoreCase⟩ c
        = .error (.condition (didYouMean best) c.identifier)
      ↔ (Schema.empty.declare declarations).suggestion? c.name = some best := by
    rw [hbind, ← Objection.message_eq_didYouMean_iff, Except.error.injEq, ExprError.condition.injEq,
      and_iff_left rfl]
  have hexists := exists_suggestion?_declare_iff hname
  refine ⟨fun name => Text.isLeast_distance _ _, fun best => ?_, ?_, fun hfar => ?_,
    fun name hmem hcase => ?_, fun others hsame => ?_⟩
  · rw [hsuggests, suggestion?_declare_eq_some_iff hname, Schema.maxSuggestionDistance]
  · simp only [hsuggests]
    exact hexists
  · have hnone : (Schema.empty.declare declarations).suggestion? c.name = none := by
      rw [Option.eq_none_iff_forall_ne_some]
      intro best hbest
      obtain ⟨name, hmem, hne, hnear⟩ := hexists.mp ⟨best, hbest⟩
      exact absurd (hfar name hmem hne) (Nat.not_lt.mpr hnear)
    rw [hbind, hnone]
    rfl
  · have hzero := nameDistance_eq_zero hcase
    -- the empty name in lower case is that of no other name
    have hne : name ≠ "" := by
      rintro rfl
      have hempty := Text.lowercase_eq_nil_iff.mp
        (hcase.symm.trans (Text.lowercase_eq_nil_iff.mpr rfl))
      exact hname (hempty ▸ hmem)
    obtain ⟨best, hbest⟩ := hexists.mpr ⟨name, hmem, hne, hzero ▸ Nat.zero_le _⟩
    have hleast := (bestSuggestion_of_suggestion? hbest).least name hmem hne
    exact ⟨best, (hsuggests best).mpr hbest, Nat.le_zero.mp (hzero ▸ hleast)⟩
  · have hothers : others ≠ [] := by
      rintro rfl
      obtain ⟨first, rest, rfl⟩ := List.exists_cons_of_ne_nil hdeclared
      exact absurd ((hsame first.1).mpr (List.mem_map_of_mem List.mem_cons_self)) List.not_mem_nil
    have hname' : c.name ∉ others.map Prod.fst := by rwa [hsame]
    rw [hbind, bind_declare ignoreCase hothers hname', Schema.suggestion?_declare_congr hsame]

end Declarations

/-- Of two declared names that are one edit away the first one is suggested, also if it was
declared last, and the empty name is not. -/
theorem bind_undeclared_suggests_heading : ∃ c : Condition, c.name = "Eading"
    ∧ Rules.bind
        ⟨Schema.empty.declare [("reading", .number), ("", .string), ("heading", .number)], false⟩ c
      = .error (.condition "unknown field, did you mean 'heading'?" c.identifier) := by
  have hbest : BestSuggestion ["reading", "", "heading"] "Eading" "heading" := {
    declared := by decide
    nonempty := by decide
    least := by decide +kernel
    first := by decide +kernel }
  let c : Condition := ⟨"Eading", ⟨.identifier, "Eading", ⟨1, 1⟩⟩,
    ⟨.equals, ⟨.equals, "=", ⟨1, 7⟩⟩⟩, ⟨.string "'x'", ⟨.string, "'x'", ⟨1, 8⟩⟩⟩⟩
  have hsuggests := (@bind_undeclared_suggests
    [("reading", .number), ("", .string), ("heading", .number)] false c
    (by decide) (by decide)).2.1 "heading"
  exact ⟨c, rfl, hsuggests.mpr ⟨hbest, by decide +kernel⟩⟩

end RecordFilter
