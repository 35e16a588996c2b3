import RecordFilter.Proofs.Execution
import RecordFilter.Proofs.Text.Keyed
import RecordFilter.Toml.Document

/-!
# Documents that were read stand in key order

Whatever adds to a table puts an entry where its key belongs, so tables stand in key order, those
under headers, in braces or on the way to others alike. `tidy_of_ofText` says so of a document and
of the tables that are its entries; what these hold in turn is of no concern here.
-/

namespace RecordFilter.Toml

/-- Whether the entries of a table stand in key order. -/
def InOrder : Toml → Prop
  | .table _ entries => Keyed.Ordered entries
  | _ => True

/-- Whether entries stand in key order, and those of the tables among them as well. -/
structure Tidy (entries : List (String × Toml)) : Prop where
  ordered : Keyed.Ordered entries
  inner : ∀ entry ∈ entries, entry.2.InOrder

/-- A table without entries. -/
theorem tidy_nil : Tidy [] := ⟨Keyed.ordered_nil, fun _ h => absurd h List.not_mem_nil⟩

/-- A value that goes into a table goes to the place that its key has. -/
theorem Tidy.insert {entries : List (String × Toml)} {key : String} {value : Toml}
    (h : Tidy entries) (hvalue : value.InOrder) : Tidy (Keyed.insert key value entries) := by
  refine ⟨h.ordered.insert, fun entry hentry => ?_⟩
  rcases Keyed.mem_insert hentry with rfl | hentry
  · exact hvalue
  · exact h.inner entry hentry

/-- What is found in a tidy table is in order itself. -/
theorem Tidy.find? {entries : List (String × Toml)} {key : String} {value : Toml}
    (h : Tidy entries) (hfind : Keyed.find? key entries = some value) : value.InOrder :=
  h.inner _ (Keyed.mem_of_find? hfind)

/-! ## Putting something into a table -/

/-- What putting something into a table changes: one entry, which is what is put there, a table on
the way to where it is put, or several tables, the latest of which is on the way. -/
inductive Puts (put : Toml → Prop) (deeper : List (String × Toml) → List (String × Toml) → Prop)
    (entries : List (String × Toml)) : List (String × Toml) → Prop where
  | here (key : String) {value : Toml} (h : put value) :
    Puts put deeper entries (Keyed.insert key value entries)
  | table (key : String) (origin : TableOrigin) {inner inner' : List (String × Toml)}
    (hinner : inner = [] ∨ (key, .table origin inner) ∈ entries) (h : deeper inner inner') :
    Puts put deeper entries (Keyed.insert key (.table origin inner') entries)
  | tables (key : String) (items : List (List (String × Toml))) :
    Puts put deeper entries (Keyed.insert key (.tables items) entries)

section Puts

variable {put : Toml → Prop} {deeper : List (String × Toml) → List (String × Toml) → Prop}
  {entries entries' : List (String × Toml)}

/-- Putting something into a table keeps the order of its keys, whatever is put there. -/
theorem Puts.ordered (h : Puts put deeper entries entries') (hentries : Keyed.Ordered entries) :
    Keyed.Ordered entries' := by
  cases h with
  | here key h => exact hentries.insert
  | table key origin hinner h => exact hentries.insert
  | tables key items => exact hentries.insert

/-- If what is put is in order, and the tables further in stay ordered, the table stays tidy. -/
theorem Puts.tidy (h : Puts put deeper entries entries') (hput : ∀ value, put value → value.InOrder)
    (hdeeper : ∀ inner inner', deeper inner inner' → Keyed.Ordered inner → Keyed.Ordered inner')
    (hentries : Tidy entries) : Tidy entries' := by
  cases h with
  | here key h => exact hentries.insert (hput _ h)
  | table key origin hinner h =>
    refine hentries.insert (hdeeper _ _ h ?_)
    rcases hinner with rfl | hinner
    · exact Keyed.ordered_nil
    · exact hentries.inner _ hinner
  | tables key items => exact hentries.insert trivial

end Puts

/-! ## Assignments -/

section Assignments

variable {key : String} {value : Toml} {path : List String} {assignments : List Assignment}
  {entries entries' : List (String × Toml)}

/-- A key with dots puts its value at the end of its path, through the tables on the way. -/
theorem puts_of_addKey (h : addKey key value path entries = .ok entries') :
    Puts (· = value) (fun inner inner' => ∃ path, addKey key value path inner = .ok inner')
      entries entries' := by
  unfold addKey at h
  split at h
  · split at h
    · rw [← Except.ok.inj h]
      exact .here _ rfl
    · cases h
  · next part path =>
    split at h
    · obtain ⟨inner, hinner, hinsert⟩ := exists_of_bind_eq_ok h
      rw [← Except.ok.inj hinsert]
      exact .table _ _ (Or.inl rfl) ⟨path, hinner⟩
    · next hfind =>
      obtain ⟨inner, hinner, hinsert⟩ := exists_of_bind_eq_ok h
      rw [← Except.ok.inj hinsert]
      exact .table _ _ (Or.inr (Keyed.mem_of_find? hfind)) ⟨path, hinner⟩
    · next hfind =>
      split at h
      · cases h
      · obtain ⟨inner, hinner, hinsert⟩ := exists_of_bind_eq_ok h
        rw [← Except.ok.inj hinsert]
        exact .table _ _ (Or.inr (Keyed.mem_of_find? hfind)) ⟨path, hinner⟩
    · split at h
      · cases h
      · obtain ⟨latest, -, hinsert⟩ := exists_of_bind_eq_ok h
        rw [← Except.ok.inj hinsert]
        exact .tables _ _
    · cases h

/-- A key keeps the order of the table that it goes into. -/
theorem ordered_of_addKey (h : addKey key value path entries = .ok entries')
    (hentries : Keyed.Ordered entries) : Keyed.Ordered entries' :=
  (puts_of_addKey h).ordered hentries

/-- A row of keys with their values keeps the order of the table, as every row of such steps does.
-/
theorem ordered_of_addAssignments (h : addAssignments assignments entries = .ok entries')
    (hentries : Keyed.Ordered entries) : Keyed.Ordered entries' :=
  foldlM_keeps (fun _ _ _ _ hs hstep => ordered_of_addKey hstep hs) hentries h

/-- A row of values that are in order keeps a table tidy. -/
theorem tidy_of_addAssignments (h : addAssignments assignments entries = .ok entries')
    (hvalues : ∀ a ∈ assignments, a.value.InOrder) (hentries : Tidy entries) : Tidy entries' := by
  refine foldlM_keeps (fun a ha s s' hs hstep => ?_) hentries h
  refine (puts_of_addKey hstep).tidy ?_ ?_ hs
  · rintro value rfl
    exact hvalues a ha
  · rintro inner inner' ⟨path, hinner⟩ hordered
    exact ordered_of_addKey hinner hordered

end Assignments

/-! ## Sections -/

section Sections

variable {key : String} {change : Option Toml → Except TomlError Toml} {path : List String}
  {entries entries' : List (String × Toml)} {present : Option Toml} {value : Toml}

/-- The table of a section is changed at the end of its path, through the tables on the way. -/
theorem puts_of_changeAt (h : changeAt key change path entries = .ok entries') :
    Puts (fun value => ∃ present, change present = .ok value ∧ ∀ v ∈ present, (key, v) ∈ entries)
      (fun inner inner' => ∃ path, changeAt key change path inner = .ok inner')
      entries entries' := by
  unfold changeAt at h
  split at h
  · obtain ⟨value, hvalue, hinsert⟩ := exists_of_bind_eq_ok h
    rw [← Except.ok.inj hinsert]
    exact .here _ ⟨_, hvalue, fun v hv => Keyed.mem_of_find? hv⟩
  · next part path =>
    split at h
    · obtain ⟨inner, hinner, hinsert⟩ := exists_of_bind_eq_ok h
      rw [← Except.ok.inj hinsert]
      exact .table _ _ (Or.inl rfl) ⟨path, hinner⟩
    · cases h
    · next hfind =>
      obtain ⟨inner, hinner, hinsert⟩ := exists_of_bind_eq_ok h
      rw [← Except.ok.inj hinsert]
      exact .table _ _ (Or.inr (Keyed.mem_of_find? hfind)) ⟨path, hinner⟩
    · obtain ⟨latest, -, hinsert⟩ := exists_of_bind_eq_ok h
      rw [← Except.ok.inj hinsert]
      exact .tables _ _
    · cases h

/-- A section makes a table in key order of one that is. -/
theorem inOrder_of_change {s : Section} (h : s.change present = .ok value)
    (hpresent : ∀ v ∈ present, v.InOrder) : value.InOrder := by
  unfold Section.change at h
  split at h
  · obtain ⟨entries, hentries, hvalue⟩ := exists_of_bind_eq_ok h
    rw [← Except.ok.inj hvalue]
    exact ordered_of_addAssignments hentries Keyed.ordered_nil
  · obtain ⟨entries, hentries, hvalue⟩ := exists_of_bind_eq_ok h
    rw [← Except.ok.inj hvalue]
    exact ordered_of_addAssignments hentries (hpresent _ rfl)
  · obtain ⟨entries, -, hvalue⟩ := exists_of_bind_eq_ok h
    rw [← Except.ok.inj hvalue]
    trivial
  · obtain ⟨entries, -, hvalue⟩ := exists_of_bind_eq_ok h
    rw [← Except.ok.inj hvalue]
    trivial
  · cases h

/-- A section keeps the document tidy. -/
theorem tidy_of_addSection {s : Section} (h : addSection entries s = .ok entries')
    (hentries : Tidy entries) : Tidy entries' := by
  refine (puts_of_changeAt h).tidy ?_ ?_ hentries
  · rintro value ⟨present, hvalue, hpresent⟩
    exact inOrder_of_change hvalue fun v hv => hentries.inner _ (hpresent v hv)
  · rintro inner inner' ⟨path, hinner⟩ hordered
    exact (puts_of_changeAt hinner).ordered hordered

end Sections

/-! ## Words -/

section Words

variable {word : List Char}

/-- Whether what may be a value stands in key order if it is one. -/
def AllInOrder (value? : Option Toml) : Prop := ∀ value ∈ value?, value.InOrder

theorem allInOrder_none : AllInOrder none := fun _ h => by cases h

theorem allInOrder_some {value : Toml} (h : value.InOrder) : AllInOrder (some value) := by
  intro _ hvalue
  rwa [← Option.some.inj hvalue]

/-- Readings of words that come to a value by way of something else. -/
theorem allInOrder_bind {α : Type} {x : Option α} {f : α → Option Toml}
    (h : ∀ a, AllInOrder (f a)) : AllInOrder (x >>= f) := by
  cases x with
  | none => exact allInOrder_none
  | some a => exact h a

/-- Readings of words that depend on what the word looks like. -/
theorem allInOrder_ite {p : Prop} [Decidable p] {a b : Option Toml} (ha : AllInOrder a)
    (hb : AllInOrder b) : AllInOrder (if p then a else b) := by
  split
  · exact ha
  · exact hb

/-- A number with another base than ten. -/
theorem allInOrder_based? (base : Nat) : AllInOrder (based? base word) :=
  allInOrder_bind fun _ => allInOrder_ite (allInOrder_some trivial) allInOrder_none

/-- Any whole number. -/
theorem allInOrder_integer? : AllInOrder (integer? word) := by
  unfold integer?
  split
  · exact allInOrder_based? 16
  · exact allInOrder_based? 8
  · exact allInOrder_based? 2
  · exact allInOrder_bind fun _ => allInOrder_ite (allInOrder_some trivial) allInOrder_none

/-- A number with a point or an exponent. -/
theorem allInOrder_decimal? : AllInOrder (decimal? word) := by
  have hreal : ∀ (p q : Prop) [Decidable p] [Decidable q] (x : Binary64),
      AllInOrder (if p then none else if q then some (.real x) else none) := fun _ _ _ _ _ =>
    allInOrder_ite allInOrder_none (allInOrder_ite (allInOrder_some trivial) allInOrder_none)
  unfold decimal?
  dsimp only
  -- with an exponent or without, and the same with a fraction
  split
  · refine allInOrder_bind fun exponent => allInOrder_bind fun whole => ?_
    split
    · exact allInOrder_bind fun fraction => hreal _ _ _
    · exact allInOrder_bind fun fraction => hreal _ _ _
  · refine allInOrder_bind fun exponent => allInOrder_bind fun whole => ?_
    split
    · exact allInOrder_bind fun fraction => hreal _ _ _
    · exact allInOrder_bind fun fraction => hreal _ _ _

/-- Any number that is not whole, the words for those that are none included. -/
theorem allInOrder_real? : AllInOrder (real? word) :=
  allInOrder_ite (allInOrder_some trivial)
    (allInOrder_ite (allInOrder_some trivial) allInOrder_decimal?)

/-- No word is a table. -/
theorem allInOrder_word? : AllInOrder (word? word) := by
  have hnumber : AllInOrder (integer? word <|> real? word) := by
    cases h : integer? word with
    | none => exact allInOrder_real?
    | some value => exact allInOrder_some (allInOrder_integer? value h)
  exact allInOrder_ite (allInOrder_some trivial) (allInOrder_ite (allInOrder_some trivial)
    (allInOrder_ite (allInOrder_some trivial) hnumber))

end Words

/-! ## Values -/

section Values

variable {text rest : List Char} {value : Toml}

/-- A table between braces is put together from its keys, so it is in order like any other. -/
theorem inOrder_of_readInline {readValue : List Char → Except TomlError (Toml × List Char)}
    (h : readInline readValue text = .ok (value, rest)) : value.InOrder := by
  unfold readInline at h
  split at h
  · cases h
    exact Keyed.ordered_nil
  · obtain ⟨⟨assignments, rest'⟩, -, hrest⟩ := exists_of_bind_eq_ok h
    obtain ⟨entries, hentries, hvalue⟩ := exists_of_bind_eq_ok hrest
    cases hvalue
    exact ordered_of_addAssignments hentries Keyed.ordered_nil

/-- A value is in order if those inside it are. -/
theorem inOrder_of_readValueWith {inner : Option (List Char → Except TomlError (Toml × List Char))}
    (h : readValueWith inner text = .ok (value, rest)) : value.InOrder := by
  unfold readValueWith at h
  split at h
  · obtain ⟨⟨chars, rest'⟩, -, hvalue⟩ := exists_of_bind_eq_ok h
    cases hvalue
    trivial
  · obtain ⟨⟨chars, rest'⟩, -, hvalue⟩ := exists_of_bind_eq_ok h
    cases hvalue
    trivial
  · obtain ⟨⟨chars, rest'⟩, -, hvalue⟩ := exists_of_bind_eq_ok h
    cases hvalue
    trivial
  · obtain ⟨⟨chars, rest'⟩, -, hvalue⟩ := exists_of_bind_eq_ok h
    cases hvalue
    trivial
  · split at h
    · obtain ⟨⟨items, rest'⟩, -, hvalue⟩ := exists_of_bind_eq_ok h
      cases hvalue
      trivial
    · cases h
  · split at h
    · exact inOrder_of_readInline h
    · cases h
  · dsimp only at h
    split at h
    · cases h
    · split at h
      · next hword =>
        cases h
        exact allInOrder_word? _ hword
      · cases h

/-- A value at any depth is in order, by induction on the levels that are left. -/
theorem inOrder_of_readValue {levels : Nat} (h : readValue levels text = .ok (value, rest)) :
    value.InOrder := by
  cases levels with
  | zero => exact inOrder_of_readValueWith h
  | succ levels => exact inOrder_of_readValueWith h

end Values

/-! ## Documents -/

section Documents

variable {text rest : List Char} {statements : List Statement}

/-- The value of an assignment among statements stands in key order. -/
def Statement.InOrder : Statement → Prop
  | .header _ _ => True
  | .assignment a => a.value.InOrder

/-- The header of a section has no value yet. -/
theorem inOrder_of_readHeader {several : Bool} {statement : Statement}
    (h : readHeader several text = .ok (statement, rest)) : statement.InOrder := by
  obtain ⟨⟨key, behind⟩, -, hclose⟩ := exists_of_bind_eq_ok h
  dsimp only at hclose
  split at hclose
  · cases hclose
    trivial
  · cases hclose
    trivial
  · cases hclose

/-- A line of a document is in order. -/
theorem inOrder_of_readStatement {statement : Statement}
    (h : readStatement text = .ok (statement, rest)) : statement.InOrder := by
  unfold readStatement at h
  split at h
  · exact inOrder_of_readHeader h
  · exact inOrder_of_readHeader h
  · obtain ⟨⟨a, behind⟩, hassignment, hstatement⟩ := exists_of_bind_eq_ok h
    cases hstatement
    obtain ⟨⟨key, equals⟩, -, hequals⟩ := exists_of_bind_eq_ok hassignment
    dsimp only at hequals
    split at hequals
    · obtain ⟨⟨value, behind⟩, hvalue, ha⟩ := exists_of_bind_eq_ok hequals
      cases ha
      exact inOrder_of_readValue hvalue
    · cases hequals

/-- All lines of a document are, by induction on the steps that reading takes. -/
theorem inOrder_of_readStatements {steps : Nat} (h : readStatements steps text = .ok statements) :
    ∀ statement ∈ statements, statement.InOrder := by
  induction steps generalizing text statements with
  | zero =>
    unfold readStatements at h
    split at h
    · cases h
      exact fun _ h => absurd h List.not_mem_nil
    · cases h
  | succ steps ih =>
    unfold readStatements at h
    split at h
    · cases h
      exact fun _ h => absurd h List.not_mem_nil
    · split at h
      · split at h
        · exact ih h
        · cases h
      · obtain ⟨⟨statement, behind⟩, hstatement, hbehind⟩ := exists_of_bind_eq_ok h
        obtain ⟨line, -, hline⟩ := exists_of_bind_eq_ok hbehind
        obtain ⟨more, hmore, hall⟩ := exists_of_bind_eq_ok hline
        cases hall
        intro other hother
        rcases List.mem_cons.mp hother with rfl | hother
        · exact inOrder_of_readStatement hstatement
        · exact ih hmore other hother

/-- The assignments in front of all headers are among the statements. -/
theorem mem_of_mem_sections {a : Assignment} (h : a ∈ (sections statements).1) :
    .assignment a ∈ statements := by
  induction statements with
  | nil => cases h
  | cons statement statements ih =>
    cases statement with
    | header key several => cases h
    | assignment first =>
      have h : a ∈ first :: (sections statements).1 := h
      rcases List.mem_cons.mp h with rfl | h
      · exact List.mem_cons_self
      · exact List.mem_cons_of_mem _ (ih h)

/-- A document that was read stands in key order, and so do its tables. -/
theorem tidy_of_ofText {document : String} {entries : List (String × Toml)}
    (h : ofText document = .ok entries) : Tidy entries := by
  obtain ⟨statements, hread, hadd⟩ := exists_of_bind_eq_ok h
  obtain ⟨front, hfront, hbehind⟩ := exists_of_bind_eq_ok hadd
  have htidy : Tidy front := tidy_of_addAssignments hfront
    (fun a ha => inOrder_of_readStatements hread _ (mem_of_mem_sections ha)) tidy_nil
  exact foldlM_keeps (fun _ _ _ _ hs hstep => tidy_of_addSection hstep hs) htidy hbehind

end Documents

end RecordFilter.Toml
