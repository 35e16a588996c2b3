import Mathlib
import RecordFilter.Text.Keyed

/-!
# Looking up and changing entries

What an insertion changes is said by `find?_insert`, for any list of entries, and insertions of
different keys may be made in either order (`insert_comm`). Lists that stand in key order
(`Ordered`) keep doing so.
-/

namespace RecordFilter

namespace Text

/-- The order of characters is that of lists of code points. -/
theorem compareChars_eq_compare (s t : List Char) :
    compareChars s t = compare (s.map Char.toNat) (t.map Char.toNat) := by
  induction s generalizing t with
  | nil => cases t <;> rfl
  | cons a s ih =>
    cases t with
    | nil => rfl
    | cons b t =>
      rw [compareChars, ih, List.map_cons, List.map_cons, List.compare_eq_compareLex,
        List.compareLex_cons_cons]
      cases compare a.toNat b.toNat <;> rfl

/-- The order of texts is that of their lists of code points. -/
theorem compareText_eq_compare (a b : String) :
    compareText a b = compare (a.toList.map Char.toNat) (b.toList.map Char.toNat) :=
  compareChars_eq_compare _ _

/-- Only equal texts are neither before nor behind each other. -/
theorem compareText_eq_iff {a b : String} : compareText a b = .eq ↔ a = b := by
  rw [compareText_eq_compare, Std.LawfulEqCmp.compare_eq_iff_eq,
    List.map_inj_right fun _ _ h => Char.toNat_inj.mp h]
  exact String.toList_inj

/-- One text is behind another if that one is before it. -/
theorem compareText_gt_iff {a b : String} : compareText a b = .gt ↔ compareText b a = .lt := by
  rw [compareText_eq_compare, compareText_eq_compare]
  exact Std.OrientedCmp.gt_iff_lt

theorem compareText_trans {a b c : String} (hab : compareText a b = .lt)
    (hbc : compareText b c = .lt) : compareText a c = .lt := by
  rw [compareText_eq_compare] at *
  exact Std.TransCmp.lt_trans hab hbc

theorem compareText_asymm {a b : String} (h : compareText a b = .lt) : compareText b a ≠ .lt := by
  intro hback
  rw [← compareText_gt_iff, h] at hback
  cases hback

theorem ne_of_compareText_lt {a b : String} (h : compareText a b = .lt) : a ≠ b := by
  intro heq
  rw [compareText_eq_iff.mpr heq] at h
  cases h

end Text

namespace Keyed

open Text (compareText compareText_eq_iff compareText_gt_iff compareText_trans)

variable {α β : Type} {key key' : String} {value value' : α} {entries : List (String × α)}

/-! ## Looking up -/

/-- A value that was put under a key is found there, and nothing else changes. -/
theorem find?_insert (key k : String) (value : α) (entries : List (String × α)) :
    find? k (insert key value entries) = if key = k then some value else find? k entries := by
  induction entries with
  | nil => rfl
  | cons entry rest ih =>
    obtain ⟨k', v⟩ := entry
    rw [insert]
    cases h : compareText key k' with
    | lt => rfl
    | eq =>
      rw [compareText_eq_iff] at h
      subst h
      by_cases hk : key = k <;> simp [find?, hk]
    | gt =>
      have hne : key ≠ k' := fun heq => by
        rw [compareText_eq_iff.mpr heq] at h
        cases h
      by_cases hk : key = k
      · subst hk
        simp [find?, ih, hne.symm]
      · by_cases hk' : k' = k <;> simp [find?, ih, hk, hk']

/-- Nothing is found under a key that is not there. -/
theorem find?_eq_none (h : ∀ entry ∈ entries, entry.1 ≠ key) : find? key entries = none := by
  induction entries with
  | nil => rfl
  | cons entry rest ih =>
    rw [find?, if_neg (h entry List.mem_cons_self)]
    exact ih fun e he => h e (List.mem_cons_of_mem _ he)

/-- The first of two lists goes first. -/
theorem find?_append (key : String) (front back : List (String × α)) :
    find? key (front ++ back) = (find? key front).or (find? key back) := by
  induction front with
  | nil => rfl
  | cons entry rest ih =>
    rw [List.cons_append, find?, find?, ih]
    split_ifs <;> rfl

/-- It is the first entry of a key that is found. -/
theorem find?_eq_some_iff_append : find? key entries = some value
    ↔ ∃ front back, entries = front ++ (key, value) :: back ∧ ∀ entry ∈ front, entry.1 ≠ key := by
  constructor
  · intro h
    induction entries with
    | nil => cases h
    | cons entry rest ih =>
      rw [find?] at h
      by_cases hkey : entry.1 = key
      · rw [if_pos hkey] at h
        obtain rfl := Option.some.inj h
        exact ⟨[], rest, by rw [← hkey]; rfl, fun _ hmem => nomatch hmem⟩
      · rw [if_neg hkey] at h
        obtain ⟨front, back, rfl, hfront⟩ := ih h
        exact ⟨entry :: front, back, rfl, List.forall_mem_cons.mpr ⟨hkey, hfront⟩⟩
  · rintro ⟨front, back, rfl, hfront⟩
    rw [find?_append, find?_eq_none hfront, Option.none_or, find?, if_pos rfl]

/-- What is found under a key is there. -/
theorem mem_of_find? (h : find? key entries = some value) : (key, value) ∈ entries := by
  obtain ⟨front, back, rfl, -⟩ := find?_eq_some_iff_append.mp h
  exact List.mem_append_right _ List.mem_cons_self

/-- Where no key is there twice, every entry is found. -/
theorem find?_eq_some_iff (h : (entries.map Prod.fst).Nodup) :
    find? key entries = some value ↔ (key, value) ∈ entries := by
  refine ⟨mem_of_find?, fun hmem => ?_⟩
  induction entries with
  | nil => cases hmem
  | cons entry rest ih =>
    obtain ⟨hentry, hrest⟩ := List.nodup_cons.mp h
    rw [find?]
    rcases List.mem_cons.mp hmem with rfl | hmem
    · exact if_pos rfl
    · rw [if_neg, ih hrest hmem]
      rintro rfl
      exact hentry (List.mem_map.mpr ⟨_, hmem, rfl⟩)

/-- Where no key comes twice the order of the entries does not matter. -/
theorem find?_eq_of_perm {others : List (String × α)} (h : entries.Perm others)
    (hkeys : (entries.map Prod.fst).Nodup) (key : String) :
    find? key entries = find? key others := by
  refine Option.ext fun value => ?_
  rw [find?_eq_some_iff hkeys, find?_eq_some_iff ((h.map Prod.fst).nodup_iff.mp hkeys), h.mem_iff]

/-! ## Inserting -/

/-- What is there behind an insertion was inserted, or was there before. -/
theorem mem_insert {entry : String × α} (h : entry ∈ insert key value entries) :
    entry = (key, value) ∨ entry ∈ entries := by
  induction entries with
  | nil => exact Or.inl (List.mem_singleton.mp h)
  | cons first rest ih =>
    obtain ⟨k, v⟩ := first
    rw [insert] at h
    cases hcompare : compareText key k with
    | lt =>
      rw [hcompare] at h
      exact List.mem_cons.mp h
    | eq =>
      rw [hcompare] at h
      exact (List.mem_cons.mp h).imp_right (List.mem_cons_of_mem _)
    | gt =>
      rw [hcompare] at h
      rcases List.mem_cons.mp h with rfl | h
      · exact Or.inr List.mem_cons_self
      · exact (ih h).imp_right (List.mem_cons_of_mem _)

/-- An insertion adds its key and loses none. -/
theorem mem_keys_insert {k : String} :
    k ∈ (insert key value entries).map Prod.fst ↔ k = key ∨ k ∈ entries.map Prod.fst := by
  induction entries with
  | nil => simp [insert]
  | cons first rest ih =>
    obtain ⟨k', v⟩ := first
    rw [insert]
    cases hcompare : compareText key k' with
    | lt => simp
    | eq => simp [compareText_eq_iff.mp hcompare]
    | gt => simp only [List.map_cons, List.mem_cons, ih, or_left_comm]

/-- Values under two different keys may be put in either first. -/
theorem insert_comm_of_lt (h : compareText key key' = .lt) :
    insert key value (insert key' value' entries)
      = insert key' value' (insert key value entries) := by
  have hgt : compareText key' key = .gt := compareText_gt_iff.mpr h
  induction entries with
  | nil => simp [insert, h, hgt]
  | cons first rest ih =>
    obtain ⟨k, v⟩ := first
    cases hk' : compareText key' k with
    | lt =>
      have hk : compareText key k = .lt := compareText_trans h hk'
      simp [insert, h, hgt, hk, hk']
    | eq =>
      have hk : compareText key k = .lt := by rwa [← compareText_eq_iff.mp hk']
      simp [insert, h, hgt, hk, hk']
    | gt =>
      cases hk : compareText key k with
      | lt => simp [insert, hgt, hk, hk']
      | eq => simp [insert, hgt, hk, hk']
      | gt => simp [insert, hk, hk', ih]

/-- Entries of different keys may be inserted in either order. -/
theorem insert_comm (h : key ≠ key') :
    insert key value (insert key' value' entries)
      = insert key' value' (insert key value entries) := by
  cases hcompare : compareText key key' with
  | lt => exact insert_comm_of_lt hcompare
  | eq => exact absurd (compareText_eq_iff.mp hcompare) h
  | gt => exact (insert_comm_of_lt (compareText_gt_iff.mp hcompare)).symm

/-! ## Key order -/

/-- Whether entries stand in key order, with one entry per key. -/
def Ordered (entries : List (String × α)) : Prop :=
  entries.Pairwise fun a b => compareText a.1 b.1 = .lt

theorem ordered_nil : Ordered ([] : List (String × α)) := List.Pairwise.nil

/-- An insertion keeps the order of the keys. -/
theorem Ordered.insert (h : Ordered entries) : Ordered (insert key value entries) := by
  induction entries with
  | nil => exact List.pairwise_singleton _ _
  | cons first rest ih =>
    obtain ⟨k, v⟩ := first
    obtain ⟨hfirst, hrest⟩ := List.pairwise_cons.mp h
    rw [Keyed.insert]
    cases hk : compareText key k with
    | lt =>
      refine List.pairwise_cons.mpr ⟨fun entry hentry => ?_, h⟩
      rcases List.mem_cons.mp hentry with rfl | hentry
      · exact hk
      · exact compareText_trans hk (hfirst entry hentry)
    | eq =>
      obtain rfl := compareText_eq_iff.mp hk
      exact List.pairwise_cons.mpr ⟨hfirst, hrest⟩
    | gt =>
      refine List.pairwise_cons.mpr ⟨fun entry hentry => ?_, ih hrest⟩
      rcases mem_insert hentry with rfl | hentry
      · exact compareText_gt_iff.mp hk
      · exact hfirst entry hentry

/-- The keys alone decide whether entries stand in order. -/
theorem ordered_of_map_fst {others : List (String × β)} (h : Ordered entries)
    (hkeys : others.map Prod.fst = entries.map Prod.fst) : Ordered others := by
  have hrow : (entries.map Prod.fst).Pairwise fun a b => compareText a b = .lt :=
    List.pairwise_map.mpr h
  rw [← hkeys] at hrow
  exact List.pairwise_map.mp hrow

/-- An entry whose key comes behind all others is put at the end. -/
theorem insert_eq_append (h : ∀ entry ∈ entries, compareText entry.1 key = .lt) :
    Keyed.insert key value entries = entries ++ [(key, value)] := by
  induction entries with
  | nil => rfl
  | cons first rest ih =>
    obtain ⟨k, v⟩ := first
    have hgt : compareText key k = .gt := compareText_gt_iff.mpr (h (k, v) List.mem_cons_self)
    simp [Keyed.insert, hgt, ih fun entry hentry => h entry (List.mem_cons_of_mem _ hentry)]

/-- In order, no key comes twice. -/
theorem Ordered.nodup (h : Ordered entries) : (entries.map Prod.fst).Nodup :=
  List.pairwise_map.mpr (h.imp fun hlt => Text.ne_of_compareText_lt hlt)

/-- Entries in key order are determined by what is found among them. -/
theorem Ordered.eq_of_find? {others : List (String × α)} (h : Ordered entries)
    (hothers : Ordered others) (hfind : ∀ key, find? key entries = find? key others) :
    entries = others := by
  have hmem : ∀ entry, entry ∈ entries ↔ entry ∈ others := fun (key, value) => by
    rw [← find?_eq_some_iff h.nodup, ← find?_eq_some_iff hothers.nodup, hfind]
  have hperm := (List.perm_ext_iff_of_nodup h.nodup.of_map hothers.nodup.of_map).mpr hmem
  exact hperm.eq_of_pairwise (fun _ _ _ _ hab hba => (Text.compareText_asymm hab hba).elim) h
    hothers

/-! ## Inserting many entries -/

/-- Of the entries that are inserted for a key the last one stays. -/
theorem find?_insertAll (key : String) (entries into : List (String × α)) :
    find? key (insertAll entries into) = (find? key entries.reverse).or (find? key into) := by
  induction entries generalizing into with
  | nil => rfl
  | cons first rest ih =>
    show find? key (Keyed.insertAll rest (Keyed.insert first.1 first.2 into)) = _
    rw [ih, find?_insert, List.reverse_cons, find?_append, Option.or_assoc]
    congr 1
    rw [find?]
    split_ifs <;> rfl

/-- A row of insertions keeps the order of the keys. -/
theorem Ordered.insertAll {into : List (String × α)} (h : Ordered into) :
    Ordered (insertAll entries into) := by
  induction entries generalizing into with
  | nil => exact h
  | cons first rest ih => exact ih h.insert

/-- What is there behind a row of insertions comes from the row, or was there before. -/
theorem mem_insertAll {into : List (String × α)} {entry : String × α}
    (h : entry ∈ insertAll entries into) : entry ∈ entries ∨ entry ∈ into := by
  induction entries generalizing into with
  | nil => exact Or.inr h
  | cons first rest ih =>
    rcases ih h with hrest | hinto
    · exact Or.inl (List.mem_cons_of_mem _ hrest)
    · rcases mem_insert hinto with rfl | hinto
      · exact Or.inl List.mem_cons_self
      · exact Or.inr hinto

/-- A row of insertions adds its keys and loses none. -/
theorem mem_keys_insertAll {into : List (String × α)} {k : String} :
    k ∈ (insertAll entries into).map Prod.fst
      ↔ k ∈ entries.map Prod.fst ∨ k ∈ into.map Prod.fst := by
  induction entries generalizing into with
  | nil => simp [Keyed.insertAll]
  | cons first rest ih =>
    show k ∈ (Keyed.insertAll rest (Keyed.insert first.1 first.2 into)).map Prod.fst ↔ _
    rw [ih, mem_keys_insert, List.map_cons, List.mem_cons]
    tauto

/-- Entries in key order have the same row of keys if they have the same keys. -/
theorem map_fst_eq_of_ordered {others : List (String × β)} (h : Ordered entries)
    (hothers : Ordered others)
    (hkeys : ∀ k, k ∈ entries.map Prod.fst ↔ k ∈ others.map Prod.fst) :
    entries.map Prod.fst = others.map Prod.fst := by
  have hrow {α : Type} {entries : List (String × α)} (h : Ordered entries) :
      (entries.map Prod.fst).Pairwise fun a b => compareText a b = .lt := List.pairwise_map.mpr h
  have hperm := (List.perm_ext_iff_of_nodup h.nodup hothers.nodup).mpr hkeys
  exact hperm.eq_of_pairwise (fun _ _ _ _ hab hba => (Text.compareText_asymm hab hba).elim)
    (hrow h) (hrow hothers)

/-- Entries that stand in order behind others are put at their end. -/
theorem insertAll_of_ordered {into : List (String × α)} (h : Ordered (into ++ entries)) :
    Keyed.insertAll entries into = into ++ entries := by
  induction entries generalizing into with
  | nil => exact (List.append_nil into).symm
  | cons first rest ih =>
    have hfirst : ∀ entry ∈ into, compareText entry.1 first.1 = .lt := fun entry hentry =>
      (List.pairwise_append.mp h).2.2 entry hentry first List.mem_cons_self
    rw [List.append_cons] at h ⊢
    rw [← ih h, ← insert_eq_append hfirst]
    rfl

end Keyed

end RecordFilter
