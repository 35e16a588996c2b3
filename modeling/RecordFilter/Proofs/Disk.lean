import RecordFilter.Disk
import RecordFilter.Proofs.Execution

/-!
# Reading and writing on a disk

A text that was written to a path is read from it (`fileText_of_storeText`). Making directories
twice makes no more of them than making them once, and does not get any further
(`makeDirectories_again`); where a path leads to a place already, the directories on the way to it
need not be made (`makeAlong_dropLast`). `way_induction` goes along the names of a path, as walking
and making directories do.
-/

namespace RecordFilter.Disk

variable {disk made stored : Disk} {place next : Place} {name : String} {names : List String}
  {path text : String}

/-! ## Entries -/

/-- What is put at a place is there, and every other place is as it was. -/
theorem entry?_put (disk : Disk) {place : Place} (hplace : place ≠ []) (entry : Entry)
    (other : Place) :
    entry? (disk.put place entry) other
      = if other = place then some entry else disk.entry? other := by
  have hlookup : ∀ entries : List (Place × Entry), other ≠ place →
      (entries.filter fun e => e.1 != place).lookup other = entries.lookup other := by
    intro entries hother
    induction entries with
    | nil => rfl
    | cons first rest ih =>
      obtain ⟨p, e⟩ := first
      by_cases hp : p = place
      · have hne : (other == p) = false := beq_eq_false_iff_ne.mpr fun heq => hother (heq.trans hp)
        rw [List.filter_cons_of_neg (by simp [hp]), List.lookup_cons, hne]
        exact ih
      · rw [List.filter_cons_of_pos (by simp [hp]), List.lookup_cons, List.lookup_cons, ih]
  unfold entry? put
  by_cases hother : other = place
  · subst hother
    simp [hplace]
  · rw [if_neg hother]
    simp only [List.lookup_cons, beq_eq_false_iff_ne.mpr hother]
    rw [hlookup _ hother]

theorem entry?_put_self (disk : Disk) (hplace : place ≠ []) (entry : Entry) :
    entry? (disk.put place entry) place = some entry := by
  rw [entry?_put disk hplace, if_pos rfl]

/-! ## Ways through a disk -/

/-- Whether a name leads nowhere. -/
def IsIdle (name : String) : Prop := name = "" ∨ name = "."

instance (name : String) : Decidable (IsIdle name) := inferInstanceAs (Decidable (_ ∨ _))

section Steps

variable (disk : Disk) (place : Place) (names : List String)

/-- A name that leads nowhere. -/
theorem walk_idle (h : IsIdle name) : disk.walk place (name :: names) = disk.walk place names := by
  rw [walk]
  exact if_pos h

/-- The way to the directory above. -/
theorem walk_up : disk.walk place (".." :: names) = disk.walk place.dropLast names := by
  rw [walk, if_neg (by decide), if_pos rfl]

/-- A name in a directory: the way goes on through another directory only. -/
theorem walk_name (hidle : ¬ IsIdle name) (hup : name ≠ "..") :
    disk.walk place (name :: names) = match disk.entry? (place ++ [name]) with
      | some .directory => disk.walk (place ++ [name]) names
      | some (.file _) => if names.isEmpty then .ok (place ++ [name]) else .error .notDirectory
      | none => if names.isEmpty then .ok (place ++ [name]) else .error .notFound := by
  rw [walk]
  exact (if_neg hidle).trans (if_neg hup)

/-- A way goes on through a directory; whatever else a name leads to is the end of it. -/
theorem walk_name_eq_ok_iff (hidle : ¬ IsIdle name) (hup : name ≠ "..") :
    disk.walk place (name :: names) = .ok next
      ↔ disk.entry? (place ++ [name]) = some .directory
          ∧ disk.walk (place ++ [name]) names = .ok next
        ∨ disk.entry? (place ++ [name]) ≠ some .directory ∧ names = []
          ∧ next = place ++ [name] := by
  have hlast (reason : FileError) :
      (if names.isEmpty then .ok (place ++ [name]) else .error reason) = Except.ok next
        ↔ names = [] ∧ next = place ++ [name] := by
    cases names <;> simp [eq_comm]
  rw [walk_name _ _ _ hidle hup]
  match hentry : disk.entry? (place ++ [name]) with
  | some .directory => simp
  | some (.file text) => exact (hlast _).trans (by simp)
  | none => exact (hlast _).trans (by simp)

theorem makeAlong_idle (h : IsIdle name) :
    disk.makeAlong place (name :: names) = disk.makeAlong place names := by
  rw [makeAlong]
  exact if_pos h

theorem makeAlong_up :
    disk.makeAlong place (".." :: names) = disk.makeAlong place.dropLast names := by
  rw [makeAlong, if_neg (by decide), if_pos rfl]

theorem makeAlong_name (hidle : ¬ IsIdle name) (hup : name ≠ "..") :
    disk.makeAlong place (name :: names) = match disk.entry? (place ++ [name]) with
      | some .directory => disk.makeAlong (place ++ [name]) names
      | some (.file _) => (.error (fileInTheWay names), disk)
      | none =>
        let beyond := (disk.put (place ++ [name]) .directory).makeAlong (place ++ [name]) names
        (beyond.1.mapError fun _ => .alreadyExists, beyond.2) := by
  rw [makeAlong]
  exact (if_neg hidle).trans (if_neg hup)

end Steps

/-- The names on a way lead nowhere, upwards, or to what has that name. -/
theorem way_induction {motive : List String → Prop} (nil : motive [])
    (idle : ∀ name names, IsIdle name → motive names → motive (name :: names))
    (up : ∀ names, motive names → motive (".." :: names))
    (down : ∀ name names, ¬ IsIdle name → name ≠ ".." → motive names → motive (name :: names))
    (names : List String) : motive names := by
  induction names with
  | nil => exact nil
  | cons name names ih =>
    by_cases hidle : IsIdle name
    · exact idle name names hidle ih
    · by_cases hup : name = ".."
      · rw [hup]
        exact up names ih
      · exact down name names hidle hup ih

/-- The names of a path that lead somewhere. -/
def active (names : List String) : List String := names.filter fun name => decide (¬ IsIdle name)

theorem active_cons_of_idle (h : IsIdle name) : active (name :: names) = active names :=
  List.filter_cons_of_neg (by simpa using h)

theorem active_cons (h : ¬ IsIdle name) : active (name :: names) = name :: active names :=
  List.filter_cons_of_pos (by simpa using h)

theorem active_up (names : List String) : active (".." :: names) = ".." :: active names :=
  active_cons (by decide)

/-- Names that lead nowhere do not count for what is said about a file in the way. -/
theorem fileInTheWay_active (names : List String) :
    fileInTheWay (active names) = fileInTheWay names := by
  have hall : ((active names).all fun name => name = "" ∨ name = ".")
      = names.all fun name => name = "" ∨ name = "." := by
    induction names with
    | nil => rfl
    | cons name names ih =>
      by_cases hidle : IsIdle name
      · have hyes : decide (name = "" ∨ name = ".") = true := decide_eq_true hidle
        rw [active_cons_of_idle hidle, ih, List.all_cons, hyes, Bool.true_and]
      · rw [active_cons hidle, List.all_cons, List.all_cons, ih]
  rw [fileInTheWay, fileInTheWay, hall]

/-- Names that lead nowhere do not count when directories are made. -/
theorem makeAlong_active (disk : Disk) (place : Place) (names : List String) :
    disk.makeAlong place (active names) = disk.makeAlong place names := by
  induction names using way_induction generalizing disk place with
  | nil => rfl
  | idle name names hidle ih => rw [active_cons_of_idle hidle, makeAlong_idle _ _ _ hidle, ih]
  | up names ih => rw [active_up, makeAlong_up, makeAlong_up, ih]
  | down name names hidle hup ih =>
    rw [active_cons hidle, makeAlong_name _ _ _ hidle hup, makeAlong_name _ _ _ hidle hup]
    split
    · exact ih _ _
    · rw [fileInTheWay_active]
    · rw [ih]

/-- A way that leads somewhere leads there without the names that lead nowhere. -/
theorem walk_active (h : disk.walk place names = .ok next) :
    disk.walk place (active names) = .ok next := by
  induction names using way_induction generalizing place with
  | nil => exact h
  | idle name names hidle ih =>
    rw [walk_idle _ _ _ hidle] at h
    rw [active_cons_of_idle hidle]
    exact ih h
  | up names ih =>
    rw [walk_up] at h
    rw [active_up, walk_up]
    exact ih h
  | down name names hidle hup ih =>
    rw [active_cons hidle, walk_name_eq_ok_iff _ _ _ hidle hup]
    rcases (walk_name_eq_ok_iff _ _ _ hidle hup).mp h with ⟨hdirectory, hrest⟩ | hend
    · exact .inl ⟨hdirectory, ih hrest⟩
    · obtain ⟨hentry, rfl, hnext⟩ := hend
      exact .inr ⟨hentry, rfl, hnext⟩

/-- Where a path leads, the directories on the way are there. -/
theorem makeAlong_dropLast (h : disk.walk place names = .ok next) :
    disk.makeAlong place names.dropLast = (.ok (), disk) := by
  induction names using way_induction generalizing place with
  | nil => rfl
  | idle name names hidle ih =>
    cases names with
    | nil => rfl
    | cons second names =>
      rw [walk_idle _ _ _ hidle] at h
      rw [List.dropLast_cons_cons, makeAlong_idle _ _ _ hidle]
      exact ih h
  | up names ih =>
    cases names with
    | nil => rfl
    | cons second names =>
      rw [walk_up] at h
      rw [List.dropLast_cons_cons, makeAlong_up]
      exact ih h
  | down name names hidle hup ih =>
    cases names with
    | nil => rfl
    | cons second names =>
      -- the name is not the last one, so it is that of a directory
      rcases (walk_name_eq_ok_iff _ _ _ hidle hup).mp h with ⟨hdirectory, hrest⟩ | ⟨-, hnil, -⟩
      · rw [List.dropLast_cons_cons, makeAlong_name _ _ _ hidle hup, hdirectory]
        exact ih hrest
      · cases hnil

/-! ## Ways that do not lead upwards -/

theorem not_mem_of_not_mem_cons (h : ".." ∉ name :: names) : ".." ∉ names :=
  (not_or.mp (List.mem_cons.not.mp h)).2

/-- A way that does not lead upwards leads to the place that its names spell. -/
theorem eq_of_walk (hup : ".." ∉ names) (h : disk.walk place names = .ok next) :
    next = place ++ active names := by
  induction names using way_induction generalizing place with
  | nil => exact (Except.ok.inj h).symm.trans (List.append_nil place).symm
  | idle name names hidle ih =>
    rw [walk_idle _ _ _ hidle] at h
    rw [active_cons_of_idle hidle]
    exact ih (not_mem_of_not_mem_cons hup) h
  | up names ih => exact absurd List.mem_cons_self hup
  | down name names hidle hname ih =>
    rw [active_cons hidle]
    rcases (walk_name_eq_ok_iff _ _ _ hidle hname).mp h with ⟨-, hrest⟩ | ⟨-, rfl, hnext⟩
    · rw [ih (not_mem_of_not_mem_cons hup) hrest, List.append_assoc]
      rfl
    · exact hnext

/-- Whether everything on a disk lies in a directory. -/
def IsTree (disk : Disk) : Prop :=
  ∀ place name entry, disk.entry? (place ++ [name]) = some entry →
    disk.entry? place = some .directory

/-- Whatever lies below a place of a tree, there is a directory at it. -/
theorem IsTree.directory_of_append (htree : disk.IsTree) {rest : Place}
    (h : disk.entry? (place ++ rest) = some .directory) :
    disk.entry? place = some .directory := by
  induction rest using List.reverseRecOn with
  | nil => rwa [List.append_nil] at h
  | append_singleton rest name ih =>
    rw [← List.append_assoc] at h
    exact ih (htree _ _ _ h)

/-- On a tree, the way to a directory leads there. -/
theorem walk_of_directory (htree : disk.IsTree) (hup : ".." ∉ names)
    (h : disk.entry? (place ++ active names) = some .directory) :
    disk.walk place names = .ok (place ++ active names) := by
  induction names using way_induction generalizing place with
  | nil => exact congrArg Except.ok (List.append_nil place).symm
  | idle name names hidle ih =>
    rw [active_cons_of_idle hidle] at h ⊢
    rw [walk_idle _ _ _ hidle]
    exact ih (not_mem_of_not_mem_cons hup) h
  | up names ih => exact absurd List.mem_cons_self hup
  | down name names hidle hname ih =>
    have hsplit : place ++ active (name :: names) = (place ++ [name]) ++ active names := by
      rw [active_cons hidle, List.append_assoc]
      rfl
    rw [hsplit] at h ⊢
    rw [walk_name _ _ _ hidle hname, htree.directory_of_append h]
    exact ih (not_mem_of_not_mem_cons hup) h

/-! ## Making directories -/

section Making

variable (disk : Disk) (place : Place) (names : List String)

/-- What is on a disk stays when directories are made, or when this is broken off. -/
theorem entry?_makeAlong {other : Place} {entry : Entry} (hentry : disk.entry? other = some entry) :
    entry? (disk.makeAlong place names).2 other = some entry := by
  induction names using way_induction generalizing disk place with
  | nil => exact hentry
  | idle name names hidle ih =>
    rw [makeAlong_idle _ _ _ hidle]
    exact ih _ _ hentry
  | up names ih =>
    rw [makeAlong_up]
    exact ih _ _ hentry
  | down name names hidle hup ih =>
    rw [makeAlong_name _ _ _ hidle hup]
    split
    · exact ih _ _ hentry
    · exact hentry
    · next hnone =>
      refine ih _ _ ?_
      rw [entry?_put disk (by simp), if_neg ?_]
      · exact hentry
      · rintro rfl
        rw [hnone] at hentry
        cases hentry

/-- Making directories again makes no more of them, and it gets as far as before. -/
theorem makeAlong_again :
    let made := (disk.makeAlong place names).2
    (made.makeAlong place names).2 = made
      ∧ ((made.makeAlong place names).1 = .ok () ↔ (disk.makeAlong place names).1 = .ok ()) := by
  induction names using way_induction generalizing disk place with
  | nil => exact ⟨rfl, Iff.rfl⟩
  | idle name names hidle ih =>
    simp only [makeAlong_idle _ _ _ hidle]
    exact ih disk place
  | up names ih =>
    simp only [makeAlong_up]
    exact ih disk place.dropLast
  | down name names hidle hup ih =>
    simp only [makeAlong_name _ _ _ hidle hup]
    cases hentry : disk.entry? (place ++ [name]) with
    | some entry =>
      cases entry with
      | directory =>
        simp only [entry?_makeAlong disk _ names hentry]
        exact ih _ _
      | file text =>
        simp [hentry]
    | none =>
      -- the name is that of a directory now, so the second time it is only gone through
      have hdirectory := entry?_makeAlong (disk.put (place ++ [name]) .directory)
        (place ++ [name]) names (entry?_put_self disk (by simp) .directory)
      obtain ⟨hmade, hresult⟩ := ih (disk.put (place ++ [name]) .directory) (place ++ [name])
      simp only [hdirectory]
      refine ⟨hmade, hresult.trans ⟨fun hok => ?_, ok_of_mapError_eq_ok⟩⟩
      rw [hok]
      rfl

/-- Making directories does not move the program. -/
theorem here_makeAlong : (disk.makeAlong place names).2.here = disk.here := by
  induction names using way_induction generalizing disk place with
  | nil => rfl
  | idle name names hidle ih => rw [makeAlong_idle _ _ _ hidle, ih]
  | up names ih => rw [makeAlong_up, ih]
  | down name names hidle hup ih =>
    rw [makeAlong_name _ _ _ hidle hup]
    split
    · exact ih _ _
    · rfl
    · exact ih (disk.put (place ++ [name]) .directory) _

/-- Directories that are made on a way that does not lead upwards lie no deeper than it leads. -/
theorem entry?_makeAlong_of_length (hup : ".." ∉ names) {other : Place}
    (hother : place.length + (active names).length < other.length) :
    entry? (disk.makeAlong place names).2 other = disk.entry? other := by
  induction names using way_induction generalizing disk place with
  | nil => rfl
  | idle name names hidle ih =>
    rw [active_cons_of_idle hidle] at hother
    rw [makeAlong_idle _ _ _ hidle]
    exact ih _ _ (not_mem_of_not_mem_cons hup) hother
  | up names ih => exact absurd List.mem_cons_self hup
  | down name names hidle hname ih =>
    rw [active_cons hidle, List.length_cons] at hother
    rw [makeAlong_name _ _ _ hidle hname]
    have hdeeper : (place ++ [name]).length + (active names).length < other.length := by
      rw [List.length_append, List.length_singleton]
      omega
    split
    · exact ih _ _ (not_mem_of_not_mem_cons hup) hdeeper
    · rfl
    · refine (ih _ _ (not_mem_of_not_mem_cons hup) hdeeper).trans ?_
      rw [entry?_put disk (by simp), if_neg ?_]
      rintro rfl
      omega

/-- The text of the file at a place. -/
def textAt? (disk : Disk) (place : Place) : Option String :=
  match disk.entry? place with
  | some (.file text) => some text
  | some .directory | none => none

/-- Directories are made only where there has been nothing: no text is touched. -/
theorem textAt?_makeAlong : (disk.makeAlong place names).2.textAt? = disk.textAt? := by
  induction names using way_induction generalizing disk place with
  | nil => rfl
  | idle name names hidle ih => rw [makeAlong_idle _ _ _ hidle, ih]
  | up names ih => rw [makeAlong_up, ih]
  | down name names hidle hup ih =>
    rw [makeAlong_name _ _ _ hidle hup]
    split
    · exact ih _ _
    · rfl
    · next hnone =>
      refine (ih _ _).trans ?_
      funext other
      rw [textAt?, textAt?, entry?_put disk (by simp)]
      split_ifs with hother
      · rw [hother, hnone]
      · rfl

end Making

/-- Making a directory again makes no more than before and gets as far. -/
theorem makeDirectories_again (disk : Disk) (path : String) :
    let made := (disk.makeDirectories path).2
    (made.makeDirectories path).2 = made
      ∧ ((made.makeDirectories path).1 = .ok () ↔ (disk.makeDirectories path).1 = .ok ()) := by
  have horigin : (disk.makeDirectories path).2.origin path = disk.origin path := by
    rw [origin, origin, makeDirectories, here_makeAlong]
  have hagain := makeAlong_again disk (disk.origin path) (Disk.names path)
  simp only [makeDirectories] at horigin ⊢
  rwa [horigin]

/-! ## Writing -/

/-- A way that does not end at a directory is not barred by a file at its end. -/
theorem walk_put (h : disk.walk place names = .ok next) (hnext : disk.entry? next ≠ some .directory)
    (text : String) : (disk.put next (.file text)).walk place names = .ok next := by
  have hroot : next ≠ [] := by
    rintro rfl
    exact hnext rfl
  induction names using way_induction generalizing place with
  | nil => exact h
  | idle name names hidle ih =>
    rw [walk_idle _ _ _ hidle] at h ⊢
    exact ih h
  | up names ih =>
    rw [walk_up] at h ⊢
    exact ih h
  | down name names hidle hup ih =>
    rw [walk_name_eq_ok_iff _ _ _ hidle hup, entry?_put disk hroot]
    rcases (walk_name_eq_ok_iff _ _ _ hidle hup).mp h with ⟨hdirectory, hrest⟩ | ⟨-, hlast, rfl⟩
    · have hother : place ++ [name] ≠ next := by
        rintro rfl
        exact hnext hdirectory
      rw [if_neg hother]
      exact .inl ⟨hdirectory, ih hrest⟩
    · rw [if_pos rfl]
      exact .inr ⟨by simp, hlast, rfl⟩

/-- A text that was written to a path is read from it. -/
theorem fileText_of_storeText (h : disk.storeText path text = .ok stored) :
    stored.fileText path = .ok text := by
  obtain ⟨place, hplace, hput⟩ := exists_of_bind_eq_ok h
  split at hput
  · cases hput
  · next hfree =>
    cases hput
    have hdirectory : disk.entry? place ≠ some .directory := fun heq => hfree heq
    have hroot : place ≠ [] := by
      rintro rfl
      exact hdirectory rfl
    have hlocate : (disk.put place (.file text)).locate path = .ok place := by
      unfold locate at hplace ⊢
      split at hplace
      · cases hplace
      · next hpath =>
        rw [if_neg hpath]
        exact walk_put hplace hdirectory text
    rw [fileText, bind_of_ok hlocate, entry?_put_self disk hroot]

/-- A text that cannot be written to a place would replace a directory. -/
theorem directory_of_storeText {reason : FileError} (hplace : disk.locate path = .ok place)
    (h : disk.storeText path text = .error reason) : disk.entry? place = some .directory := by
  rw [storeText, bind_of_ok hplace] at h
  split at h
  · next hdirectory => exact hdirectory
  · cases h

/-- A text that is read from a path can be read there: the path exists. -/
theorem pathExists_of_fileText (h : disk.fileText path = .ok text) :
    disk.pathExists path = true := by
  obtain ⟨place, hplace, hentry⟩ := exists_of_bind_eq_ok h
  split at hentry
  · next hfile =>
    rw [pathExists, hplace]
    show (disk.entry? place).isSome = true
    rw [hfile]
    rfl
  · cases hentry
  · cases hentry

end RecordFilter.Disk
