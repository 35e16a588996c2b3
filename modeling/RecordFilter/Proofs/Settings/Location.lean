import RecordFilter.Proofs.Disk
import RecordFilter.Settings.Location

/-!
# The directory of a path on a disk

The path of a directory has the same names that lead somewhere as the paths in it, less the last
one. So where a path leads, the directory that it lies in need not be made
(`makeDirectories_of_locate`). Where it has to be made, this leaves room for a file at the path
unless the path leads upwards (`hasRoomFor_of_isTree`).
-/

namespace RecordFilter

namespace Disk

/-! ## Names of paths -/

theorem splitPath_ne_nil (chars : List Char) : splitPath chars ≠ [] := by
  cases chars with
  | nil => exact List.cons_ne_nil _ _
  | cons c chars =>
    rw [splitPath]
    split
    · exact List.cons_ne_nil _ _
    · split <;> exact List.cons_ne_nil _ _

/-- A slash ends one name and begins the next one. -/
theorem splitPath_append (front back : List Char) :
    splitPath (front ++ '/' :: back) = splitPath front ++ splitPath back := by
  induction front with
  | nil => rfl
  | cons c front ih =>
    rw [List.cons_append, splitPath, splitPath, ih]
    by_cases hc : c = '/'
    · rw [if_pos hc, if_pos hc, List.cons_append]
    · rw [if_neg hc, if_neg hc]
      cases hfront : splitPath front with
      | nil => exact absurd hfront (splitPath_ne_nil front)
      | cons name names => rfl

theorem splitPath_of_notMem {chars : List Char} (h : '/' ∉ chars) : splitPath chars = [chars] := by
  induction chars with
  | nil => rfl
  | cons c chars ih =>
    obtain ⟨hc, hchars⟩ := not_or.mp (List.mem_cons.not.mp h)
    rw [splitPath, if_neg (Ne.symm hc), ih hchars]

/-- The names of a path that lead somewhere. -/
def activeNames (chars : List Char) : List String := active ((splitPath chars).map String.ofList)

/-- The names on both sides of a slash are those of the whole path. -/
theorem activeNames_append (front back : List Char) :
    activeNames (front ++ '/' :: back) = activeNames front ++ activeNames back := by
  rw [activeNames, splitPath_append, List.map_append, active, List.filter_append]
  rfl

theorem activeNames_of_notMem {chars : List Char} (h : '/' ∉ chars) :
    activeNames chars = active [String.ofList chars] := by
  rw [activeNames, splitPath_of_notMem h]
  rfl

end Disk

namespace Settings

open Disk (activeNames activeNames_append activeNames_of_notMem)

/-! ## Ends of paths -/

/-- What is taken away at the end of a path leads nowhere. -/
theorem activeNames_withoutTail (chars : List Char) :
    activeNames (withoutTail chars).reverse = activeNames chars.reverse := by
  fun_induction withoutTail chars with
  | case1 => rfl
  | case2 rest ih =>
    rw [ih, List.reverse_cons, activeNames_append]
    exact (List.append_nil _).symm
  | case3 rest ih =>
    rw [ih, List.reverse_cons, List.reverse_cons, List.append_assoc]
    show _ = activeNames (rest.reverse ++ '/' :: ['.'])
    rw [activeNames_append]
    exact (List.append_nil _).symm
  | case4 rest => rfl

theorem withoutTail_suffix (chars : List Char) : withoutTail chars <:+ chars := by
  fun_induction withoutTail chars with
  | case1 => exact List.suffix_refl _
  | case2 rest ih => exact ih.trans (List.suffix_cons _ _)
  | case3 rest ih => exact ih.trans ((List.suffix_cons _ _).trans (List.suffix_cons _ _))
  | case4 rest => exact List.suffix_refl _

/-- Nothing that means nothing is left at the end. -/
theorem withoutTail_eq_cons {chars rest : List Char} {c : Char}
    (h : withoutTail chars = c :: rest) : c ≠ '/' ∧ (c = '.' → rest.head? ≠ some '/') := by
  fun_induction withoutTail chars with
  | case1 => cases h
  | case2 rest ih => exact ih h
  | case3 rest ih => exact ih h
  | case4 chars hnil hslash hdot =>
    subst h
    constructor
    · rintro rfl
      exact hslash rest rfl
    · rintro rfl hhead
      obtain ⟨more, rfl⟩ := List.head?_eq_some_iff.mp hhead
      exact hdot more rfl

/-- A path of which nothing is left begins with a slash (read backwards, it ends with one). -/
theorem getLast?_of_withoutTail_eq_nil {chars : List Char} (h : withoutTail chars = [])
    (hne : chars ≠ []) : chars.getLast? = some '/' := by
  fun_induction withoutTail chars with
  | case1 => exact absurd rfl hne
  | case2 rest ih =>
    cases rest with
    | nil => rfl
    | cons c rest => exact ih h (List.cons_ne_nil _ _)
  | case3 rest ih =>
    cases rest with
    | nil => rfl
    | cons c rest => exact ih h (List.cons_ne_nil _ _)
  | case4 chars => exact absurd h hne

/-! ## The directory of a path -/

/-- A name that leads somewhere, at the end of a path. -/
theorem activeNames_of_name {name : List Char} (hname : '/' ∉ name) (hne : name ≠ [])
    (hdot : name ≠ ['.']) (rest : List Char) :
    activeNames (name ++ '/' :: rest).reverse
      = activeNames rest.reverse ++ [String.ofList name.reverse] := by
  have htext : (name ++ '/' :: rest).reverse = rest.reverse ++ '/' :: name.reverse := by simp
  have hactive : ¬ Disk.IsIdle (String.ofList name.reverse) := by
    rintro (hempty | hidle)
    · have hchars := congrArg String.toList hempty
      rw [String.toList_ofList] at hchars
      exact hne (List.reverse_eq_nil_iff.mp hchars)
    · have hchars := congrArg String.toList hidle
      rw [String.toList_ofList] at hchars
      exact hdot (List.reverse_eq_iff.mp hchars)
  have hlast : activeNames name.reverse = [String.ofList name.reverse] := by
    rw [activeNames_of_notMem (by simpa using hname), Disk.active_cons hactive]
    rfl
  rw [htext, activeNames_append, hlast]

/-- The characters of a directory, given those in front of the last slash of the paths in it,
backwards. -/
def directoryChars (rest : List Char) : List Char :=
  if (withoutTail rest).isEmpty then ['/'] else (withoutTail rest).reverse

/-- The directory has the names in front of the last slash. -/
theorem activeNames_directoryChars (rest : List Char) :
    activeNames (directoryChars rest) = activeNames rest.reverse := by
  rw [← activeNames_withoutTail rest, directoryChars]
  split
  · next hempty =>
    rw [List.isEmpty_iff.mp hempty]
    rfl
  · rfl

/-- The directory begins at the root exactly if the path does. -/
theorem head?_directoryChars (rest : List Char) :
    (directoryChars rest).head? = some '/' ↔ ('/' :: rest).getLast? = some '/' := by
  rw [directoryChars]
  split
  · next hempty =>
    have hslash : withoutTail ('/' :: rest) = [] := List.isEmpty_iff.mp hempty
    exact iff_of_true rfl (getLast?_of_withoutTail_eq_nil hslash (List.cons_ne_nil _ _))
  · next hne =>
    have hne : withoutTail rest ≠ [] := fun heq => hne (List.isEmpty_iff.mpr heq)
    obtain ⟨tail, htail⟩ := withoutTail_suffix rest
    have hlast : (('/' :: tail) ++ withoutTail rest).getLast? = (withoutTail rest).getLast? :=
      List.getLast?_append_of_ne_nil _ hne
    rw [List.cons_append, htail] at hlast
    rw [List.head?_reverse, hlast]

/-- Whether a path is that of the directory that another one lies in. -/
structure IsParent (directory path : String) : Prop where
  names : activeNames directory.toList = (activeNames path.toList).dropLast
  root : directory.toList.head? = some '/' ↔ path.toList.head? = some '/'

/-- The names of a directory are those of the paths in it, less the last one. -/
theorem IsParent.active_names {directory path : String} (h : IsParent directory path) :
    Disk.active (Disk.names directory) = (Disk.active (Disk.names path)).dropLast := h.names

/-- A directory and the paths in it begin at the same place. -/
theorem IsParent.origin_eq {directory path : String} (h : IsParent directory path) (disk : Disk) :
    disk.origin directory = disk.origin path := by
  simp only [Disk.origin, h.root]

theorem activeNames_withoutTail_reverse (chars : List Char) :
    activeNames chars = activeNames (withoutTail chars.reverse).reverse := by
  rw [activeNames_withoutTail, List.reverse_reverse]

theorem head?_eq_of_withoutTail {chars : List Char} (h : withoutTail chars.reverse ≠ []) :
    chars.head? = (withoutTail chars.reverse).getLast? := by
  obtain ⟨tail, htail⟩ := withoutTail_suffix chars.reverse
  have hlast := List.getLast?_append_of_ne_nil tail h
  rw [htail, List.getLast?_reverse] at hlast
  exact hlast

/-- A path backwards is a name, or a name in front of a slash and the rest. -/
theorem exists_name (chars : List Char) :
    ('/' ∉ chars ∧ chars.dropWhile (· != '/') = []) ∨
      ∃ name rest, chars = name ++ '/' :: rest ∧ '/' ∉ name
        ∧ chars.dropWhile (· != '/') = '/' :: rest := by
  have hsplit : chars.takeWhile (· != '/') ++ chars.dropWhile (· != '/') = chars :=
    List.takeWhile_append_dropWhile
  have hname : '/' ∉ chars.takeWhile (· != '/') := fun hmem => by
    simpa using List.mem_takeWhile_imp hmem
  cases hrest : chars.dropWhile (· != '/') with
  | nil =>
    rw [hrest, List.append_nil] at hsplit
    rw [hsplit] at hname
    exact .inl ⟨hname, rfl⟩
  | cons c rest =>
    obtain rfl : c = '/' := by
      have hfirst := List.head?_dropWhile_not (· != '/') chars
      rw [hrest] at hfirst
      simpa using hfirst
    rw [hrest] at hsplit
    exact .inr ⟨_, rest, hsplit.symm, hname, rfl⟩

/-- What is taken for the directory of a path is the directory that it lies in. -/
theorem isParent_of_parent? {path directory : String} (h : parent? path = some directory) :
    IsParent directory path := by
  have hnames := activeNames_withoutTail_reverse path.toList
  have hhead : withoutTail path.toList.reverse ≠ [] → path.toList.head?
      = (withoutTail path.toList.reverse).getLast? := head?_eq_of_withoutTail
  unfold parent? at h
  dsimp only at h
  -- the path backwards, from its last name on
  generalize hbackwards : withoutTail path.toList.reverse = backwards at h hnames hhead
  split at h
  · cases h
  · next hne =>
    have hhead := hhead fun heq => hne (List.isEmpty_iff.mpr heq)
    rcases exists_name backwards with ⟨hname, hrest⟩ | ⟨name, rest, rfl, hname, hrest⟩
    · -- a name alone lies where the program stands
      have hsingle : (activeNames backwards.reverse).dropLast = [] := by
        rw [activeNames_of_notMem (by simpa using hname), Disk.active, List.filter_cons]
        split <;> rfl
      rw [hrest] at h
      obtain rfl : "" = directory := Option.some.inj h
      refine ⟨?_, ?_⟩
      · rw [hnames, hsingle]
        rfl
      · rw [hhead]
        exact ⟨fun hroot => (by simp at hroot),
          fun hlast => absurd (List.mem_of_getLast? hlast) hname⟩
    · rw [hrest] at h
      have hdirectory : directory.toList = directoryChars rest := by
        rw [← Option.some.inj h, String.toList_ofList]
        rfl
      have hne : name ≠ [] := by
        rintro rfl
        exact (withoutTail_eq_cons hbackwards).1 rfl
      have hdot : name ≠ ['.'] := by
        rintro rfl
        exact (withoutTail_eq_cons hbackwards).2 rfl rfl
      refine ⟨?_, ?_⟩
      · rw [hnames, hdirectory, activeNames_directoryChars,
          activeNames_of_name hname hne hdot, List.dropLast_concat]
      · rw [hhead, hdirectory, head?_directoryChars,
          List.getLast?_append_of_ne_nil _ (List.cons_ne_nil _ _)]

end Settings

/-- Where a path leads, there is nothing to be done for its directory to be there. -/
theorem Disk.makeDirectories_of_locate {disk : Disk} {path directory : String} {place : Place}
    (h : disk.locate path = .ok place) (hdirectory : Settings.parent? path = some directory) :
    disk.makeDirectories directory = (.ok (), disk) := by
  unfold locate at h
  split at h
  · cases h
  · have hof := Settings.isParent_of_parent? hdirectory
    rw [makeDirectories, ← makeAlong_active, hof.active_names, hof.origin_eq]
    exact makeAlong_dropLast (walk_active h)

/-! ## Room for a document -/

namespace Disk

variable {disk made : Disk} {path : String} {place : Place}

/-- Makes the directory that a path lies in. -/
def prepare (disk : Disk) (path : String) : Except FileError Unit × Disk :=
  match Settings.parent? path with
  | some directory => disk.makeDirectories directory
  | none => (.ok (), disk)

/-- Where a path leads, its directory is there. -/
theorem prepare_of_locate (h : disk.locate path = .ok place) :
    disk.prepare path = (.ok (), disk) := by
  unfold prepare
  cases hparent : Settings.parent? path with
  | none => rfl
  | some directory => exact makeDirectories_of_locate h hparent

/-- Making the directory of a path again makes no more than before and gets as far. -/
theorem prepare_again (disk : Disk) (path : String) :
    let made := (disk.prepare path).2
    (made.prepare path).2 = made
      ∧ ((made.prepare path).1 = .ok () ↔ (disk.prepare path).1 = .ok ()) := by
  unfold prepare
  cases Settings.parent? path with
  | none => exact ⟨rfl, Iff.rfl⟩
  | some directory => exact makeDirectories_again disk directory

/-- A directory that was made need not be made again. -/
theorem prepare_idem (h : disk.prepare path = (.ok (), made)) :
    made.prepare path = (.ok (), made) := by
  have hagain := prepare_again disk path
  rw [h] at hagain
  exact Prod.ext (hagain.2.mpr rfl) hagain.1

/-- Where the directory of a path cannot be made, the path leads nowhere before and after. -/
theorem locate_of_prepare_error {reason : FileError}
    (h : disk.prepare path = (.error reason, made)) :
    (∃ cause, disk.locate path = .error cause) ∧ ∃ cause, made.locate path = .error cause := by
  have hrefused : ∀ {other : Disk} {place : Place}, other.locate path = .ok place →
      (other.prepare path).1 = .ok () := fun hplace => by rw [prepare_of_locate hplace]
  have hagain := (prepare_again disk path).2
  rw [h] at hagain
  constructor
  · cases hplace : disk.locate path with
    | error cause => exact ⟨cause, rfl⟩
    | ok place =>
      have hok := hrefused hplace
      rw [h] at hok
      cases hok
  · cases hplace : made.locate path with
    | error cause => exact ⟨cause, rfl⟩
    | ok place => cases hagain.mp (hrefused hplace)

/-- Whether a file can be at a path. It cannot if making the directory that the path lies in makes
one at the path itself, as it does for `new/../new`. -/
def HasRoomFor (disk : Disk) (path : String) : Prop :=
  ∀ made place, disk.prepare path = (.ok (), made) → made.locate path = .ok place →
    made.entry? place ≠ some .directory

/-- A directory has no text. -/
theorem fileText_of_directory (hplace : disk.locate path = .ok place)
    (hdirectory : disk.entry? place = some .directory) :
    disk.fileText path = .error .isDirectory := by
  rw [fileText, bind_of_ok hplace, hdirectory]

theorem here_prepare (disk : Disk) (path : String) : (disk.prepare path).2.here = disk.here := by
  unfold prepare
  split
  · exact here_makeAlong _ _ _
  · rfl

/-- Making the directory of a path that does not lead upwards changes nothing at the path. -/
theorem entry?_prepare (disk : Disk) (hup : ".." ∉ names path) :
    entry? (disk.prepare path).2 (disk.origin path ++ active (names path))
      = disk.entry? (disk.origin path ++ active (names path)) := by
  unfold prepare
  split
  · next directory hparent =>
    have hof := Settings.isParent_of_parent? hparent
    rw [makeDirectories]
    cases hactive : active (names path) with
    | nil =>
      -- there is no name, so there is nothing to be made
      rw [← makeAlong_active, hof.active_names, hactive]
      rfl
    | cons name rest =>
      have hnames : ".." ∉ names directory := fun hmem => by
        have hmem : ".." ∈ active (names directory) := List.mem_filter.mpr ⟨hmem, by decide⟩
        rw [hof.active_names] at hmem
        exact hup (List.mem_of_mem_filter (List.mem_of_mem_dropLast hmem))
      refine entry?_makeAlong_of_length _ _ _ hnames ?_
      rw [hof.origin_eq, hof.active_names, hactive, List.length_append, List.length_dropLast,
        List.length_cons]
      omega
  · rfl

/-- A file can be at a path that does not lead upwards, unless a directory is there already. -/
theorem hasRoomFor_of_isTree (htree : disk.IsTree) (hup : ".." ∉ names path)
    (h : ∀ place, disk.locate path = .ok place → disk.entry? place ≠ some .directory) :
    disk.HasRoomFor path := by
  intro made place hmade hplace hdirectory
  unfold locate at h hplace
  split at hplace
  · cases hplace
  · next hpath =>
    have hend := eq_of_walk hup hplace
    obtain rfl : (disk.prepare path).2 = made := congrArg Prod.snd hmade
    rw [origin, here_prepare] at hend
    rw [hend] at hdirectory
    have hbefore := (entry?_prepare disk hup).symm.trans hdirectory
    rw [if_neg hpath] at h
    exact h _ (walk_of_directory htree hup hbefore) hbefore

end Disk

end RecordFilter
