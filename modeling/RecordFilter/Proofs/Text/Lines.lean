import Mathlib
import RecordFilter.Text.Blank
import RecordFilter.Text.Lines

/-!
# Lines by their numbers

`HasLine` says which text is the line with some number, without a machine that cuts a text into
lines: the number is how many line feeds stand before the line, and one. The lines of a text are
these (`getElem?_lines_eq_some_iff`).
-/

namespace RecordFilter.Text

section

variable {line : List Char}

/-! ## The end of a line -/

theorem withoutReturn_of_notMem (h : '\r' ∉ line) : withoutReturn line = line :=
  if_neg fun hlast => h (List.mem_of_getLast? hlast)

theorem withoutReturn_append (line : List Char) : withoutReturn (line ++ ['\r']) = line := by
  simp [withoutReturn]

theorem mem_of_mem_withoutReturn {c : Char} (h : c ∈ withoutReturn line) : c ∈ line := by
  unfold withoutReturn at h
  split at h
  · exact List.mem_of_mem_dropLast h
  · exact h

/-- What may stand behind a line: its end, and then anything. There is no empty line at the end of
a text. -/
inductive EndsLine (line : List Char) : List Char → Prop where
  | feed (rest : List Char) (hreturn : line.getLast? ≠ some '\r') : EndsLine line ('\n' :: rest)
  | returnFeed (rest : List Char) : EndsLine line ('\r' :: '\n' :: rest)
  | text (hline : line ≠ []) : EndsLine line []

/-- Whether a text has this line with this number, counted from one. -/
def HasLine (text : List Char) (number : Nat) (line : List Char) : Prop :=
  ∃ before behind, text = before ++ line ++ behind ∧ number = before.count '\n' + 1
    ∧ (∀ c ∈ before.getLast?, c = '\n') ∧ '\n' ∉ line ∧ EndsLine line behind

/-! ## Cutting off the first line -/

/-- A line is taken up to its line feed. -/
theorem linesFrom_append (hline : '\n' ∉ line) (present rest : List Char) :
    linesFrom present (line ++ '\n' :: rest)
      = withoutReturn (present.reverse ++ line) :: linesFrom [] rest := by
  induction line generalizing present with
  | nil => rw [List.nil_append, linesFrom, if_pos rfl, List.append_nil]
  | cons c line ih =>
    rw [List.mem_cons, not_or] at hline
    rw [List.cons_append, linesFrom, if_neg (Ne.symm hline.1), ih hline.2, List.reverse_cons,
      List.append_assoc, List.singleton_append]

theorem lines_append (hline : '\n' ∉ line) (rest : List Char) :
    lines (line ++ '\n' :: rest) = withoutReturn line :: lines rest :=
  linesFrom_append hline [] rest

theorem linesFrom_of_notMem (hline : '\n' ∉ line) (present : List Char) :
    linesFrom present line
      = if present.reverse ++ line = [] then [] else [present.reverse ++ line] := by
  induction line generalizing present with
  | nil => simp [linesFrom]
  | cons c line ih =>
    rw [List.mem_cons, not_or] at hline
    rw [linesFrom, if_neg (Ne.symm hline.1), ih hline.2, List.reverse_cons, List.append_assoc,
      List.singleton_append]

/-- A text without a line feed is one line, if it is any. -/
theorem lines_of_notMem (hline : '\n' ∉ line) : lines line = if line = [] then [] else [line] :=
  linesFrom_of_notMem hline []

/-- Lines that are put one behind the other are the lines of the whole. -/
theorem lines_flatMap {rows : List (List Char)} (h : ∀ row ∈ rows, '\n' ∉ row ∧ '\r' ∉ row) :
    lines (rows.flatMap fun row => row ++ ['\n']) = rows := by
  induction rows with
  | nil => rfl
  | cons row rows ih =>
    obtain ⟨hrow, hrows⟩ := List.forall_mem_cons.mp h
    rw [List.flatMap_cons, List.append_assoc, List.singleton_append, lines_append hrow.1,
      withoutReturn_of_notMem hrow.2, ih hrows]

/-- What stands in front of its end is the first line. -/
theorem exists_lines_eq_cons {behind : List Char} (hline : '\n' ∉ line)
    (hbehind : EndsLine line behind) : ∃ more, lines (line ++ behind) = line :: more := by
  cases hbehind with
  | feed rest hreturn =>
    refine ⟨lines rest, ?_⟩
    rw [lines_append hline, withoutReturn, if_neg hreturn]
  | returnFeed rest =>
    refine ⟨lines rest, ?_⟩
    rw [show line ++ '\r' :: '\n' :: rest = (line ++ ['\r']) ++ '\n' :: rest by simp,
      lines_append (by simp [hline]), withoutReturn_append]
  | text hne =>
    refine ⟨[], ?_⟩
    rw [List.append_nil, lines_of_notMem hline, if_neg hne]

/-! ## The line with a number -/

section Number

variable {text first rest : List Char} {number index : Nat}

theorem hasLine_one (hfirst : '\n' ∉ first) :
    HasLine (first ++ '\n' :: rest) 1 (withoutReturn first) := by
  by_cases hreturn : first.getLast? = some '\r'
  · obtain ⟨line, rfl⟩ := List.getLast?_eq_some_iff.mp hreturn
    rw [withoutReturn_append]
    exact ⟨[], _, by simp, rfl, by simp, fun h => hfirst (List.mem_append_left _ h),
      .returnFeed rest⟩
  · rw [withoutReturn, if_neg hreturn]
    exact ⟨[], _, rfl, rfl, by simp, hfirst, .feed rest hreturn⟩

/-- Behind the first line feed the lines of the rest follow. -/
theorem HasLine.behind (h : HasLine rest number line) (hfirst : '\n' ∉ first) :
    HasLine (first ++ '\n' :: rest) (number + 1) line := by
  obtain ⟨before, behind, rfl, rfl, hbefore, hline, hbehind⟩ := h
  refine ⟨first ++ '\n' :: before, behind, by simp, ?_, fun c hc => ?_, hline, hbehind⟩
  · rw [List.count_append, List.count_eq_zero_of_not_mem hfirst, List.count_cons_self]
    omega
  · rw [List.getLast?_append, List.getLast?_cons, Option.some_or] at hc
    obtain rfl := Option.mem_some_iff.mp hc
    cases hlast : before.getLast? with
    | none => rfl
    | some d => exact hbefore d hlast

/-- Lines are counted from one. -/
theorem HasLine.exists_eq_succ (h : HasLine text number line) : ∃ index, number = index + 1 := by
  obtain ⟨before, -, -, hnumber, -⟩ := h
  exact ⟨before.count '\n', hnumber⟩

/-- Each of the lines is one of the text, by its number. -/
theorem hasLine_of_getElem?_linesFrom {present : List Char} (hpresent : '\n' ∉ present)
    (h : (linesFrom present text)[index]? = some line) :
    HasLine (present.reverse ++ text) (index + 1) line := by
  induction text generalizing present index with
  | nil =>
    rw [linesFrom] at h
    split_ifs at h with hempty
    · cases h
    · obtain ⟨hindex, rfl⟩ := List.getElem?_eq_some_iff.mp h
      obtain rfl : index = 0 := by simpa using hindex
      refine ⟨[], [], by simp, rfl, by simp, by simpa using hpresent, .text ?_⟩
      simpa using hempty
  | cons c rest ih =>
    rw [linesFrom] at h
    split_ifs at h with hfeed
    · subst hfeed
      have hfirst : '\n' ∉ present.reverse := by simpa using hpresent
      cases index with
      | zero =>
        obtain rfl := Option.some.inj h
        exact hasLine_one hfirst
      | succ index =>
        have hrest : HasLine ([].reverse ++ rest) (index + 1) line := ih (by simp) h
        exact hrest.behind hfirst
    · have hpresent : '\n' ∉ c :: present := by simp [Ne.symm hfeed, hpresent]
      have hrest := ih hpresent h
      rwa [List.reverse_cons, List.append_assoc, List.singleton_append] at hrest

/-- As many lines stand before a place behind a line feed as there are line feeds before it. -/
theorem exists_linesFrom_append {present before : List Char}
    (hbefore : ∀ c ∈ before.getLast?, c = '\n') (hpresent : before = [] → present = []) :
    ∃ front, front.length = before.count '\n'
      ∧ ∀ rest, linesFrom present (before ++ rest) = front ++ lines rest := by
  induction before generalizing present with
  | nil =>
    obtain rfl := hpresent rfl
    exact ⟨[], rfl, fun rest => rfl⟩
  | cons c before ih =>
    have hlast : ∀ d ∈ before.getLast?, d = '\n' := fun d hd =>
      hbefore d (List.mem_getLast?_cons hd)
    by_cases hfeed : c = '\n'
    · obtain ⟨front, hlength, hfront⟩ := ih hlast (fun _ => rfl)
      refine ⟨withoutReturn present.reverse :: front, ?_, fun rest => ?_⟩
      · rw [hfeed, List.count_cons_self, List.length_cons, hlength]
      · rw [List.cons_append, linesFrom, if_pos hfeed, hfront, List.cons_append]
    · -- the present line goes on, so the line feed is still to come
      have hne : before ≠ [] := by
        rintro rfl
        exact hfeed (hbefore c rfl)
      obtain ⟨front, hlength, hfront⟩ := ih hlast (absurd · hne)
      refine ⟨front, ?_, fun rest => ?_⟩
      · rw [List.count_cons_of_ne hfeed, hlength]
      · rw [List.cons_append, linesFrom, if_neg hfeed, hfront]

/-- The lines of a text are those that it has, in the order of their numbers. -/
theorem getElem?_lines_eq_some_iff :
    (lines text)[index]? = some line ↔ HasLine text (index + 1) line := by
  constructor
  · exact hasLine_of_getElem?_linesFrom (List.not_mem_nil)
  · rintro ⟨before, behind, rfl, hnumber, hbefore, hline, hbehind⟩
    obtain ⟨front, hlength, hfront⟩ := exists_linesFrom_append hbefore (fun _ => rfl)
    obtain ⟨more, hmore⟩ := exists_lines_eq_cons hline hbehind
    have hindex : index = front.length := by omega
    rw [List.append_assoc, lines, hfront, hmore, hindex,
      List.getElem?_append_right (Nat.le_refl _), Nat.sub_self]
    rfl

end Number

/-! ## Blank lines -/

/-- Trimming leaves nothing only of blanks. -/
theorem trim_isEmpty_iff : (trim line).isEmpty = true ↔ ∀ c ∈ line, isBlank c = true := by
  rw [trim, trimEnd, trimStart, List.isEmpty_reverse, List.isEmpty_iff, List.dropWhile_eq_nil_iff]
  constructor
  · intro h c hc
    rw [← List.takeWhile_append_dropWhile (p := isBlank) (l := line), List.mem_append] at hc
    rcases hc with hc | hc
    · exact List.mem_takeWhile_imp hc
    · exact h c (List.mem_reverse.mpr hc)
  · intro h c hc
    exact h c ((List.dropWhile_sublist _).subset (List.mem_reverse.mp hc))

theorem trim_isEmpty_eq_false_iff :
    (trim line).isEmpty = false ↔ ∃ c ∈ line, isBlank c = false := by
  rw [Bool.eq_false_iff, ne_eq, trim_isEmpty_iff]
  simp

end

end RecordFilter.Text
