import RecordFilter.Proofs.Json.RoundTrip

/-!
# What is laid out over several lines is read back

Line breaks and blanks between the parts of a value make no difference to a reader. A value that
is laid out over several lines is read back with its members in key order (`reads_prettyAt`), and
a value that was read itself is read back as it was (`ofText_pretty`). The depth of a value is
the only thing that can be in the way (`Within`).
-/

namespace RecordFilter.Json

/-! ## Depth and key order -/

/-- Whether arrays and objects are nested at most so many levels deep in a value. -/
inductive Within : Nat → Json → Prop where
  | null {levels : Nat} : Within levels .null
  | bool {levels : Nat} (value : Bool) : Within levels (.bool value)
  | number {levels : Nat} (value : JsonNumber) : Within levels (.number value)
  | string {levels : Nat} (value : String) : Within levels (.string value)
  | array {levels : Nat} {items : List Json} (hitems : ∀ item ∈ items, Within levels item) :
    Within (levels + 1) (.array items)
  | object {levels : Nat} {members : List (String × Json)}
    (hmembers : ∀ entry ∈ members, Within levels entry.2) : Within (levels + 1) (.object members)

/-- What is nested with its keys in order is nested no deeper without looking at them. -/
theorem Nested.within {levels : Nat} {value : Json} (h : Nested levels value) :
    Within levels value := by
  induction h with
  | null => exact .null
  | bool value => exact .bool value
  | number value => exact .number value
  | string value => exact .string value
  | array _ ih => exact .array ih
  | object _ _ ih => exact .object ih

/-- What is nested within a limit is so within any greater one. -/
theorem Within.mono {levels deeper : Nat} {value : Json} (h : Within levels value)
    (hle : levels ≤ deeper) : Within deeper value := by
  induction h generalizing deeper with
  | null => exact .null
  | bool value => exact .bool value
  | number value => exact .number value
  | string value => exact .string value
  | array hitems ih =>
    obtain ⟨more, rfl⟩ := Nat.exists_eq_add_of_le' (Nat.lt_of_lt_of_le (Nat.succ_pos _) hle)
    exact .array fun item hitem => ih item hitem (by omega)
  | object hmembers ih =>
    obtain ⟨more, rfl⟩ := Nat.exists_eq_add_of_le' (Nat.lt_of_lt_of_le (Nat.succ_pos _) hle)
    exact .object fun entry hentry => ih entry hentry (by omega)

theorem within_cons {levels : Nat} {key : String} {value : Json} {members : List (String × Json)}
    (h : Within levels value) (hmembers : ∀ entry ∈ members, Within levels entry.2) :
    ∀ entry ∈ (key, value) :: members, Within levels entry.2 :=
  List.forall_mem_cons.mpr ⟨h, hmembers⟩

theorem within_nil {levels : Nat} : ∀ entry ∈ ([] : List (String × Json)), Within levels entry.2 :=
  List.forall_mem_nil _

mutual

/-- A value with the members of every object in key order, of each key the last one. -/
def inKeyOrder : Json → Json
  | array items => array (itemsInKeyOrder items)
  | object members => sorted (membersInKeyOrder members)
  | null => null
  | bool value => bool value
  | number value => number value
  | string value => string value

/-- Items with their members in key order. -/
def itemsInKeyOrder : List Json → List Json
  | [] => []
  | item :: items => inKeyOrder item :: itemsInKeyOrder items

/-- Members with the members of their values in key order. -/
def membersInKeyOrder : List (String × Json) → List (String × Json)
  | [] => []
  | (key, value) :: members => (key, inKeyOrder value) :: membersInKeyOrder members

end

theorem inKeyOrder_array (items : List Json) :
    (array items).inKeyOrder = array (items.map inKeyOrder) := by
  rw [inKeyOrder]
  refine congrArg array ?_
  induction items with
  | nil => rw [itemsInKeyOrder, List.map_nil]
  | cons item items ih => rw [itemsInKeyOrder, ih, List.map_cons]

theorem inKeyOrder_object (members : List (String × Json)) :
    (object members).inKeyOrder
      = sorted (members.map fun entry => (entry.1, entry.2.inKeyOrder)) := by
  rw [inKeyOrder]
  refine congrArg sorted ?_
  induction members with
  | nil => rw [membersInKeyOrder, List.map_nil]
  | cons entry members ih => rw [membersInKeyOrder, ih, List.map_cons]

/-- Members that stand in key order stay where they are. -/
theorem inKeyOrder_object_of_ordered {members : List (String × Json)}
    (h : (members.map Prod.fst).Pairwise fun a b => Text.compareText a b = .lt) :
    (object members).inKeyOrder
      = object (members.map fun entry => (entry.1, entry.2.inKeyOrder)) := by
  have hordered : Keyed.Ordered members := List.pairwise_map.mp h
  rw [inKeyOrder_object]
  refine congrArg object (Keyed.insertAll_of_ordered (Keyed.ordered_of_map_fst hordered ?_))
  rw [List.nil_append, List.map_map]
  rfl

/-- A value that was read stands in key order already. -/
theorem inKeyOrder_of_nested {levels : Nat} {value : Json} (h : Nested levels value) :
    value.inKeyOrder = value := by
  induction h with
  | null => rw [inKeyOrder]
  | bool value => rw [inKeyOrder]
  | number value => rw [inKeyOrder]
  | string value => rw [inKeyOrder]
  | @array levels items _ ih =>
    rw [inKeyOrder_array, List.map_congr_left ih, List.map_id']
  | @object levels members hordered _ ih =>
    have hmembers : members.map (fun entry => (entry.1, entry.2.inKeyOrder)) = members := by
      refine (List.map_congr_left fun entry hentry => ?_).trans (List.map_id members)
      rw [ih entry hentry]
      rfl
    rw [inKeyOrder_object_of_ordered (List.pairwise_map.mpr hordered), hmembers]

theorem within_ofNat (levels n : Nat) : Within levels (.ofNat n) := by
  unfold ofNat
  split_ifs
  · exact .number _
  · exact .number _
  · exact .null

theorem inKeyOrder_ofNat (n : Nat) : (ofNat n).inKeyOrder = .ofNat n := by
  unfold ofNat
  split_ifs <;> rw [inKeyOrder]

/-! ## Values over several lines -/

/-- The items of an array are laid out one by one. -/
theorem prettyItems_eq_map (level : Nat) (items : List Json) :
    prettyItems level items = items.map (prettyAt level) := by
  induction items with
  | nil => rw [prettyItems, List.map_nil]
  | cons item items ih => rw [prettyItems, ih, List.map_cons]

/-- A member over several lines. -/
def prettyMember (level : Nat) (entry : String × Json) : String :=
  quote entry.1 ++ ": " ++ prettyAt level entry.2

/-- The members of an object are laid out one by one. -/
theorem prettyMembers_eq_map (level : Nat) (members : List (String × Json)) :
    prettyMembers level members = members.map (prettyMember level) := by
  induction members with
  | nil => rw [prettyMembers, List.map_nil]
  | cons entry members ih => rw [prettyMembers, ih, List.map_cons, prettyMember]

/-- A member is its quoted key, a colon with a blank, and its value. -/
theorem toList_prettyMember (level : Nat) (entry : String × Json) :
    (prettyMember level entry).toList
      = (quote entry.1).toList ++ ':' :: ([' '] ++ (entry.2.prettyAt level).toList) := by
  rw [prettyMember, String.toList_append, String.toList_append, List.append_assoc]
  rfl

/-- What stands between the parts of a value at a level: nothing if there are no parts. -/
def gapAt (level : Nat) (parts : List String) : List Char :=
  if parts.isEmpty then [] else '\n' :: List.replicate (2 * level) ' '

/-- A new line is a gap like any other. -/
theorem spaces_gapAt (level : Nat) (parts : List String) : Spaces (gapAt level parts) := by
  unfold gapAt
  split_ifs
  · exact spaces_nil
  · refine List.forall_mem_cons.mpr ⟨by decide, fun c hc => ?_⟩
    rw [List.eq_of_mem_replicate hc]
    decide

/-- A bracket with its parts, each on a line of its own. -/
theorem toList_bracket (level : Nat) (opening closing : String) (parts : List String) :
    (bracket level opening closing parts).toList
      = opening.toList ++ (gapAt (level + 1) parts
        ++ (rowText (gapAt (level + 1) parts) parts ++ (gapAt level parts ++ closing.toList))) := by
  unfold bracket gapAt
  split_ifs with hempty
  · obtain rfl := List.isEmpty_iff.mp hempty
    rw [String.toList_append]
    rfl
  · simp only [String.toList_append, String.toList_intercalate, indent, String.toList_ofList,
      List.append_assoc, List.cons_append]
    rfl

/-- However a value is laid out, it begins with a character of its own. -/
theorem begins_prettyAt (level : Nat) (value : Json) : Begins (value.prettyAt level).toList := by
  cases value with
  | null =>
    rw [prettyAt]
    exact ⟨'n', _, rfl, by decide⟩
  | bool value =>
    cases value with
    | true =>
      rw [prettyAt]
      exact ⟨'t', _, rfl, by decide⟩
    | false =>
      rw [prettyAt]
      exact ⟨'f', _, rfl, by decide⟩
  | number value =>
    rw [prettyAt, String.toList_ofList]
    exact begins_numberText value
  | string value =>
    rw [prettyAt]
    exact begins_quote value
  | array items =>
    rw [prettyAt, toList_bracket]
    exact ⟨'[', _, rfl, by decide⟩
  | object members =>
    rw [prettyAt, toList_bracket]
    exact ⟨'\x7b', _, rfl, by decide⟩

/-! ## Reading back -/

/-- A value that is the same over several lines and on one is read back from either. -/
theorem reads_prettyAt_of_write {levels : Nat} {value : Json} (h : Nested levels value)
    {level : Nat} (hsame : value.prettyAt level = value.write) :
    ReadsAs (readValue levels) (value.prettyAt level).toList value.inKeyOrder := by
  rw [hsame, inKeyOrder_of_nested h]
  exact reads_of_nested h

/-- A value over several lines is read back with its members in key order. -/
theorem reads_prettyAt {levels : Nat} {value : Json} (h : Within levels value) (level : Nat) :
    ReadsAs (readValue levels) (value.prettyAt level).toList value.inKeyOrder := by
  -- as for a value on one line, its levels are those that the reader has left for it
  induction h generalizing level with
  | null => exact reads_prettyAt_of_write .null (by rw [prettyAt, write])
  | bool value =>
    cases value with
    | true => exact reads_prettyAt_of_write (.bool true) (by rw [prettyAt, write])
    | false => exact reads_prettyAt_of_write (.bool false) (by rw [prettyAt, write])
  | number value => exact reads_prettyAt_of_write (.number value) (by rw [prettyAt, write])
  | string value => exact reads_prettyAt_of_write (.string value) (by rw [prettyAt, write])
  | @array levels items _ ih =>
    intro rest _
    let parts := items.map (prettyAt (level + 1))
    have hread := readArray_rowText (skipsSpace_readValue levels) (spaces_gapAt (level + 1) parts)
      (spaces_gapAt (level + 1) parts) (spaces_gapAt level parts)
      (fun item hitem => ih item hitem (level + 1))
      (fun item _ => begins_prettyAt (level + 1) item) rest
    rw [inKeyOrder_array, prettyAt, prettyItems_eq_map, toList_bracket]
    simp only [List.append_assoc] at hread ⊢
    exact hread
  | @object levels members _ ih =>
    intro rest _
    let parts := members.map (prettyMember (level + 1))
    have hcolon : Spaces [' '] := List.forall_mem_singleton.mpr (by decide)
    have hread := readObject_rowText (skipsSpace_readValue levels) hcolon
      (spaces_gapAt (level + 1) parts) (spaces_gapAt level parts)
      (toList_prettyMember (level + 1)) (fun entry hentry => ih entry hentry (level + 1))
      (spaces_gapAt (level + 1) parts) rest
    rw [inKeyOrder_object, prettyAt, prettyMembers_eq_map, toList_bracket]
    simp only [List.append_assoc] at hread ⊢
    exact hread

/-- A line break may follow. -/
theorem readValue_prettyLine {levels : Nat} {value : Json} (h : Within levels value) :
    readValue levels (value.pretty ++ "\n").toList = .ok (value.inKeyOrder, ['\n']) := by
  rw [String.toList_append]
  exact reads_prettyAt h 0 ['\n'] (endsNumber_cons (by decide) [])

/-- Indented JSON is read back in the order of its keys, also with a line feed behind it. -/
theorem ofText_prettyLine {value : Json} (h : Within maxDepth value) :
    ofText (value.pretty ++ "\n").toList = .ok value.inKeyOrder := by
  rw [ofText, bind_of_ok (readValue_prettyLine h)]
  rfl

/-- A value that was read is read back from several lines as it was. -/
theorem ofText_pretty {value : Json} (h : Nested maxDepth value) :
    ofText value.pretty.toList = .ok value := by
  have hread := reads_prettyAt h.within 0 [] endsNumber_nil
  rw [List.append_nil, inKeyOrder_of_nested h] at hread
  rw [ofText]
  show readValue maxDepth (value.prettyAt 0).toList >>= _ = _
  rw [bind_of_ok hread]
  rfl

end RecordFilter.Json
