import RecordFilter.Text.CategoryTable
import RecordFilter.Text.CharSet
import RecordFilter.Text.PropertyTable
import RecordFilter.Text.ScriptTable

/-!
# Properties of characters by name

A general category, a script or a two-valued property is found under any of its names. Names are
compared by their *plain* forms: casing, blanks, dashes and underscores do not count, nor does a
leading `is`. Properties with other kinds of values (ages, script extensions, the break properties)
have no tables and are unknown here.
-/

namespace RecordFilter.Text

/-! ## Names -/

/-- A name without a leading `is`, in any casing. -/
def withoutIs : List Char → List Char
  | i :: s :: rest => if i.toLower = 'i' ∧ s.toLower = 's' then rest else i :: s :: rest
  | name => name

/-- The plain form of a name. One name, `isc`, would collide with that of a category without its
`is` and keeps it. -/
def plainName (name : List Char) : List Char :=
  let bare := withoutIs name
  let kept := bare.filter fun c => c != ' ' && c != '_' && c != '-' && c.toNat < 0x80
  let plain := kept.map Char.toLower
  if plain = ['c'] ∧ bare ≠ name then ['i', 's', 'c'] else plain

/-- Whether a plain form is that of one of several names. -/
def isNamed (plain : List Char) (names : List String) : Bool :=
  names.any fun name => plainName name.toList == plain

/-! ## General categories -/

/-- The characters of the categories in the table that one of several names is a name of. -/
def categorySet (names : List String) : CharSet :=
  .ranges <|
    (categoryTable.filter fun row => row.names.any names.contains).flatMap
      fun row => CodeRange.ofRows row.rows

/-- The assigned characters. -/
def assigned : CharSet := .ranges (categoryTable.flatMap fun row => CodeRange.ofRows row.rows)

/-- The groups of categories: their names, and the categories of the table in them. -/
def categoryGroups : List (List String × List String) := [
  (["LC", "Cased_Letter"], ["Lu", "Ll", "Lt"]),
  (["L", "Letter"], ["Lu", "Ll", "Lt", "Lm", "Lo"]),
  (["M", "Mark", "Combining_Mark"], ["Mn", "Mc", "Me"]),
  (["N", "Number"], ["Nd", "Nl", "No"]),
  (["P", "Punctuation", "punct"], ["Pc", "Pd", "Ps", "Pe", "Pi", "Pf", "Po"]),
  (["S", "Symbol"], ["Sm", "Sc", "Sk", "So"]),
  (["Z", "Separator"], ["Zs", "Zl", "Zp"])]

/-- The characters of a general category or a group of categories, by the plain form of its name.
Control characters, formats, private and unassigned characters are the group `Other`. -/
def category? (plain : List Char) : Option CharSet :=
  if isNamed plain ["Any"] then some .all
  else if isNamed plain ["Assigned"] then some assigned
  else if isNamed plain ["ASCII"] then some (.ranges [⟨0, 0x7F⟩])
  else if isNamed plain ["Cn", "Unassigned"] then some (.compl assigned)
  else if isNamed plain ["C", "Other"] then
    some (.union (.compl assigned) (categorySet ["Cc", "Cf", "Co"]))
  else
    match categoryGroups.find? fun group => isNamed plain group.1 with
    | some group => some (categorySet group.2)
    | none =>
      (categoryTable.find? fun row => isNamed plain row.names).map
        fun row => .ranges (CodeRange.ofRows row.rows)

/-! ## Scripts -/

/-- The characters of a script, by the plain form of its name. -/
def script? (plain : List Char) : Option CharSet :=
  (scriptTable.find? fun row => isNamed plain row.names).map
    fun row => .ranges (CodeRange.ofRows row.rows)

/-! ## Two-valued properties -/

/-- The characters that have a property. -/
def PropertyRow.set (row : PropertyRow) : CharSet :=
  .union (.ranges (CodeRange.ofRows row.added))
    (.diff (categorySet row.categories) (.ranges (CodeRange.ofRows row.removed)))

/-- The characters that have a property, by the plain form of its name. -/
def property? (plain : List Char) : Option CharSet :=
  (propertyTable.find? fun row => isNamed plain row.names).map PropertyRow.set

/-- The characters that have a property, by a name in the table. -/
def propertySet (name : String) : CharSet :=
  .unions <| (propertyTable.filter fun row => row.names.contains name).map PropertyRow.set

/-! ## Sets with uses of their own -/

/-- The characters with a case. -/
def cased : CharSet := propertySet "Cased"

/-- The characters that do not separate the letters of a word. -/
def caseIgnorable : CharSet := propertySet "Case_Ignorable"

/-- The letters, and the other characters that count as letters. -/
def alphabetic : CharSet := propertySet "Alphabetic"

/-- The decimal digits of all scripts. -/
def decimalDigit : CharSet := categorySet ["Nd"]

/-- The characters that words consist of. -/
def wordChar : CharSet :=
  .union alphabetic <| .union (propertySet "Join_Control") <|
    categorySet ["Mn", "Mc", "Me", "Nd", "Pc"]

/-- The characters that numbers consist of. -/
def numeric : CharSet := categorySet ["Nd", "Nl", "No"]

end RecordFilter.Text
