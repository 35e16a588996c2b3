import RecordFilter.Json.Number
import RecordFilter.Text.Keyed

/-!
# JSON values
-/

namespace RecordFilter

/-- A JSON value. The members of an object that was read stand in key order, one per key; those
of an object that is only written stand in the order that the writing side wants. -/
inductive Json where
  | null
  | bool (value : Bool)
  | number (value : JsonNumber)
  | string (value : String)
  | array (items : List Json)
  | object (members : List (String × Json))
deriving Repr

namespace Json

/-- The value of a member of an object; other values have no members. -/
def get? (key : String) : Json → Option Json
  | object members => Keyed.find? key members
  | _ => none

/-- The text of a string. -/
def asString? : Json → Option String
  | string value => some value
  | _ => none

/-- The value of a number as a double. -/
def asBinary64? : Json → Option Binary64
  | number value => some value.toBinary64
  | _ => none

/-- A natural number below `2 ^ 64` as a value, and the nearest double to a greater one. -/
def ofNat (n : Nat) : Json :=
  if fits : fitsWord n = true then number (.integer n fits)
  else if finite : (Binary64.ofInt n).isFinite = true then number (.real (.ofInt n) finite)
  else null

/-- An object over the given members, in key order and with the last of each key. -/
def sorted (members : List (String × Json)) : Json :=
  object (Keyed.insertAll members [])

end Json

end RecordFilter
