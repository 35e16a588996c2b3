import RecordFilter.Text.Order

/-!
# Entries in key order

Lists of entries with a text as key, kept in the order of the keys and with one entry per key.
JSON objects and declared fields are such lists.
-/

namespace RecordFilter.Keyed

variable {α : Type}

/-- Puts an entry where its key belongs, in place of the entry that has the key already. -/
def insert (key : String) (value : α) : List (String × α) → List (String × α)
  | [] => [(key, value)]
  | (k, v) :: rest =>
    match Text.compareText key k with
    | .lt => (key, value) :: (k, v) :: rest
    | .eq => (key, value) :: rest
    | .gt => (k, v) :: insert key value rest

/-- Puts entries in their places one after the other, so that of equal keys the last one stays. -/
def insertAll (entries : List (String × α)) (into : List (String × α)) : List (String × α) :=
  entries.foldl (fun kept entry => insert entry.1 entry.2 kept) into

/-- The value of a key. -/
def find? (key : String) : List (String × α) → Option α
  | [] => none
  | (k, v) :: rest => if k = key then some v else find? key rest

end RecordFilter.Keyed
