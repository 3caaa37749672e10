import CurlRequest.Text

/-!
# Dictionaries that remember their order

A dictionary is a list of entries.  Putting a value under a key that is there already changes the
entry where it stands, and a new key goes to the end, so the order is that of first occurrence and
the value that of the last.
-/

namespace CurlRequest

/-- Entries in order. -/
abbrev Dictionary (α : Type) := List (Text × α)

namespace Dictionary

variable {α : Type}

/-- The last value that stands under a key. -/
def get? (key : Text) : Dictionary α → Option α
  | [] => none
  | (k, value) :: rest =>
      match get? key rest with
      | some later => some later
      | none => if k = key then some value else none

/-- The dictionary with a value under a key. -/
def put (key : Text) (value : α) : Dictionary α → Dictionary α
  | [] => [(key, value)]
  | (k, old) :: rest => if k = key then (k, value) :: rest else (k, old) :: put key value rest

/-- The dictionary with further entries put one after the other. -/
def putAll (entries : Dictionary α) (d : Dictionary α) : Dictionary α :=
  entries.foldl (fun d entry => put entry.1 entry.2 d) d

/-- The dictionary of any list of entries. -/
def ofEntries (entries : Dictionary α) : Dictionary α :=
  putAll entries []

/-- An entry in its place among entries that are sorted by their keys. -/
def insertSorted (key : Text) (value : α) : Dictionary α → Dictionary α
  | [] => [(key, value)]
  | (k, v) :: rest =>
      if Text.lt key k then (key, value) :: (k, v) :: rest
      else (k, v) :: insertSorted key value rest

/-- The entries in the order of their keys. -/
def sorted : Dictionary α → Dictionary α
  | [] => []
  | (k, v) :: rest => insertSorted k v (sorted rest)

end Dictionary

end CurlRequest
