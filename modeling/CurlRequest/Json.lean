import CurlRequest.Binary64
import CurlRequest.Dictionary

/-!
# JSON values

An object is the list of its members in source order, repeated names included.  Two views of it
matter: all the members, and the *last-value view*, in which a repeated name stands once, at the
place of its first member and with the value of its last.

**Contents.**
* `Json`: values; integers and floating point numbers are different kinds of number.
* `Json.collapse`: the last-value view of a whole value.
-/

namespace CurlRequest

/-- A JSON value.  Numbers without a fraction and without an exponent are integers of any size. -/
inductive Json
  | null
  | bool (value : Bool)
  | int (value : Int)
  | float (value : Binary64)
  | str (value : Text)
  | arr (items : List Json)
  | obj (members : List (Text × Json))
  deriving Inhabited

namespace Json

mutual

/-- The value in which every object is its last-value view. -/
def collapse : Json → Json
  | null => null
  | bool b => bool b
  | int n => int n
  | float x => float x
  | str s => str s
  | arr items => arr (collapseItems items)
  | obj members => obj (Dictionary.ofEntries (collapseMembers members))

/-- The items of an array, each collapsed. -/
def collapseItems : List Json → List Json
  | [] => []
  | item :: rest => collapse item :: collapseItems rest

/-- The members of an object, each value collapsed. -/
def collapseMembers : List (Text × Json) → List (Text × Json)
  | [] => []
  | (key, value) :: rest => (key, collapse value) :: collapseMembers rest

end

/-- No value, or a string without code points. -/
def isAbsent : Json → Bool
  | null => true
  | str s => s.isEmpty
  | _ => false

end Json

end CurlRequest
