import CurlRequest.Text

/-!
# Faults of record fields

Records that are built from loosely typed values check every field and report all faults at once,
in the order of the fields.  A fault says where it lies and what is wrong there.
-/

namespace CurlRequest.Field

/-- One step from a record to a part of it. -/
inductive Step
  | name (key : Text)
  | index (i : Nat)
  deriving DecidableEq, Repr

/-- What is wrong with a value. -/
inductive Cause
  | missing
  | notText
  | emptyText
  | brokenText
  | notList
  | tooManyItems (count : Nat)
  | notBoolean
  | unreadableBoolean
  | notChoice
  | unknownLevel (level : Text)
  deriving DecidableEq, Repr

/-- A fault and its place. -/
structure Fault where
  place : List Step
  cause : Cause
  deriving DecidableEq, Repr

/-- The wording of a cause. -/
def Cause.message : Cause → Text
  | .missing => "Field required"
  | .notText => "Input should be a valid string"
  | .emptyText => "String should have at least 1 character"
  | .brokenText =>
      "Input should be a valid string, unable to parse raw data as a unicode string"
  | .notList => "Input should be a valid tuple"
  | .tooManyItems count =>
      "Tuple should have at most 2 items after validation, not " ++ Text.ofNat count
  | .notBoolean => "Input should be a valid boolean"
  | .unreadableBoolean => "Input should be a valid boolean, unable to interpret input"
  | .notChoice => "Input should be 'text' or 'json'"
  | .unknownLevel level => "Value error, Unknown log level: " ++ level

/-- The outcome of checking one value. -/
abbrev Checked (α : Type) := Except (List Fault) α

/-- A single fault. -/
def fail {α : Type} (place : List Step) (cause : Cause) : Checked α :=
  .error [⟨place, cause⟩]

/-- The faults of a check. -/
def faults {α : Type} : Checked α → List Fault
  | .ok _ => []
  | .error fs => fs

/-- Whether a check gave yes. -/
def isYes : Checked Bool → Bool
  | .ok b => b
  | .error _ => false

/-- The results of all checks, or all their faults. -/
def all {α : Type} : List (Checked α) → Checked (List α)
  | [] => .ok []
  | first :: rest =>
      match first, all rest with
      | .ok x, .ok xs => .ok (x :: xs)
      | .ok _, .error fs => .error fs
      | .error es, .ok _ => .error es
      | .error es, .error fs => .error (es ++ fs)

end CurlRequest.Field
