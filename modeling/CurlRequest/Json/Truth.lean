import CurlRequest.Field
import CurlRequest.Json

/-!
# Values that mean yes or no

A field that wants a boolean also takes the numbers 0 and 1 and a few words, letter case aside.
Other words, and other integers that fit into 64 bits, look like a boolean that cannot be read; the
rest does not look like one.
-/

namespace CurlRequest.Json

/-- An ASCII capital as a small letter; other code points stay. -/
def asciiLower (c : CodePoint) : CodePoint :=
  if 0x41 ≤ c.toNat ∧ c.toNat ≤ 0x5A then CodePoint.ofNat (c.toNat + 0x20) else c

/-- The words for yes. -/
def yesWords : List Text := ["1", "on", "t", "true", "y", "yes"]

/-- The words for no. -/
def noWords : List Text := ["0", "off", "f", "false", "n", "no"]

/-- What a word means. -/
def wordTruth (word : Text) : Except Field.Cause Bool :=
  let lowered := word.map asciiLower
  if word.hasSurrogate then .error .brokenText
  else if yesWords.contains lowered then .ok true
  else if noWords.contains lowered then .ok false
  else .error .unreadableBoolean

/-- What an integer means. -/
def intTruth (n : Int) : Except Field.Cause Bool :=
  if n = 0 then .ok false
  else if n = 1 then .ok true
  else .error .unreadableBoolean

/-- What a value means where a boolean is wanted. -/
def truth : Json → Except Field.Cause Bool
  | bool b => .ok b
  | str s => wordTruth s
  | int n =>
      if -0x8000000000000000 ≤ n ∧ n < 0x8000000000000000 then intTruth n
      else .error .notBoolean
  | float x =>
      match x.toInt? with
      | some n =>
          if -0x8000000000000000 < n ∧ n < 0x8000000000000000 then intTruth n
          else .error .notBoolean
      | none => .error .notBoolean
  | _ => .error .notBoolean

/-- A boolean field at a place. -/
def checkTruth (place : List Field.Step) (v : Json) : Field.Checked Bool :=
  match truth v with
  | .ok b => .ok b
  | .error cause => Field.fail place cause

end CurlRequest.Json
