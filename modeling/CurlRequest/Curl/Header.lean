import CurlRequest.Text.Case

/-!
# Headers and their secrets

A header whose name speaks of a credential has a value that is shown only in part.  A value of more
than 20 code points shows its first ten and its last four, one of more than eight its first four and
its last two, and a shorter one is shown whole.
-/

namespace CurlRequest.Curl

/-- A header line of a request. -/
structure Header where
  name : Text
  value : Text
  deriving DecidableEq, Repr

/-- The words that mark a header name as that of a credential. -/
def sensitiveWords : List Text := [
  "authorization", "auth", "token", "api-key", "x-api-key", "bearer"]

/-- Whether a header name speaks of a credential, in any letter case. -/
def isSensitive (name : Text) : Bool :=
  let lowered := name.lower
  sensitiveWords.any fun word => word.occursIn lowered

/-- The sign that stands for hidden code points. -/
def maskGlyph : CodePoint := '•'

/-- What is shown of a secret. -/
def maskSecret (value : Text) : Text :=
  if 20 < value.length then
    value.take 10 ++ List.replicate 16 maskGlyph ++ value.drop (value.length - 4)
  else if 8 < value.length then
    value.take 4 ++ List.replicate 6 maskGlyph ++ value.drop (value.length - 2)
  else value

/-- What is shown of a value under a header name. -/
def mask (name value : Text) : Text :=
  if isSensitive name then maskSecret value else value

namespace Header

/-- The header line. -/
def line (h : Header) : Text :=
  h.name ++ ": " ++ h.value

/-- The header with what is shown of its value. -/
def redact (h : Header) : Header :=
  { h with value := mask h.name h.value }

end Header

end CurlRequest.Curl
