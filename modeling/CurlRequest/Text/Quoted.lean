import CurlRequest.Text.Visible

/-!
# Quoted texts in messages

Messages show a path or a name between quotes.  Single quotes are used unless the text holds a
single quote and no double one.  A code point that is not visible is written as an escape with as
many hexadecimal digits as it needs: two, four or eight.
-/

namespace CurlRequest

/-- How a code point stands between quotes of the given kind. -/
def CodePoint.quotedIn (quote c : CodePoint) : Text :=
  if c = quote ∨ c = '\\' then ['\\', c]
  else if c = '\n' then "\\n"
  else if c = '\r' then "\\r"
  else if c = '\t' then "\\t"
  else if c.isVisible then [c]
  else if c.toNat ≤ 0xFF then "\\x" ++ Text.hex 2 c.toNat
  else if c.toNat ≤ 0xFFFF then "\\u" ++ Text.hex 4 c.toNat
  else "\\U" ++ Text.hex 8 c.toNat

/-- A text between quotes, so that its extent and every code point of it can be seen. -/
def Text.quoted (t : Text) : Text :=
  let single : CodePoint := '\x27'
  let double : CodePoint := '\x22'
  let quote := if t.contains single && !t.contains double then double else single
  quote :: t.flatMap (CodePoint.quotedIn quote) ++ [quote]

end CurlRequest
