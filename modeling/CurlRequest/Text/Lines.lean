import CurlRequest.Text

/-!
# Lines of a text

Two notions of line end live side by side.  Reading a file or the standard input turns each
carriage return, alone or before a line feed, into one line feed (`unifyNewlines`).  Splitting a
text into lines (`lines`) breaks it at every line separator that Unicode knows.
-/

namespace CurlRequest

/-- The code points at which a text is broken into lines. -/
def CodePoint.isLineBreak (c : CodePoint) : Bool :=
  let n := c.toNat
  decide (10 ≤ n ∧ n ≤ 13) || decide (0x1C ≤ n ∧ n ≤ 0x1E) || n == 0x85 || n == 0x2028 ||
    n == 0x2029

namespace Text

/-- Every carriage return, together with a line feed right after it, becomes one line feed. -/
def unifyNewlines : Text → Text
  | [] => []
  | c :: rest =>
      if c = '\r' then
        match rest with
        | d :: more =>
            if d = '\n' then '\n' :: unifyNewlines more else '\n' :: unifyNewlines (d :: more)
        | [] => ['\n']
      else c :: unifyNewlines rest

/-- The pieces of a text between the code points of a class.  There is one piece more than there
are separators, so a text that ends in a separator ends in an empty piece. -/
def splitBy (isSeparator : CodePoint → Bool) : Text → List Text
  | [] => [[]]
  | c :: rest =>
      if isSeparator c then [] :: splitBy isSeparator rest
      else
        match splitBy isSeparator rest with
        | [] => [[c]]
        | piece :: pieces => (c :: piece) :: pieces

/-- The lines of a text.  A line break ends a line and does not begin one, so nothing follows the
last break. -/
def lines (t : Text) : List Text :=
  let pieces := splitBy CodePoint.isLineBreak (unifyNewlines t)
  if pieces.getLast? = some [] then pieces.dropLast else pieces

end Text

end CurlRequest
