import CurlRequest.Text

/-!
# Blanks at the ends of a text

The blank code points are those of the Unicode classes for spaces and separators, together with
the tab, the line controls and the four information separators.  A text is trimmed of exactly
these.
-/

namespace CurlRequest

/-- A space, a separator or one of the controls that count as white space. -/
def CodePoint.isBlank (c : CodePoint) : Bool :=
  let n := c.toNat
  decide (9 ≤ n ∧ n ≤ 13) || decide (0x1C ≤ n ∧ n ≤ 0x20) || n == 0x85 || n == 0xA0 ||
    n == 0x1680 || decide (0x2000 ≤ n ∧ n ≤ 0x200A) || n == 0x2028 || n == 0x2029 || n == 0x202F ||
    n == 0x205F || n == 0x3000

namespace Text

/-- No code point of the text is visible; the empty text is blank. -/
def isBlank (t : Text) : Bool :=
  t.all CodePoint.isBlank

/-- The text without the blanks it starts with. -/
def trimStart (t : Text) : Text :=
  t.dropWhile CodePoint.isBlank

/-- The text without the blanks it ends with. -/
def trimEnd (t : Text) : Text :=
  (t.reverse.dropWhile CodePoint.isBlank).reverse

/-- The text without the blanks at either end. -/
def trim (t : Text) : Text :=
  trimEnd (trimStart t)

/-- The text without any number of one code point at either end. -/
def stripOf (c : CodePoint) (t : Text) : Text :=
  ((t.dropWhile (· = c)).reverse.dropWhile (· = c)).reverse

end Text

end CurlRequest
