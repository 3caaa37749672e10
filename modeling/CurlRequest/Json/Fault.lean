import CurlRequest.Text

/-!
# Faults of JSON texts

A text that is not JSON is refused at the first place where no reading can go on.  Most faults are
*located*: they carry the number of code points from that place to the end, from which line,
column and position follow once the whole text is at hand.  Numbers that cannot be represented,
words for numbers that are not finite, and nesting that is too deep are refused without a place.
-/

namespace CurlRequest.Json

/-- What is wrong at a place of a text. -/
inductive Problem
  | byteOrderMark
  | valueExpected
  | nameExpected
  | colonExpected
  | commaExpected
  | extraData
  | unterminatedString
  | controlCharacter
  | unknownEscape
  | badUnicodeEscape
  deriving DecidableEq, Repr

/-- Why a text is refused. -/
inductive ReadFault
  | located (problem : Problem) (remaining : Nat)
  | notFinite (word : Text)
  | outOfRange (literal : Text)
  | tooManyDigits (count : Nat)
  | tooDeep
  deriving DecidableEq, Repr

/-- The most digits that an integer may have. -/
def digitLimit : Nat := 4300

/-- The wording of a problem. -/
def Problem.message : Problem → Text
  | .byteOrderMark => "Unexpected UTF-8 BOM (decode using utf-8-sig)"
  | .valueExpected => "Expecting value"
  | .nameExpected => "Expecting property name enclosed in double quotes"
  | .colonExpected => "Expecting ':' delimiter"
  | .commaExpected => "Expecting ',' delimiter"
  | .extraData => "Extra data"
  | .unterminatedString => "Unterminated string starting at"
  | .controlCharacter => "Invalid control character at"
  | .unknownEscape => "Invalid \\escape"
  | .badUnicodeEscape => "Invalid \\uXXXX escape"

/-- The number of the line that a text breaks off in, counted from one. -/
def lineNumber (before : Text) : Nat :=
  1 + before.countP fun c : CodePoint => c = '\n'

/-- The column after a text, counted from one. -/
def columnNumber (before : Text) : Nat :=
  1 + (before.reverse.takeWhile fun c : CodePoint => !decide (c = '\n')).length

/-- Line, column and position of the place with a number of code points left. -/
def placeText (text : Text) (remaining : Nat) : Text :=
  let position := text.length - remaining
  let before := text.take position
  "line " ++ Text.ofNat (lineNumber before) ++ " column " ++ Text.ofNat (columnNumber before) ++
    " (char " ++ Text.ofNat position ++ ")"

/-- The wording of a fault that reading a given text met. -/
def ReadFault.message (text : Text) : ReadFault → Text
  | .located problem remaining => problem.message ++ ": " ++ placeText text remaining
  | .notFinite word => "Unexpected token " ++ word
  | .outOfRange literal => "Number out of range: " ++ literal
  | .tooManyDigits count =>
      "Exceeds the limit (" ++ Text.ofNat digitLimit ++
        " digits) for integer string conversion: value has " ++ Text.ofNat count ++
        " digits; use sys.set_int_max_str_digits() to increase the limit"
  | .tooDeep => "nesting is too deep"

end CurlRequest.Json
