import CurlRequest.Binary64.Shortest
import CurlRequest.Json
import CurlRequest.Json.Fault

/-!
# Writing JSON

One value has three written forms: compact, compact in visible ASCII alone, and laid out over
several lines with two spaces for each level.

**Contents.**
* `Json.escape`: a string between quotes.
* `Json.compact`, `Json.ascii`, `Json.pretty`: the three forms of a value as it stands.
* `Json.writeFault?`: why a value has no text, if it has none.
* `Json.toText`: the text that a value stands for inside a command: a string is its own text, and
  anything else is the compact form of its last-value view.
-/

namespace CurlRequest.Json

/-- Decimals from `10 ^ -4` up to `10 ^ 16` have no exponent, and an exponent has two digits. -/
def numberFormat : Binary64.DecimalFormat := ⟨-4, 16, 2⟩

/-- The escape of one UTF-16 unit. -/
def unitEscape (unit : Nat) : Text :=
  "\\u" ++ Text.hex 4 unit

/-- The escapes of any code point: two of them beyond the basic plane. -/
def unicodeEscape (c : CodePoint) : Text :=
  if c.toNat < 0x10000 then unitEscape c.toNat
  else
    let offset := c.toNat - 0x10000
    unitEscape (0xD800 + offset / 0x400) ++ unitEscape (0xDC00 + offset % 0x400)

/-- How a code point is written inside a string.  Where only ASCII is allowed everything above the
visible part of it is escaped as well. -/
def escapeOne (asciiOnly : Bool) (c : CodePoint) : Text :=
  if c = '"' then "\\\""
  else if c = '\\' then "\\\\"
  else if c = '\n' then "\\n"
  else if c = '\r' then "\\r"
  else if c = '\t' then "\\t"
  else if c.toNat = 0x08 then "\\b"
  else if c.toNat = 0x0C then "\\f"
  else if c.isControl then unitEscape c.toNat
  else if asciiOnly && decide (0x7F ≤ c.toNat) then unicodeEscape c
  else [c]

/-- A string between quotes. -/
def escape (asciiOnly : Bool) (s : Text) : Text :=
  "\"" ++ s.flatMap (escapeOne asciiOnly) ++ "\""

/-- Values without parts. -/
def scalarText (asciiOnly : Bool) : Json → Text
  | null => "null"
  | bool true => "true"
  | bool false => "false"
  | int n => Text.ofInt n
  | float x => x.format numberFormat
  | str s => escape asciiOnly s
  | arr _ => []
  | obj _ => []

mutual

/-- A value on one line without spaces. -/
def write (asciiOnly : Bool) : Json → Text
  | arr items => "[" ++ writeItems asciiOnly items ++ "]"
  | obj members => "\x7b" ++ writeMembers asciiOnly members ++ "\x7d"
  | null => scalarText asciiOnly null
  | bool b => scalarText asciiOnly (bool b)
  | int n => scalarText asciiOnly (int n)
  | float x => scalarText asciiOnly (float x)
  | str s => scalarText asciiOnly (str s)

/-- Items with commas between them. -/
def writeItems (asciiOnly : Bool) : List Json → Text
  | [] => []
  | [item] => write asciiOnly item
  | item :: next :: rest =>
      write asciiOnly item ++ "," ++ writeItems asciiOnly (next :: rest)

/-- Members with commas between them. -/
def writeMembers (asciiOnly : Bool) : List (Text × Json) → Text
  | [] => []
  | [(key, value)] => escape asciiOnly key ++ ":" ++ write asciiOnly value
  | (key, value) :: next :: rest =>
      escape asciiOnly key ++ ":" ++ write asciiOnly value ++
        "," ++ writeMembers asciiOnly (next :: rest)

end

/-- The compact form. -/
def compact (v : Json) : Text :=
  write false v

/-- The compact form in visible ASCII alone. -/
def ascii (v : Json) : Text :=
  write true v

/-- A new line that is indented for a level. -/
def newLine (level : Nat) : Text :=
  "\n" ++ (List.replicate (2 * level) ' ' : Text)

mutual

/-- A value over several lines, its first line continuing a line of the given level. -/
def layOut (level : Nat) : Json → Text
  | arr [] => "[]"
  | arr (item :: rest) =>
      "[" ++ newLine (level + 1) ++ layOutItems level (item :: rest) ++ newLine level ++ "]"
  | obj [] => "\x7b\x7d"
  | obj (member :: rest) =>
      "\x7b" ++ newLine (level + 1) ++ layOutMembers level (member :: rest) ++ newLine level ++
        "\x7d"
  | null => scalarText false null
  | bool b => scalarText false (bool b)
  | int n => scalarText false (int n)
  | float x => scalarText false (float x)
  | str s => scalarText false (str s)

/-- Items on a line each. -/
def layOutItems (level : Nat) : List Json → Text
  | [] => []
  | [item] => layOut (level + 1) item
  | item :: next :: rest =>
      layOut (level + 1) item ++ "," ++ newLine (level + 1) ++ layOutItems level (next :: rest)

/-- Members on a line each. -/
def layOutMembers (level : Nat) : List (Text × Json) → Text
  | [] => []
  | [(key, value)] => escape false key ++ ": " ++ layOut (level + 1) value
  | (key, value) :: next :: rest =>
      escape false key ++ ": " ++ layOut (level + 1) value ++
        "," ++ newLine (level + 1) ++ layOutMembers level (next :: rest)

end

/-- The form over several lines. -/
def pretty (v : Json) : Text :=
  layOut 0 v

/-- A number has no JSON text if it is not finite, or if it is an integer of too many digits. -/
inductive WriteFault
  | notFinite
  | tooManyDigits
  deriving DecidableEq, Repr

/-- The wording of a fault in writing. -/
def WriteFault.message : WriteFault → Text
  | .notFinite => "Out of range float values are not JSON compliant"
  | .tooManyDigits =>
      "Exceeds the limit (" ++ Text.ofNat digitLimit ++
        " digits) for integer string conversion; " ++
        "use sys.set_int_max_str_digits() to increase the limit"

mutual

/-- The fault of the first number in a value that has no text. -/
def writeFault? : Json → Option WriteFault
  | int n => if digitLimit < (Text.ofNat n.natAbs).length then some .tooManyDigits else none
  | float x => if x.isFinite then none else some .notFinite
  | arr items => writeFaultOfItems? items
  | obj members => writeFaultOfMembers? members
  | _ => none

/-- The fault of the first number in some items that has no text. -/
def writeFaultOfItems? : List Json → Option WriteFault
  | [] => none
  | item :: rest => (writeFault? item).or (writeFaultOfItems? rest)

/-- The fault of the first number in some members that has no text. -/
def writeFaultOfMembers? : List (Text × Json) → Option WriteFault
  | [] => none
  | (_, value) :: rest => (writeFault? value).or (writeFaultOfMembers? rest)

end

/-- The text that a value stands for inside a command. -/
def toText : Json → Except WriteFault Text
  | str s => .ok s
  | v =>
      let view := collapse v
      match writeFault? view with
      | none => .ok (compact view)
      | some fault => .error fault

end CurlRequest.Json
