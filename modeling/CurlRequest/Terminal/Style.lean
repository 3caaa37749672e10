import CurlRequest.Json.Fault
import CurlRequest.Text.Blank
import CurlRequest.Text.Case
import CurlRequest.Text.Lines

/-!
# Styles by name

A tag names a style by words: attributes that are switched on or off, a colour, a colour behind it
and a link.  Attributes have short names, and neither the order of the words nor the letter case of
most of them matters.  So the same style has many names, and one of them is its normal name: a tag
ends the style that was opened under any name with the same normal one.

Words that describe no style are a name too, the one in lower case.  A colour that is given by its
components is the exception: a component that is no number at all is a fault.

**Contents.**
* `Attribute`, `Style`: what words describe.
* `isColour`: whether a word names a colour.
* `Style.ofText`: the style that a text describes.
* `normalName`: the normal name of a style.
-/

namespace CurlRequest.Terminal

/-! ## Colours -/

/-- Names of colours, each list with the character that its names begin with. -/
def colourNames : List (Char × String) := [
  ('a', "aquamarine1 aquamarine3"),
  ('b', "blue blue1 blue3 black bright_red blue_violet bright_blue bright_cyan bright_black"),
  ('b', "bright_green bright_white bright_yellow bright_magenta"),
  ('c', "cyan cyan1 cyan2 cyan3 cornsilk1 cadet_blue chartreuse1 chartreuse2 chartreuse3"),
  ('c', "chartreuse4 cornflower_blue"),
  ('d', "dark_red dark_blue dark_cyan deep_pink1 deep_pink2 deep_pink3 deep_pink4 dark_green"),
  ('d', "dark_khaki dark_orange dark_orange3 dark_violet dodger_blue1 dodger_blue2"),
  ('d', "dodger_blue3 dark_magenta deep_sky_blue1 deep_sky_blue2 deep_sky_blue3"),
  ('d', "deep_sky_blue4 dark_goldenrod dark_sea_green dark_sea_green1 dark_sea_green2"),
  ('d', "dark_sea_green3 dark_sea_green4 dark_turquoise dark_slate_gray1 dark_slate_gray2"),
  ('d', "dark_slate_gray3 dark_olive_green1 dark_olive_green2 dark_olive_green3"),
  ('g', "green green1 green3 green4"),
  ('g', "gold1 gold3 gray0 gray3 gray7 gray11 gray15 gray19 gray23 gray27 gray30 gray35"),
  ('g', "gray37 gray39 gray42 gray46 gray50 gray53 gray54 gray58 gray62 gray63 gray66 gray69"),
  ('g', "gray70 gray74 gray78 gray82 gray84 gray85 gray89 gray93 gray100 grey0 grey3 grey7"),
  ('g', "grey11 grey15 grey19 grey23 grey27 grey30 grey35 grey37 grey39 grey42 grey46 grey50"),
  ('g', "grey53 grey54 grey58 grey62 grey63 grey66 grey69 grey70 grey74 grey78 grey82 grey84"),
  ('g', "grey85 grey89 grey93 grey100 green_yellow"),
  ('h', "honeydew2 hot_pink hot_pink2 hot_pink3"),
  ('i', "indian_red indian_red1"),
  ('k', "khaki1 khaki3"),
  ('l', "light_cyan1 light_cyan3 light_pink1 light_pink3 light_pink4 light_coral light_green"),
  ('l', "light_salmon1 light_salmon3 light_yellow3 light_sky_blue1 light_sky_blue3"),
  ('l', "light_goldenrod1 light_goldenrod2 light_goldenrod3 light_sea_green light_slate_blue"),
  ('l', "light_slate_gray light_slate_grey light_steel_blue light_steel_blue1"),
  ('l', "light_steel_blue3"),
  ('m', "magenta magenta1 magenta2 magenta3 misty_rose1 misty_rose3 medium_orchid"),
  ('m', "medium_orchid1 medium_orchid3 medium_purple medium_purple1 medium_purple2"),
  ('m', "medium_purple3 medium_purple4 medium_turquoise medium_violet_red medium_spring_green"),
  ('n', "navy_blue navajo_white1 navajo_white3"),
  ('o', "orange1 orange3 orange4 orchid orchid1 orchid2 orange_red1"),
  ('p', "pink1 pink3 plum1 plum2 plum3 plum4 purple purple3 purple4 pale_green1 pale_green3"),
  ('p', "pale_turquoise1 pale_turquoise4 pale_violet_red1"),
  ('r', "red red1 red3 rosy_brown royal_blue1"),
  ('s', "salmon1 sky_blue1 sky_blue2 sky_blue3 sea_green1 sea_green2 sea_green3 slate_blue1"),
  ('s', "slate_blue3 steel_blue steel_blue1 steel_blue3 sandy_brown spring_green1"),
  ('s', "spring_green2 spring_green3 spring_green4"),
  ('t', "tan thistle1 thistle3 turquoise2 turquoise4"),
  ('v', "violet"),
  ('w', "white wheat1 wheat4"),
  ('y', "yellow yellow1 yellow2 yellow3 yellow4")]

/-- Whether a word in lower case is the name of a colour. -/
def isColourName (word : Text) : Bool :=
  colourNames.any fun (initial, names) =>
    decide (word.head? = some (CodePoint.ofChar initial)) &&
      (Text.splitBy (fun c => decide (c = ' ')) (Text.ofString names)).contains word

/-- The decimal digits for zero of all scripts; the other nine digits follow each of them. -/
def zeroDigits : List Nat := [
  0x30, 0x660, 0x6F0, 0x7C0, 0x966, 0x9E6, 0xA66, 0xAE6, 0xB66, 0xBE6, 0xC66, 0xCE6, 0xD66,
  0xDE6, 0xE50, 0xED0, 0xF20, 0x1040, 0x1090, 0x17E0, 0x1810, 0x1946, 0x19D0, 0x1A80, 0x1A90,
  0x1B50, 0x1BB0, 0x1C40, 0x1C50, 0xA620, 0xA8D0, 0xA900, 0xA9D0, 0xA9F0, 0xAA50, 0xABF0, 0xFF10,
  0x104A0, 0x10D30, 0x11066, 0x110F0, 0x11136, 0x111D0, 0x112F0, 0x11450, 0x114D0, 0x11650,
  0x116C0, 0x11730, 0x118E0, 0x11950, 0x11C50, 0x11D50, 0x11DA0, 0x16A60, 0x16AC0, 0x16B50,
  0x1D7CE, 0x1D7D8, 0x1D7E2, 0x1D7EC, 0x1D7F6, 0x1E140, 0x1E2F0, 0x1E950, 0x1FBF0]

/-- The value of a decimal digit of some script. -/
def digitValue? (c : CodePoint) : Option Nat :=
  zeroDigits.findSome? fun first =>
    if first ≤ c.toNat ∧ c.toNat < first + 10 then some (c.toNat - first) else none

/-- A component of a colour that is no number, or has more digits than are read. -/
inductive ComponentFault
  | missing
  | tooLong (digits : Nat)
  deriving DecidableEq, Repr

/-- The wording of a fault of a component. -/
def ComponentFault.message : ComponentFault → Text
  | .missing => "invalid literal for int() with base 10: ''"
  | .tooLong digits => Json.ReadFault.message [] (.tooManyDigits digits)

/-- The number that digits stand for. -/
def component (digits : List Nat) : Except ComponentFault Nat :=
  if digits.isEmpty then .error .missing
  else if Json.digitLimit < digits.length then .error (.tooLong digits.length)
  else .ok (digits.foldl (fun n d => 10 * n + d) 0)

/-- The largest number of a colour, and the largest component. -/
def colourLimit : Nat := 255

/-- Whether a text is a number sign with six hexadecimal digits in lower case. -/
def isHexColour : Text → Bool
  | [] => false
  | c :: digits =>
      decide (c = '#') && digits.length == 6 &&
        digits.all fun d : CodePoint => d.isDigit || decide (0x61 ≤ d.toNat ∧ d.toNat ≤ 0x66)

/-- What stands between a word with an opening parenthesis and the closing one at the end. -/
def argumentOf? (head word : Text) : Option Text :=
  match Text.after? head word with
  | some rest =>
      if rest.getLast? = some (CodePoint.ofChar ')') then some rest.dropLast else none
  | none => none

/-- Whether a word names a colour, in whatever letter case. -/
def isColour (word : Text) : Except ComponentFault Bool :=
  let word := Text.lower word
  if word = Text.ofString "default" ∨ isColourName word ∨ isHexColour word then .ok true
  else
    match argumentOf? "color(" word, argumentOf? "rgb(" word with
    | some number, _ =>
        .ok (!number.isEmpty && decide (number.length ≤ 3) && number.all CodePoint.isDigit &&
          decide (number.foldl (fun n d => 10 * n + (d.toNat - 0x30)) 0 ≤ colourLimit))
    | none, some parts =>
        match (Text.splitBy (fun c => decide (c = ',')) parts).map (List.mapM digitValue?) with
        | [some red, some green, some blue] => do
            let red ← component red
            let green ← component green
            let blue ← component blue
            pure (decide (red ≤ colourLimit ∧ green ≤ colourLimit ∧ blue ≤ colourLimit))
        | _ => .ok false
    | none, none => .ok false

/-! ## Styles -/

/-- The ways in which a text can be shown. -/
inductive Attribute
  | bold
  | dim
  | italic
  | underline
  | blink
  | blink2
  | reverse
  | conceal
  | strike
  | underline2
  | frame
  | encircle
  | overline
  deriving DecidableEq, Repr

namespace Attribute

/-- All attributes, in the order in which they are named. -/
def all : List Attribute :=
  [bold, dim, italic, underline, blink, blink2, reverse, conceal, strike, underline2, frame,
    encircle, overline]

/-- The name of an attribute. -/
def name : Attribute → Text
  | bold => "bold"
  | dim => "dim"
  | italic => "italic"
  | underline => "underline"
  | blink => "blink"
  | blink2 => "blink2"
  | reverse => "reverse"
  | conceal => "conceal"
  | strike => "strike"
  | underline2 => "underline2"
  | frame => "frame"
  | encircle => "encircle"
  | overline => "overline"

/-- The short name of an attribute, where it has one. -/
def shortName? : Attribute → Option Text
  | bold => some "b"
  | dim => some "d"
  | italic => some "i"
  | underline => some "u"
  | reverse => some "r"
  | conceal => some "c"
  | strike => some "s"
  | underline2 => some "uu"
  | overline => some "o"
  | blink | blink2 | frame | encircle => none

/-- The attribute that a word names. -/
def ofWord? (word : Text) : Option Attribute :=
  all.find? fun a => decide (word = a.name ∨ some word = a.shortName?)

end Attribute

/-- A style: the attributes that are switched on or off, the last word first, and the rest. -/
structure Style where
  attributes : List (Attribute × Bool)
  colour : Option Text
  background : Option Text
  link : Option Text
  deriving DecidableEq, Repr

namespace Style

/-- The style that changes nothing. -/
def plain : Style := ⟨[], none, none, none⟩

/-- Why a text describes no style. -/
inductive Fault
  | unknown
  | component (fault : ComponentFault)
  deriving DecidableEq, Repr

/-- Refuses a word that names no colour. -/
def requireColour (word : Text) : Except Fault Unit :=
  match isColour word with
  | .ok true => .ok ()
  | .ok false => .error .unknown
  | .error fault => .error (.component fault)

/-- The style that words describe, given what the words before them described. -/
def ofWords (s : Style) : List Text → Except Fault Style
  | [] => .ok s
  | word :: rest =>
      if Text.lower word = Text.ofString "on" then
        match rest with
        | [] => .error .unknown
        | colour :: rest => do
            requireColour colour
            ofWords { s with background := some (Text.lower colour) } rest
      else if Text.lower word = Text.ofString "not" then
        match rest with
        | [] => .error .unknown
        | name :: rest =>
            match Attribute.ofWord? name with
            | some a => ofWords { s with attributes := (a, false) :: s.attributes } rest
            | none => .error .unknown
      else if Text.lower word = Text.ofString "link" then
        match rest with
        | [] => .error .unknown
        | target :: rest => ofWords { s with link := some target } rest
      else
        match Attribute.ofWord? (Text.lower word) with
        | some a => ofWords { s with attributes := (a, true) :: s.attributes } rest
        | none => do
            requireColour word
            ofWords { s with colour := some (Text.lower word) } rest

/-- The style that a text describes. -/
def ofText (t : Text) : Except Fault Style :=
  let words := (Text.splitBy CodePoint.isBlank t).filter fun w : Text => !w.isEmpty
  if words = [Text.ofString "none"] then .ok plain else ofWords plain words

/-- How an attribute is named that is switched on or off. -/
def switchName (s : Style) (a : Attribute) : List Text :=
  match s.attributes.lookup a with
  | some true => [a.name]
  | some false => ["not", a.name]
  | none => []

/-- The name of a style. -/
def name (s : Style) : Text :=
  let words := Attribute.all.flatMap s.switchName ++ s.colour.toList ++
    (s.background.map fun c => [Text.ofString "on", c]).getD [] ++
    (s.link.map fun target => [Text.ofString "link", target]).getD []
  if words.isEmpty then "none" else Text.join " " words

end Style

/-- The normal name of a style. -/
def normalName (t : Text) : Except ComponentFault Text :=
  match Style.ofText t with
  | .ok s => .ok s.name
  | .error .unknown => .ok (Text.lower (Text.trim t))
  | .error (.component fault) => .error fault

end CurlRequest.Terminal
