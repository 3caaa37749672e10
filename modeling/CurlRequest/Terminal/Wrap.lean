import CurlRequest.Terminal.Glyph
import CurlRequest.Text.Blank
import CurlRequest.Text.Lines

/-!
# Wrapping text

A line that is too wide is broken between words.  Each word goes with the blanks behind it, and a
word that is wider than a whole line is cut into pieces.  Blanks that stick out at the end of a line
are dropped as far as they stick out.

**Contents.**
* `words`, `chop`: words with their blanks, and pieces of a bounded width.
* `fit`: a line filled up or cut to an exact width.
* `wrapLine`: one line broken into several.
* `wrap`: all lines of a text, tabs being expanded.
-/

namespace CurlRequest.Terminal

/-- The words of a line, each with the blanks behind it; the first one also has those before it.  A
line of blanks has no word. -/
def words (bound : Nat) (line : Text) : List Text :=
  match bound with
  | 0 => []
  | bound + 1 =>
      let before := line.takeWhile CodePoint.isBlank
      let afterBlanks := line.drop before.length
      let body := afterBlanks.takeWhile fun c => !c.isBlank
      if body.isEmpty then []
      else
        let rest := afterBlanks.drop body.length
        let behind := rest.takeWhile CodePoint.isBlank
        (before ++ body ++ behind) :: words bound (rest.drop behind.length)

/-- Pieces of glyphs that are not wider than a limit, the first of them going on from a piece of
which the width is given. -/
def chopFrom (limit used : Nat) : List Glyph → List Text
  | [] => [[]]
  | g :: rest =>
      if limit < used + g.columns then
        match chopFrom limit g.columns rest with
        | piece :: pieces => [] :: (g.content ++ piece) :: pieces
        | [] => [[], g.content]
      else
        match chopFrom limit (used + g.columns) rest with
        | piece :: pieces => (g.content ++ piece) :: pieces
        | [] => [g.content]

/-- Pieces of a text that are not wider than a limit. -/
def chop (limit : Nat) (t : Text) : List Text :=
  chopFrom limit 0 (glyphs t)

/-- Puts words on lines.  `line` is the line that is being filled and `used` the columns taken. -/
def fill (limit : Nat) (line : Text) (used : Nat) : List Text → List Text
  | [] => [line]
  | word :: rest =>
      let bare := width (Text.trimEnd word)
      if used + bare ≤ limit then fill limit (line ++ word) (used + width word) rest
      else if limit < bare then
        let pieces := chop limit word
        let last := pieces.getLast?.getD []
        let before := if line.isEmpty then [] else [line]
        before ++ pieces.dropLast ++ fill limit last (width last) rest
      else line :: fill limit word (width word) rest

/-- A line without the blanks at its end that stick out. -/
def dropExcess (limit : Nat) (line : Text) : Text :=
  if limit < line.length then
    let blanks := (line.reverse.takeWhile CodePoint.isBlank).length
    line.take (line.length - min blanks (line.length - limit))
  else line

/-- Blanks. -/
def blanks (count : Nat) : Text :=
  List.replicate count ' '

/-- The first glyphs, as far as they take at most a number of columns, with a blank in place of half
a wide one. -/
def cut (limit : Nat) : List Glyph → Text
  | [] => []
  | g :: rest =>
      if g.columns ≤ limit then g.content ++ cut (limit - g.columns) rest else blanks limit

/-- A line that takes at most a number of columns. -/
def crop (limit : Nat) (line : Text) : Text :=
  if limit < width line then cut limit (glyphs line) else line

/-- A line that takes an exact number of columns. -/
def fit (limit : Nat) (line : Text) : Text :=
  crop limit line ++ blanks (limit - width line)

/-- The parts of a line that fit the limit. -/
def wrapLine (limit : Nat) (line : Text) : List Text :=
  let parts :=
    match words (line.length + 1) line with
    | [] => [line]
    | ws => fill limit [] 0 ws
  parts.map fun part => crop limit (dropExcess limit part)

/-- A text in which each tab goes on to the next multiple of a number of columns.  `size` is what a
code point counts for, and every line starts anew. -/
def expandTabs (size : CodePoint → Nat) (stop column : Nat) : Text → Text
  | [] => []
  | c :: rest =>
      if c = '\t' then
        let gap := stop - column % stop
        blanks gap ++ expandTabs size stop (column + gap) rest
      else if c = '\n' ∨ c = '\r' then c :: expandTabs size stop 0 rest
      else c :: expandTabs size stop (column + size c) rest

/-- The lines of a text between line feeds. -/
def splitLines (t : Text) : List Text :=
  Text.splitBy (fun c => decide (c = '\n')) t

/-- The lines of a text, none wider than a limit. -/
def wrap (limit : Nat) (t : Text) : List Text :=
  (splitLines t).flatMap fun line => wrapLine limit (expandTabs columns 8 0 line)

end CurlRequest.Terminal
