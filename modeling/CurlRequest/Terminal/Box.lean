import CurlRequest.Terminal.Control
import CurlRequest.Terminal.Wrap

/-!
# Panels and tables

A panel is a box around text with a title in its upper edge.  A table has a title, a header and
rows, and every column is as wide as its widest cell, however narrow the terminal is.  Both also carry
the styles in which a terminal with colours shows them.

**Contents.**
* `paragraph`: text without a box.
* `Panel`, `Panel.render`, `Panel.renderCode`: boxes of a given width.
* `Table`, `Table.render`: tables.
-/

namespace CurlRequest.Terminal

/-- A text that is the same code point over and over. -/
def rule (c : CodePoint) (count : Nat) : Text :=
  List.replicate count c

/-- A text in the middle of a line that is filled with a code point; an odd one goes to the
right. -/
def center (filler : CodePoint) (limit : Nat) (t : Text) : Text :=
  let excess := limit - width t
  rule filler (excess / 2) ++ t ++ rule filler (excess - excess / 2)

/-- Lines, each with a line feed behind it. -/
def unlines (ls : List Text) : Text :=
  ls.flatMap fun l => l ++ "\n"

/-- A text on lines of its own, each as wide as there is room.  Where there are no columns at all it is
not shown. -/
def paragraph (columns : Nat) (t : Text) : Text :=
  if columns = 0 then [] else unlines (wrap columns (dropMotions t))

/-- A box around text. -/
structure Panel where
  title : Text
  titleStyle : Text
  borderStyle : Text
  body : Text
  deriving DecidableEq, Repr

/-- The upper edge of a box, with a title if there is one and room for any of it. -/
def upperEdge (columns : Nat) (title : Option Text) : Text :=
  let plain := rule '─' (columns - 2)
  let inner :=
    match title with
    | none => plain
    | some title =>
        if columns ≤ 4 then plain
        else
          rule '─' 1 ++ center '─' (columns - 4) (crop (columns - 4) (" " ++ title ++ " ")) ++
            rule '─' 1
  "╭" ++ inner ++ "╮"

/-- The lower edge of a box. -/
def lowerEdge (columns : Nat) : Text :=
  "╰" ++ rule '─' (columns - 2) ++ "╯"

/-- A line inside a box. -/
def boxed (columns : Nat) (line : Text) : Text :=
  "│" ++ fit (columns - 2) line ++ "│"

/-- A box around lines.  Where there is no room between its edges it is empty, and where there are no
columns at all it is not shown. -/
def box (columns : Nat) (title : Option Text) (ls : List Text) : Text :=
  if columns = 0 then []
  else
    let inside := if columns ≤ 2 then [] else ls.map (boxed columns)
    unlines ((upperEdge columns title :: inside ++ [lowerEdge columns]).map (crop columns))

/-- The lines of a text in a box, with a blank before each, if there is room for them. -/
def padded (columns : Nat) (t : Text) : List Text :=
  if columns ≤ 4 then [] else (wrap (columns - 4) (dropMotions t)).map fun l => " " ++ l

/-- A panel with wrapped text. -/
def Panel.render (columns : Nat) (p : Panel) : Text :=
  box columns (some p.title) (padded columns p.body)

/-- A panel with program text: tabs are four columns wide. -/
def Panel.renderCode (columns : Nat) (p : Panel) : Text :=
  let code := Text.unifyNewlines (expandTabs (fun _ => 1) 4 0 p.body)
  box columns (some p.title) (padded columns code)

/-- A column of a table. -/
structure Column where
  header : Text
  style : Text
  noWrap : Bool
  cells : List Text
  deriving DecidableEq, Repr

/-- A table; the columns have equally many cells. -/
structure Table where
  title : Text
  columns : List Column
  deriving DecidableEq, Repr

namespace Table

/-- The width of the widest cell of a column, the header included. -/
def cellWidth (c : Column) : Nat :=
  ((c.header :: c.cells).map width).foldl max 0

/-- The cells of one row. -/
def row (t : Table) (i : Nat) : List Text :=
  t.columns.map fun c => (c.cells[i]?).getD []

/-- The number of rows. -/
def rowCount (t : Table) : Nat :=
  (t.columns.map fun c => c.cells.length).foldl max 0

/-- A line of cells between bars. -/
def cellLine (t : Table) (bar : Text) (cells : List Text) : Text :=
  let filled := (t.columns.zip cells).map fun (c, cell) => " " ++ fit (cellWidth c) cell ++ " "
  bar ++ Text.join bar filled ++ bar

/-- A line between rows. -/
def ruleLine (t : Table) (left filler joint right : CodePoint) : Text :=
  left :: Text.join [joint] (t.columns.map fun c => rule filler (cellWidth c + 2)) ++ [right]

/-- A table as text. -/
def render (t : Table) : Text :=
  let top := t.ruleLine '┏' '━' '┳' '┓'
  unlines (
    [center ' ' (width top) t.title, top, t.cellLine "┃" (t.columns.map Column.header),
      t.ruleLine '┡' '━' '╇' '┩'] ++
    (List.range t.rowCount).map (fun i => t.cellLine "│" (t.row i)) ++
    [t.ruleLine '└' '─' '┴' '┘'])

end Table

end CurlRequest.Terminal
