import RankSieve.Text.Width

/-!
# `RankSieve.Table` — tables drawn with box characters

A table has a header and rows of cells; a cell may have several lines. Every column is as wide as its
widest line and one space on either side.

A cell may ask for a colour. Tables are drawn here as they are for a file or another program: it is only
on a terminal that colours show, and that a table is fitted into the width of the screen.

## Contents
- **Cells.** `Cell`, its lines and its width.
- **Drawing.** `Table.lines` draws the frame, the header, and the rows with rules between them.
-/

namespace RankSieve

/-! ## Cells -/

/-- The colours that a cell can ask for. -/
inductive Color where
  | red
  | darkYellow
  | yellow
  | green
  | blue
  | magenta
  deriving DecidableEq, Repr

/-- A cell of a table. -/
structure Cell where
  content  : Text
  centered : Bool
  color    : Option Color
  deriving DecidableEq, Repr

namespace Cell

/-- A cell whose lines begin at the left. -/
def left (content : Text) : Cell := ⟨content, false, none⟩

/-- A cell whose lines stand in the middle. -/
def center (content : Text) : Cell := ⟨content, true, none⟩

/-- The cell in a colour, if there is one. -/
def inColor (c : Cell) (color : Option Color) : Cell := { c with color := color }

/-- The lines of a cell. -/
def lines (c : Cell) : List Text := c.content.splitOn '\n'

/-- The columns that a cell needs. -/
def width (c : Cell) : Nat := (c.lines.map Text.width).foldl max 0

/-- A line of a cell in its place; what cannot be halved of the room goes to the left. -/
def place (c : Cell) (room : Nat) (line : Text) : Text :=
  let free := room - line.width
  let before := if c.centered then (free + 1) / 2 else 0
  List.replicate (before + 1) ' ' ++ line ++ List.replicate (free - before + 1) ' '

end Cell

/-! ## Drawing -/

/-- A table. -/
structure Table where
  header : List Text
  rows   : List (List Cell)

namespace Table

/-- The header as cells. -/
def headerCells (t : Table) : List Cell := t.header.map Cell.left

/-- The width of each column. -/
def widths (t : Table) : List Nat :=
  t.rows.foldl (fun ws row => List.zipWith max ws (row.map Cell.width)) (t.headerCells.map Cell.width)

/-- A rule across the table: its ends, its crossings and what it is drawn with. -/
def rule (widths : List Nat) (first crossing last stroke : Char) : Text :=
  first :: [crossing].intercalate (widths.map fun w => List.replicate (w + 2) stroke) ++ [last]

/-- One line of a row: what each cell has on it, or nothing where a cell has fewer lines. -/
def rowLine (widths : List Nat) (row : List Cell) (k : Nat) : Text :=
  let pieces := List.zipWith (fun w (c : Cell) => c.place w (c.lines.getD k [])) widths row
  '│' :: ['┆'].intercalate pieces ++ ['│']

/-- The lines of a row, as many as its highest cell has. -/
def rowLines (widths : List Nat) (row : List Cell) : List Text :=
  (List.range ((row.map fun c => c.lines.length).foldl max 0)).map (rowLine widths row)

/-- The lines of all rows with rules between them. -/
def bodyLines (widths : List Nat) : List (List Cell) → List Text
  | []          => []
  | [row]       => rowLines widths row
  | row :: rows => rowLines widths row ++ rule widths '├' '┼' '┤' '╌' :: bodyLines widths rows

/-- The lines of the table. -/
def lines (t : Table) : List Text :=
  let ws := t.widths
  rule ws '┌' '┬' '┐' '─' :: rowLines ws t.headerCells ++ rule ws '╞' '╪' '╡' '═' ::
    bodyLines ws t.rows ++ [rule ws '└' '┴' '┘' '─']

end Table

end RankSieve
