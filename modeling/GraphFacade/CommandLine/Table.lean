import GraphFacade.CommandLine.ColumnWidths
import GraphFacade.Fault
import GraphFacade.Text.Layout

/-!
# Tables

A table of texts in a frame of lines, heavy around the head and light below.
Columns are as wide as their widest cell, with a blank on both sides, as long as
the table has room for that; a cell of several lines makes its row as high.
-/

namespace GraphFacade

namespace Table

/-- A column: its title, its cells from above, and whether its texts may take several lines. -/
structure Column where
  title : String
  /-- Whether words that do not fit move to the next line. -/
  wraps : Bool
  cells : List Styled
  deriving Repr

def padding : Nat := 2

def Column.head (column : Column) : Styled :=
  ⟨column.title.toList, []⟩

def Column.content (column : Column) : Nat :=
  ((column.head :: column.cells).map fun cell => Layout.widest cell.chars).foldl max 0

def Column.request (column : Column) (room : Nat) : Nat :=
  if room <= padding then room else min (column.content + padding) room

def widths (room : Nat) (columns : List Column) : List Nat :=
  let room := room - (columns.length + 1)
  let requested := columns.map fun column => column.request room
  if requested.foldl (· + ·) 0 <= room then
    requested
  else
    let shrunk := ColumnWidths.shrink room (columns.map Column.wraps) requested
    (columns.zip shrunk).map fun (column, width) => column.request width

/-- The marks of a horizontal line: its left end, its stroke, its crossings and its right end. -/
structure Rule where
  left : Char
  stroke : Char
  cross : Char
  right : Char

def topRule : Rule := ⟨'┏', '━', '┳', '┓'⟩

def headRule : Rule := ⟨'┡', '━', '╇', '┩'⟩

def bottomRule : Rule := ⟨'└', '─', '┴', '┘'⟩

def headBar : Char := '┃'

def rowBar : Char := '│'

def ruleLine (rule : Rule) (widths : List Nat) : List Char :=
  let strokes := widths.map fun width => List.replicate width rule.stroke
  rule.left :: (List.intercalate [rule.cross] strokes ++ [rule.right])

def paddedLine (width : Nat) (line : Styled) : List Char :=
  let inner := Text.fitSegments (width - padding) line.segments
  (Text.fitSegments width ([' '] :: (inner ++ [[' ']]))).flatten

/-- The lines of a cell, each as wide as its column; without room for text there are none. -/
def cellLines (wraps : Bool) (width : Nat) (cell : Styled) : Except Fault (List (List Char)) :=
  if width <= padding then
    .ok []
  else
    let inner := width - padding
    let lines := Layout.lines inner .ellipsis wraps cell
    if lines.all Styled.isReadable then
      .ok (lines.map fun line => paddedLine width (Layout.pad inner line))
    else
      .error .badNumeral

def barredLine (bar : Char) (cells : List (Nat × List (List Char))) (place : Nat) : List Char :=
  bar :: cells.flatMap fun (width, lines) => lines[place]?.getD (Layout.blanks width) ++ [bar]

/-- The lines of a row between uprights, for its cells with the columns they are in. -/
def rowLines (bar : Char) (widths : List Nat) (row : List (Column × Styled)) :
    Except Fault (List (List Char)) := do
  let cells <- (widths.zip row).mapM fun (width, column, cell) =>
    (cellLines column.wraps width cell).map fun lines => (width, lines)
  let height := (cells.map fun cell => cell.2.length).foldl max 1
  return (List.range height).map (barredLine bar cells)

def rows (columns : List Column) : List (List (Column × Styled)) :=
  let height := (columns.map fun column => column.cells.length).foldl max 0
  (List.range height).map fun place =>
    columns.map fun column => (column, column.cells[place]?.getD default)

/-- The lines of a table that may take some cells. -/
def lines (room : Nat) (columns : List Column) : Except Fault (List String) := do
  let widths := widths room columns
  let head <- rowLines headBar widths (columns.map fun column => (column, column.head))
  let body <- (rows columns).mapM (rowLines rowBar widths)
  let all := [ruleLine topRule widths] ++ head ++ [ruleLine headRule widths] ++ body.flatten ++
    [ruleLine bottomRule widths]
  return all.map String.ofList

end Table

end GraphFacade
