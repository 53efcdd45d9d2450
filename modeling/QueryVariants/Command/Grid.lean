/-!
# Grids of text

A grid shows a header and rows in columns that are as wide as their widest cell, framed by lines of
hyphens and with a line of equals signs under the header.
-/

namespace QueryVariants.Command

/-- How many places a text takes. The cells hold single-byte characters, of which only the soft hyphen
takes no place. -/
def displayWidth (s : String) : Nat :=
  s.toList.countP (·.toNat ≠ 0xAD)

structure Grid where
  header : List String
  /-- Rows with as many cells as the header. -/
  rows : List (List String)

namespace Grid

/-- The widths of the columns. -/
def widths (grid : Grid) : List Nat :=
  grid.rows.foldl (fun widths row => List.zipWith max widths (row.map displayWidth))
    (grid.header.map displayWidth)

/-- A line across all columns. -/
def rule (widths : List Nat) (edge fill joint : String) : String :=
  edge ++ joint.intercalate (widths.map fun width => String.join (List.replicate (width + 2) fill)) ++
    edge

/-- A line of cells. -/
def line (widths : List Nat) (cells : List String) : String :=
  let padded := List.zipWith (fun width cell =>
    cell ++ String.join (List.replicate (width - displayWidth cell) " ")) widths cells
  "| " ++ " | ".intercalate padded ++ " |"

/-- The lines of the grid. -/
def lines (grid : Grid) : List String :=
  let widths := grid.widths
  let frame := rule widths "+" "-" "+"
  let rows := grid.rows.map (line widths)
  [frame, line widths grid.header, rule widths "+" "=" "="] ++
    rows.intersperse (rule widths "|" "-" "+") ++ [frame]

end Grid

end QueryVariants.Command
