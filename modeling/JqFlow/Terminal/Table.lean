import JqFlow.Number.Binary64
import JqFlow.Terminal.Block

/-!
# Tables

A table takes as many cells as it needs, up to the width of the terminal. If it needs more, the
widest columns are narrowed first, and what does not fit into them is wrapped or cut off.

## Main definitions

- `Table.shrink`: column widths that fit into a width
- `Table.block`: the lines of a table
-/

namespace JqFlow

namespace Table

/-- So many spaces stand on either side of a cell. -/
def padding : Nat := 1

/-- Widths less `total` in all, taken as evenly as possible from those that are marked, and from
none more than `limit`. The number is that of the marked widths. -/
def narrow (limit : Nat) : Nat → Nat → List (Bool × Nat) → List Nat
  | _, _, [] => []
  | total, marked, (mark, width) :: rest =>
    if mark then
      let n := min limit (roundDiv total marked)
      (width - n) :: narrow limit (total - n) (marked - 1) rest
    else width :: narrow limit total marked rest

/-- The width of columns that stand side by side. -/
def breadth (widths : List Nat) : Nat :=
  widths.foldl (· + ·) 0

/-- Widths that are together no more than `most`, got by narrowing the widest ones down to the next
widest until they fit. The fuel bounds the number of rounds. -/
def shrink (most : Nat) : Nat → List Nat → List Nat
  | 0, widths => widths
  | fuel + 1, widths =>
    let excess := breadth widths - most
    let widest := widths.foldl max 0
    let next := (widths.filter (· ≠ widest)).foldl max 0
    if excess = 0 ∨ widest = next then widths
    else
      let marks := widths.map fun w => (decide (w = widest), w)
      shrink most fuel
        (narrow (min excess (widest - next)) excess (marks.filter Prod.fst).length marks)

/-- The least width of a column that has cells between its padding. -/
def leastShown : Nat := 2 * padding + 1

/-- The width that a column takes if all columns are together no more than `most`. -/
def naturalWidth (most : Nat) (cells : List StyledText) : Nat :=
  max 1 (min most
    ((cells.map fun s => Wrap.longest s.text + 2 * padding).foldl max (2 * padding)))

/-- The widths of columns that are together no more than `most`. -/
def widths (most : Nat) (columns : List (List StyledText)) : List Nat :=
  let natural := columns.map (naturalWidth most)
  if breadth natural ≤ most then natural else shrink most (breadth natural + 1) natural

/-- The lines of a cell in a column of a width. -/
def cellLines (a : Alignment) (width : Nat) (s : StyledText) : List Line :=
  if width < leastShown then []
  else
    let inner := width - 2 * padding
    let margin := [Text.spaces padding]
    (Wrap.lines .ellipsis a inner s).map fun line => margin ++ Line.fit inner line.runs ++ margin

/-- The lines of a row between edges. -/
def rowLines (left between right : Text) (atBottom : Bool)
    (cells : List (Alignment × Nat × StyledText)) : List Line :=
  let blocks := cells.map fun (a, width, s) => (width, cellLines a width s)
  let height := (blocks.map fun b => b.2.length).foldl max 1
  let filled := blocks.map fun (width, lines) =>
    let missing := List.replicate (height - lines.length) [Text.spaces width]
    if atBottom then missing ++ lines else lines ++ missing
  (List.range height).map fun i =>
    [left] ++ [between].intercalate (filled.map fun lines => (lines[i]?).getD []) ++ [right]

/-- A line across the table. -/
def rule (left line between right : Text) (widths : List Nat) : Line :=
  [left ++ Text.join between (widths.map fun n => Block.repeated n line) ++ right]

/-- The titles of the columns, each with its cells below it. -/
def markups (t : Table) : List (List Text) :=
  (List.range t.columns.length).zipWith
    (fun i c => c.title :: t.rows.map fun row => (row[i]?).getD []) t.columns

/-- The cells of every column. They are not looked at if no column can show any. -/
def contents (most : Nat) (t : Table) : Except MarkupError (List (List StyledText)) :=
  if most < leastShown then .ok (t.markups.map fun cells => cells.map fun _ => [])
  else t.markups.mapM fun cells => cells.mapM Markup.render

/-- The lines of a table on a terminal of a width. -/
def block (width : Nat) (t : Table) : Block := do
  if width = 0 then return []
  let most := width - (t.columns.length + 1)
  let columns ← contents most t
  let widths := widths most columns
  let places := (t.columns.map Column.alignment).zip widths
  let row (i : Nat) : List (Alignment × Nat × StyledText) :=
    places.zipWith (fun (a, n) cells => (a, n, (cells[i]?).getD [])) columns
  let lines := [rule "┏" "━" "┳" "┓" widths] ++
    rowLines "┃" "┃" "┃" true (row 0) ++
    [rule "┡" "━" "╇" "┩" widths] ++
    (List.range t.rows.length).flatMap (fun i => rowLines "│" "│" "│" false (row (i + 1))) ++
    [rule "└" "─" "┴" "┘" widths]
  return lines.map fun line => (line.crop width).flatten

end Table

end JqFlow
