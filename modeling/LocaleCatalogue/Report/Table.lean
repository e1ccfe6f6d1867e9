import LocaleCatalogue.Report.Console
import LocaleCatalogue.Report.Wrap

/-!
# Tables

A table with a heavy frame around its head and a light one around its rows. Columns are as wide as
their widest cell as long as the table fits; otherwise the widest columns are narrowed until it
does, and the cells are broken into lines.
-/

namespace LocaleCatalogue.Table

/-- The characters of a line of the frame: left end, filling, junction and right end. -/
structure Frame where
  left : CodePoint
  fill : CodePoint
  junction : CodePoint
  right : CodePoint

/-- The line above the head. -/
def Frame.top : Frame := ⟨0x250F, 0x2501, 0x2533, 0x2513⟩

/-- The line between the head and the rows. -/
def Frame.middle : Frame := ⟨0x2521, 0x2501, 0x2547, 0x2529⟩

/-- The line below the rows. -/
def Frame.bottom : Frame := ⟨0x2514, 0x2500, 0x2534, 0x2518⟩

/-- The bar between cells of the head. -/
def headBar : CodePoint := 0x2503

/-- The bar between cells of a row. -/
def rowBar : CodePoint := 0x2502

/-- The cells of the space at both sides of a cell. -/
def padding : Nat := 2

/-- Code points that end a line when a cell is measured. -/
def endsLine (c : CodePoint) : Bool :=
  c.val = 0x0A || (0x1C ≤ c.val && c.val ≤ 0x1E) || c.val = 0x85 || c.val = 0x2028 || c.val = 0x2029

/-- The width of the widest line of a cell; `reversed` is the line in progress. -/
def widestFrom : (reversed : Text) → Text → Nat
  | reversed, [] => Width.ofText reversed.reverse
  | reversed, c :: rest =>
    if endsLine c then max (Width.ofText reversed.reverse) (widestFrom [] rest)
    else widestFrom (c :: reversed) rest

/-- The cells that a cell of the table takes with the space around it. -/
def cellWidth (cell : Text) : Nat := widestFrom [] cell + padding

/-- The widths of columns that are not narrowed, but none wider than `room`. -/
def fullWidths (room : Nat) (columns : List Column) (rows : List (List Text)) : List Nat :=
  (rows.foldl (fun ws row => List.zipWith max ws (row.map cellWidth))
    (columns.map fun c => cellWidth c.head)).map (min room)

/-- All widths together. -/
def total (ws : List Nat) : Nat := ws.foldl (· + ·) 0

/-- A quotient rounded to the nearest number, and from the middle to the even one. -/
def roundedQuotient (n d : Nat) : Nat :=
  if 2 * (n % d) < d then n / d
  else if d < 2 * (n % d) then n / d + 1
  else n / d + n / d % 2

/-- Takes `excess` cells from those columns that are `widest` wide, `count` of them, evenly and at
most `limit` from each. -/
def reduce (widest limit : Nat) : (count excess : Nat) → List Nat → List Nat
  | _, _, [] => []
  | count, excess, w :: ws =>
    if w = widest && 0 < count then
      let taken := min limit (roundedQuotient excess count)
      (w - taken) :: reduce widest limit (count - 1) (excess - taken) ws
    else w :: reduce widest limit count excess ws

/-- The widths after the widest columns have been narrowed, at most `steps` times. -/
def narrow (room : Nat) : (steps : Nat) → List Nat → List Nat
  | 0, ws => ws
  | steps + 1, ws =>
    let excess := total ws - room
    let widest := ws.foldl max 0
    let next := (ws.filter (· ≠ widest)).foldl max 0
    if excess = 0 || widest = 0 then ws
    else narrow room steps (reduce widest (min excess (widest - next)) (ws.count widest) excess ws)

/-- The widths of columns in a table that is `width` cells wide at most. -/
def widths (width : Nat) (columns : List Column) (rows : List (List Text)) : List Nat :=
  let room := width - (columns.length + 1)
  let full := fullWidths room columns rows
  narrow room (total full) full

/-- A line of the frame. -/
def frameLine (f : Frame) (ws : List Nat) : Text :=
  f.left :: Text.join [f.junction] (ws.map fun w => List.replicate w f.fill) ++ [f.right, 0x0A]

/-- A line of a cell filled up to a width. -/
def fillLine (right : Bool) (w : Nat) (line : Text) : Text :=
  let line := if right then Text.trimRight Markup.isSpace line else line
  let blanks := List.replicate (w - Width.ofText line) 0x20
  if right then blanks ++ line else line ++ blanks

/-- The lines of a cell in a column, each filled up to the width of the column with a space at both
sides. -/
def cellLines (column : Column) (w : Nat) (cell : Text) : List Text :=
  (Wrap.wrap .ellipsis (w - padding) cell).map fun line =>
    0x20 :: fillLine column.right (w - padding) line ++ [0x20]

/-- A row: as many lines as its highest cell has. -/
def rowLines (bar : CodePoint) (columns : List Column) (ws : List Nat) (row : List Text) : Text :=
  let cells := List.zipWith (fun (c, w) cell => cellLines c w cell) (List.zip columns ws) row
  let height := (cells.map List.length).foldl max 1
  (List.range height).flatMap fun n =>
    let line := List.zipWith (fun w lines => lines[n]?.getD (List.replicate w 0x20)) ws cells
    bar :: Text.join [bar] line ++ [bar, 0x0A]

/-- A table that is `width` cells wide at most. -/
def draw (width : Nat) (columns : List Column) (rows : List (List Text)) : Text :=
  let ws := widths width columns rows
  frameLine .top ws ++ rowLines headBar columns ws (columns.map Column.head) ++ frameLine .middle ws
    ++ rows.flatMap (rowLines rowBar columns ws) ++ frameLine .bottom ws

end LocaleCatalogue.Table
