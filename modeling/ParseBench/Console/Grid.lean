import ParseBench.Console.Markup
import ParseBench.Decimal.Binary64
import ParseBench.Text.Spacing

set_option relaxedAutoImplicit false
set_option autoImplicit false

/-!
# Tables on the screen

The cells of a table stand in columns, each with a space on both sides, and columns are a space
apart. Columns that do not fit on the screen together are narrowed, the widest first.

## Main definitions

* `ParseBench.Console.Grid` — a table.
* `ParseBench.Console.Grid.widths` — the widths of its columns.
* `ParseBench.Console.Grid.lines` — its lines.
-/

namespace ParseBench.Console

open ParseBench.Text (cellWidth splitLines)

/-- A column: how its cells stand in it, and their style. -/
structure Column where
  align : Align
  style : Style
deriving DecidableEq, Repr

/-- A table: its columns, its header if it has one, its rows and its title if it has one. A row, or
the header, may be shorter or longer than the list of columns. -/
structure Grid where
  columns : List Column
  header : Option (List StyledText)
  rows : List (List StyledText)
  title : Option StyledText
deriving Repr

namespace Grid

/-- The column of cells past the last column. -/
def spareColumn : Column := ⟨.left, .none⟩

/-- The number of columns. -/
def count (g : Grid) : Nat := g.rows.foldl (fun n row => max n row.length) g.columns.length

/-- A column of a table. -/
def column (g : Grid) (i : Nat) : Column := (g.columns[i]?).getD spareColumn

/-- The cell of a row in a column; a missing cell is empty. -/
def cellAt (row : List StyledText) (i : Nat) : StyledText := (row[i]?).getD (.plain [])

/-! ## Widths -/

/-- The number of cells of the longest line of a text. -/
def textWidth (t : StyledText) : Nat := ((splitLines t.chars).map cellWidth).foldl max 0

/-- The width of a column that has at most `room` cells, with the spaces at its sides. A column of
one or two cells shows nothing of its texts, and one without any texts takes all the room. -/
def columnWidth (g : Grid) (room i : Nat) : Nat :=
  match (g.header.toList ++ g.rows).map fun row => textWidth (cellAt row i) with
  | [] => room
  | texts => if room < 3 then room else min (texts.foldl max 0 + 2) room

/-- Takes `excess` cells from the columns of a width, shared evenly but at most `most` from each;
there are `shares` such columns. -/
def narrow (width most : Nat) (excess shares : Nat) : List Nat → List Nat
  | [] => []
  | w :: rest =>
    if w == width then
      let less := min most (Decimal.roundDiv excess shares)
      (w - less) :: narrow width most (excess - less) (shares - 1) rest
    else w :: narrow width most excess shares rest

/-- Narrows the widest columns, at most to the width of the next ones. -/
def narrowWidest (room : Nat) (widths : List Nat) : List Nat :=
  let widest := widths.foldl max 0
  let next := (widths.filter (· != widest)).foldl max 0
  let excess := totalOf widths - room
  narrow widest (min excess (widest - next)) excess (widths.count widest) widths

/-- Narrows columns until they fit in the room that there is; each of at most `fuel` rounds takes a
cell at least. -/
def collapse (room : Nat) : Nat → List Nat → List Nat
  | 0, widths => widths
  | fuel + 1, widths =>
    if totalOf widths ≤ room then widths else collapse room fuel (narrowWidest room widths)

/-- The room for the columns on a screen of a width, without the spaces between them. -/
def room (g : Grid) (screen : Nat) : Nat := screen - (g.count - 1)

/-- The widths of the columns on a screen of a width. -/
def widths (g : Grid) (screen : Nat) : List Nat :=
  let room := g.room screen
  let wished := (List.range g.count).map fun i => max 1 (g.columnWidth room i)
  if totalOf wished ≤ room then wished
  else (collapse room (totalOf wished) wished).mapIdx fun i w => g.columnWidth w i

/-- The width of a table whose columns have given widths. -/
def totalWidth (widths : List Nat) : Nat := totalOf widths + (widths.length - 1)

/-! ## Lines -/

/-- The lines of a cell in a column of a width, in a style. -/
def cellLines (align : Align) (style : Style) (width : Nat) (t : StyledText) : List Line :=
  if width < 3 then []
  else (t.wrap align (width - 2) .dots).map fun line =>
    let text := Line.fit (width - 2) .none line.segments
    Line.fit width style ((Segment.spaces 1 .none :: text ++ [Segment.spaces 1 .none]).map (Segment.on style))

/-- The lines of the cells of a row, which have as many lines as the highest of them, but one at
least. Lines that a cell lacks are added above if it stands at the bottom, else below. -/
def alignCells (bottom : Bool) (cells : List (Nat × Style × List Line)) : List (List Line) :=
  let height := cells.foldl (fun h (_, _, lines) => max h lines.length) 0
  cells.map fun (width, style, lines) =>
    if height == 0 then [[.spaces width .none]]
    else
      let missing := List.replicate (height - lines.length) [.spaces width style]
      if bottom then missing ++ lines else lines ++ missing

/-- The lines of several cells side by side, with a space between them. -/
def besides : List (List Line) → List Line
  | [] => []
  | [lines] => lines
  | lines :: rest => List.zipWith (fun left right => left ++ .spaces 1 .none :: right) lines (besides rest)

/-- The lines of a row; a header has a style of its own and stands at the bottom. -/
def rowLines (g : Grid) (widths : List Nat) (header : Option Style) (row : List StyledText) : List Line :=
  besides (alignCells header.isSome (widths.mapIdx fun i width =>
    let style := header.getD (g.column i).style
    (width, style, cellLines (g.column i).align style width (cellAt row i))))

/-- The style of a header. -/
def headerStyle : Style := .ofAttributes [.bold]

/-- The lines of a table: its title, its header with a rule, and its rows. A table without columns
is an empty line. -/
def lines (g : Grid) (screen : Nat) : List Line :=
  if g.count == 0 then [[]]
  else
    let widths := g.widths screen
    let total := totalWidth widths
    let title := match g.title with
      | some title => (title.wrap .center total .fold).map StyledText.segments
      | none => []
    let header := match g.header with
      | some header =>
        g.rowLines widths (some headerStyle) header ++ [[.plain (List.replicate total '─')]]
      | none => []
    title ++ header ++ g.rows.flatMap (g.rowLines widths none)

end Grid

end ParseBench.Console
