import ParseBench.Console.Message
import ParseBench.Text.Pad

set_option relaxedAutoImplicit false
set_option autoImplicit false

/-!
# Plain console output

Messages as plain text, for logs and pipes. Tables are aligned by numbers of characters; rows may be
shorter or longer than the header, and what is longer is not shown.

## Main definitions

* `ParseBench.Console.Plain.columnWidths` — the widths of the columns of a table.
* `ParseBench.Console.Plain.tableLines` — the lines of a table.
* `ParseBench.Console.Plain.render` — the text of a message.
-/

namespace ParseBench.Console.Plain

open ParseBench.Text (padLeft padRight spaces)

/-- Lines, each ended by a line break. -/
def unlines (lines : List String) : String :=
  String.join (lines.map (· ++ "\n"))

/-! ## Tables -/

/-- The length of a cell of a row; a missing cell has none. -/
def cellLength (row : List String) (column : Nat) : Nat :=
  ((row[column]?).map String.length).getD 0

/-- The width of a column: the greatest length among its header and its cells. -/
def columnWidth (headers : List String) (rows : List (List String)) (column : Nat) : Nat :=
  (headers :: rows).foldl (fun w row => max w (cellLength row column)) 0

/-- The widths of the columns, one for each header. -/
def columnWidths (headers : List String) (rows : List (List String)) : List Nat :=
  (List.range headers.length).map (columnWidth headers rows)

/-- Cells of a line: each column holds its cell, or blanks, padded to its width. -/
def lineCells (widths : List Nat) (row : List String) : List String :=
  widths.mapIdx fun i w => padRight w ((row[i]?).getD "")

/-- A line: indented by two spaces, with two spaces between neighbouring columns. -/
def line (cells : List String) : String :=
  "  " ++ "  ".intercalate cells

/-- The rule below the header. -/
def rule (widths : List Nat) : List String :=
  widths.map fun w => String.ofList (List.replicate w '-')

/-- The lines of a table: the header, a rule and the rows. -/
def tableLines (headers : List String) (rows : List (List String)) : List String :=
  let widths := columnWidths headers rows
  line (lineCells widths headers) :: line (rule widths) ::
    rows.map fun row => line (lineCells widths row)

/-! ## Messages -/

/-- The heading of a table or of pairs: an empty line and the title. -/
def heading (title : String) : String :=
  if title = "" then "" else "\n  " ++ title ++ ":\n"

/-- Keys, aligned at their ends, and their values. -/
def pairLines (entries : List (String × String)) : List String :=
  let width := entries.foldl (fun w e => max w e.1.length) 0
  entries.map fun (k, v) => "  " ++ padLeft width k ++ ": " ++ v

/-- The text of a message. -/
def render : Message → Written
  | .info text => .toOut ("  " ++ text ++ "\n")
  | .success text => .toOut ("  [ok] " ++ text ++ "\n")
  | .warning text => .toOut ("  [warn] " ++ text ++ "\n")
  | .error text => .toErr ("  [error] " ++ text ++ "\n")
  | .step text => .toOut ("\n  " ++ text ++ "\n")
  | .table headers rows title =>
    .toOut (heading title ++
      (if headers.isEmpty && rows.isEmpty then "" else unlines (tableLines headers rows)))
  | .pairs entries title => .toOut (heading title ++ unlines (pairLines entries))
  | .block content title =>
    .toOut ((if title = "" then "" else title ++ ":\n") ++ content ++ "\n")

end ParseBench.Console.Plain
