import ParseBench.Console.Plain
import Mathlib.Data.List.Forall2
import Mathlib.Data.Set.Defs
import Mathlib.Order.Bounds.Defs
import Mathlib.Tactic.Lemma

set_option relaxedAutoImplicit false
set_option autoImplicit false

/-!
# The layout of plain tables

A line of a table is made of cells that are as long as their columns are wide, with two spaces
before each. So all lines are equally long, and a column begins at the same place in all of them,
whatever the rows hold and however many cells they have.

## Main definitions

* `ParseBench.Console.Plain.Holds` — what a line holds in a column.
* `ParseBench.Console.Plain.lengthsIn` — the lengths of the texts of a column.
* `ParseBench.Console.Plain.Layout` — lines that are laid out in columns.

## Main results

* `ParseBench.Console.Plain.line_eq_join` — a line is made of cells with two spaces before each.
* `ParseBench.Console.Plain.isGreatest_columnWidth` — the width of a column is its greatest length.
* `ParseBench.Console.Plain.holds_line` — what a line of cells holds in each column.
* `ParseBench.Console.Plain.table_layout` — the lines of a table are laid out in columns.
-/

namespace ParseBench.Console.Plain

open ParseBench.Text (padRight spaces)

/-- A line holds a text in a column that begins at a place and has a width: before it there are two
spaces, and after it the spaces that bring it to the width. -/
def Holds (l : String) (place width : Nat) (text : String) : Prop :=
  text.length ≤ width ∧ ∃ before after,
    l = before ++ "  " ++ (text ++ spaces (width - text.length)) ++ after ∧
      before.length + 2 = place

/-- A run of dashes. -/
def dashes (n : Nat) : String := String.ofList (List.replicate n '-')

/-- The lengths of the texts of a column: of its header, and of its cells in the rows that have
one. -/
def lengthsIn (headers : List String) (rows : List (List String)) (i : Nat) : Set Nat :=
  {n | ∃ row ∈ headers :: rows, ∃ cell ∈ row[i]?, cell.length = n}

/-- The lines of a table are laid out in columns, one for each header. The columns begin at the same
places in all lines, and a row that does not reach a column leaves it blank. -/
structure Layout (headers : List String) (rows : List (List String)) (header rule : String)
    (lines : List String) (place width : Nat → Nat) : Prop where
  /-- There is one line for each row. -/
  count : lines.length = rows.length
  /-- The first column begins after two spaces. -/
  first : place 0 = 2
  /-- Between two columns there are two places. -/
  next : ∀ i < headers.length, place (i + 1) = place i + width i + 2
  /-- All lines end where the last column ends. -/
  even : ∀ l ∈ header :: rule :: lines, l.length + 2 = place headers.length
  /-- A column is as wide as its longest text. -/
  widest : ∀ i < headers.length, IsGreatest (lengthsIn headers rows i) (width i)
  headed : ∀ i (hi : i < headers.length), Holds header (place i) (width i) headers[i]
  ruled : ∀ i < headers.length, Holds rule (place i) (width i) (dashes (width i))
  filled : ∀ i < headers.length,
    List.Forall₂ (fun row l => Holds l (place i) (width i) (row[i]?.getD "")) rows lines

/-! ## Widths -/

section Widths

variable {headers : List String} {rows : List (List String)} {row : List String} {i : Nat}

/-- The greatest of some numbers is at least as great as each, and is one of them. -/
lemma foldl_max_spec (f : List String → Nat) (rows : List (List String)) (w : Nat) :
    w ≤ rows.foldl (fun w row => max w (f row)) w ∧
      (∀ row ∈ rows, f row ≤ rows.foldl (fun w row => max w (f row)) w) ∧
      (rows.foldl (fun w row => max w (f row)) w = w ∨
        ∃ row ∈ rows, f row = rows.foldl (fun w row => max w (f row)) w) := by
  induction rows generalizing w with
  | nil => simp
  | cons row rows ih =>
    obtain ⟨hw, hrows, hone⟩ := ih (max w (f row))
    rw [List.foldl_cons]
    refine ⟨by omega, ?_, ?_⟩
    · intro other hother
      rcases List.mem_cons.1 hother with rfl | hother
      · omega
      · exact hrows other hother
    · rcases hone with hmax | ⟨other, hother, hmax⟩
      · rcases Nat.le_total (f row) w with hle | hle
        · exact .inl (by omega)
        · exact .inr ⟨row, List.mem_cons_self, by omega⟩
      · exact .inr ⟨other, List.mem_cons_of_mem _ hother, hmax⟩

/-- A cell is as long as its text, and a missing one has no length. -/
lemma cellLength_eq (row : List String) (i : Nat) :
    cellLength row i = (row[i]?.getD "").length := by
  rw [cellLength]
  cases row[i]? <;> rfl

/-- No cell of a row is longer than its column is wide. -/
lemma cellLength_le (hrow : row ∈ headers :: rows) (i : Nat) :
    cellLength row i ≤ columnWidth headers rows i :=
  (foldl_max_spec (fun row => cellLength row i) (headers :: rows) 0).2.1 row hrow

/-- **The width of a column is the greatest length of its texts.**

**Proof sketch.** No text is longer. A width that is not nought is the length of a cell; if it is
nought, then so is the length of the header. -/
lemma isGreatest_columnWidth (hi : i < headers.length) (rows : List (List String)) :
    IsGreatest (lengthsIn headers rows i) (columnWidth headers rows i) := by
  constructor
  · have hheader : cellLength headers i ≤ columnWidth headers rows i :=
      cellLength_le List.mem_cons_self i
    by_cases hzero : columnWidth headers rows i = 0
    · refine ⟨headers, List.mem_cons_self, headers[i], List.getElem?_eq_getElem hi, ?_⟩
      rw [cellLength_eq, List.getElem?_eq_getElem hi, Option.getD_some] at hheader
      omega
    · obtain ⟨-, -, hone⟩ := foldl_max_spec (fun row => cellLength row i) (headers :: rows) 0
      obtain ⟨row, hrow, hlength⟩ := hone.resolve_left hzero
      cases hcell : row[i]? with
      | none =>
        rw [cellLength_eq, hcell] at hlength
        exact absurd hlength.symm hzero
      | some cell =>
        rw [cellLength_eq, hcell] at hlength
        exact ⟨row, hrow, cell, hcell, hlength⟩
  · rintro n ⟨row, hrow, cell, hcell, rfl⟩
    have hle := cellLength_le hrow i
    rw [cellLength_eq, Option.mem_def.1 hcell] at hle
    exact hle

end Widths

/-! ## Lines of cells -/

section Lines

variable {cells row : List String} {widths : List Nat} {text s : String} {i w : Nat}

/-- Spaces are as long as they are many. -/
lemma length_spaces (n : Nat) : (spaces n).length = n := by
  rw [spaces, String.length_ofList, List.length_replicate]

/-- A text that is filled up is as long as it is filled up to. -/
lemma length_padRight (h : s.length ≤ w) : (padRight w s).length = w := by
  rw [padRight, String.length_append, length_spaces]
  omega

/-- A text of the right length is filled up with nothing. -/
lemma padRight_of_length (h : s.length = w) : padRight w s = s := by
  rw [padRight, h, Nat.sub_self]
  exact String.append_empty

/-- Dashes are as long as they are many. -/
lemma length_dashes (n : Nat) : (dashes n).length = n := by
  rw [dashes, String.length_ofList, List.length_replicate]

/-- **A line is made of its cells**, with two spaces before each. -/
lemma line_eq_join (h : cells ≠ []) : line cells = String.join (cells.map ("  " ++ ·)) := by
  induction cells with
  | nil => exact absurd rfl h
  | cons cell rest ih =>
    cases rest with
    | nil => simp [line, String.intercalate_singleton, String.join_cons]
    | cons next rest =>
      rw [List.map_cons, String.join_cons, ← ih (List.cons_ne_nil next rest), line, line,
        String.intercalate_cons_cons]
      simp only [String.append_assoc]

/-- The place where a column begins: behind the columns before it and two spaces for each. -/
def columnPlace (widths : List Nat) (i : Nat) : Nat :=
  (widths.take i).foldl (fun place w => place + w + 2) 2

/-- A column starts two characters after the one before it ends. -/
lemma columnPlace_succ (h : widths[i]? = some w) :
    columnPlace widths (i + 1) = columnPlace widths i + w + 2 := by
  rw [columnPlace, columnPlace, List.take_add_one, h, List.foldl_append]
  rfl

/-- Joining cells with two spaces before each moves the place on by their lengths and two for
each. -/
lemma add_length_join (cells : List String) (place : Nat) :
    place + (String.join (cells.map ("  " ++ ·))).length =
      (cells.map String.length).foldl (fun place w => place + w + 2) place := by
  induction cells generalizing place with
  | nil => rfl
  | cons cell cells ih =>
    have hcell : ("  " ++ cell).length = cell.length + 2 := by
      rw [String.length_append, Nat.add_comm]
      rfl
    rw [List.map_cons, List.map_cons, String.join_cons, List.foldl_cons, ← ih,
      String.length_append, hcell]
    omega

/-- A line ends where another column would begin, were it not for the two spaces before it. -/
lemma length_line (h : cells ≠ []) :
    (line cells).length + 2 = columnPlace (cells.map String.length) cells.length := by
  rw [line_eq_join h, Nat.add_comm, add_length_join, columnPlace, List.take_of_length_le (by simp)]

/-- **What a line holds in each column** is its cell there.

**Proof sketch.** The cells before it reach up to its column, and the two spaces before it belong to
it. -/
lemma holds_line (hcell : cells[i]? = some (padRight w text)) (hle : text.length ≤ w) :
    Holds (line cells) (columnPlace (cells.map String.length) i) w text := by
  obtain ⟨hi, hget⟩ := List.getElem?_eq_some_iff.1 hcell
  have hne : cells ≠ [] := List.ne_nil_of_length_pos (by omega)
  have hsplit : cells = cells.take i ++ padRight w text :: cells.drop (i + 1) := by
    rw [← hget, ← List.drop_eq_getElem_cons hi, List.take_append_drop]
  refine ⟨hle, String.join ((cells.take i).map ("  " ++ ·)),
    String.join ((cells.drop (i + 1)).map ("  " ++ ·)), ?_, ?_⟩
  · rw [line_eq_join hne]
    conv_lhs => rw [hsplit]
    rw [List.map_append, List.map_cons, String.join_append, String.join_cons, padRight]
    simp only [String.append_assoc]
  · rw [Nat.add_comm, add_length_join, columnPlace, List.map_take]

/-! ## The cells of a table -/

/-- The cell of a line is that of its row, filled up to the width of its column. -/
lemma getElem?_lineCells (h : widths[i]? = some w) (row : List String) :
    (lineCells widths row)[i]? = some (padRight w (row[i]?.getD "")) := by
  rw [lineCells, List.getElem?_mapIdx, h]
  rfl

/-- The cells of a row are as long as the columns are wide. -/
lemma map_length_lineCells
    (h : ∀ (i w : Nat), widths[i]? = some w → (row[i]?.getD "").length ≤ w) :
    (lineCells widths row).map String.length = widths := by
  apply List.ext_getElem?
  intro i
  rw [List.getElem?_map]
  cases hw : widths[i]? with
  | none => rw [lineCells, List.getElem?_mapIdx, hw]; rfl
  | some w =>
    rw [getElem?_lineCells hw, Option.map_some, length_padRight (h i w hw)]

/-- The rule has one row of dashes for each column, as long as the column is wide. -/
lemma map_length_rule (widths : List Nat) : (rule widths).map String.length = widths := by
  rw [rule, List.map_map]
  conv_rhs => rw [← List.map_id widths]
  exact List.map_congr_left fun w _ => length_dashes w

end Lines

section Tables

variable {headers row : List String} {rows : List (List String)} {i : Nat}

/-- There is one width for each header. -/
lemma length_columnWidths (headers : List String) (rows : List (List String)) :
    (columnWidths headers rows).length = headers.length := by
  rw [columnWidths, List.length_map, List.length_range]

/-- The width in a place is that of the column in that place. -/
lemma getElem?_columnWidths (hi : i < headers.length) (rows : List (List String)) :
    (columnWidths headers rows)[i]? = some (columnWidth headers rows i) := by
  rw [columnWidths, List.getElem?_map, List.getElem?_range hi]
  rfl

/-- The cells of the header and of the rows fit their columns. -/
lemma fits (hrow : row ∈ headers :: rows) (i w : Nat)
    (hw : (columnWidths headers rows)[i]? = some w) : (row[i]?.getD "").length ≤ w := by
  obtain ⟨hi, -⟩ := List.getElem?_eq_some_iff.1 hw
  rw [length_columnWidths] at hi
  rw [getElem?_columnWidths hi, Option.some.injEq] at hw
  rw [← cellLength_eq, ← hw]
  exact cellLength_le hrow i

/-- A line of the header or of a row holds its cells. -/
lemma holds_lineCells (hrow : row ∈ headers :: rows) (hi : i < headers.length) :
    Holds (line (lineCells (columnWidths headers rows) row))
      (columnPlace (columnWidths headers rows) i) (columnWidth headers rows i)
      (row[i]?.getD "") := by
  have hw := getElem?_columnWidths hi rows
  have hline := holds_line (getElem?_lineCells hw row) (fits hrow i _ hw)
  rwa [map_length_lineCells (fits hrow)] at hline

/-- The line below the header holds a run of dashes in each column. -/
lemma holds_rule (hi : i < headers.length) (rows : List (List String)) :
    Holds (line (rule (columnWidths headers rows))) (columnPlace (columnWidths headers rows) i)
      (columnWidth headers rows i) (dashes (columnWidth headers rows i)) := by
  have hlength := length_dashes (columnWidth headers rows i)
  have hcell : (rule (columnWidths headers rows))[i]? =
      some (padRight (columnWidth headers rows i) (dashes (columnWidth headers rows i))) := by
    rw [rule, List.getElem?_map, getElem?_columnWidths hi, padRight_of_length hlength]
    rfl
  have hline := holds_line hcell (Nat.le_of_eq hlength)
  rwa [map_length_rule] at hline

/-- A line of cells that fill their columns ends where the last column does. -/
lemma length_line_of_widths {cells : List String} (hne : headers ≠ [])
    (h : cells.map String.length = columnWidths headers rows) :
    (line cells).length + 2 = columnPlace (columnWidths headers rows) headers.length := by
  have hcount := congrArg List.length h
  rw [List.length_map, length_columnWidths] at hcount
  have hcells : cells ≠ [] := by
    rintro rfl
    exact hne (List.length_eq_zero_iff.1 hcount.symm)
  rw [length_line hcells, h, hcount]

/-- **The layout of a table.** With at least one header, a table is printed, after its heading, as a
line for the header, a line for the rule and a line for each row, in order. They are equally long,
and there is a place for each column at which the header line has the header, the rule line a run of
dashes and each row line its cell, or blanks, all of them filled up with spaces to the greatest
length of a text of the column. Two spaces stand before the first column and between two columns. -/
theorem table_layout (headers : List String) (rows : List (List String)) (title : String)
    (hne : headers ≠ []) :
    ∃ header rule lines place width,
      render (.table headers rows title) =
        .toOut (heading title ++ unlines (header :: rule :: lines)) ∧
      Layout headers rows header rule lines place width := by
  refine ⟨line (lineCells (columnWidths headers rows) headers),
    line (rule (columnWidths headers rows)),
    rows.map fun row => line (lineCells (columnWidths headers rows) row),
    columnPlace (columnWidths headers rows), columnWidth headers rows, ?_, ?_⟩
  · have hempty : headers.isEmpty = false := by simpa using hne
    rw [render, hempty]
    rfl
  · have heven : ∀ row ∈ headers :: rows,
        (line (lineCells (columnWidths headers rows) row)).length + 2 =
          columnPlace (columnWidths headers rows) headers.length :=
      fun row hrow => length_line_of_widths hne (map_length_lineCells (fits hrow))
    exact {
      count := List.length_map _
      first := rfl
      next := fun i hi => columnPlace_succ (getElem?_columnWidths hi rows)
      even := by
        intro l hl
        rcases List.mem_cons.1 hl with rfl | hl
        · exact heven headers List.mem_cons_self
        rcases List.mem_cons.1 hl with rfl | hl
        · exact length_line_of_widths hne (map_length_rule _)
        obtain ⟨row, hrow, rfl⟩ := List.mem_map.1 hl
        exact heven row (List.mem_cons_of_mem _ hrow)
      widest := fun i hi => isGreatest_columnWidth hi rows
      headed := by
        intro i hi
        have hmem : headers ∈ headers :: rows := List.mem_cons_self
        have hheld := holds_lineCells hmem hi
        rwa [List.getElem?_eq_getElem hi] at hheld
      ruled := fun i hi => holds_rule hi rows
      filled := by
        intro i hi
        rw [List.forall₂_map_right_iff, List.forall₂_same]
        exact fun row hrow => holds_lineCells (List.mem_cons_of_mem _ hrow) hi }

/-- A row that is shorter than the header, and one that is longer. -/
theorem table_layout_ragged :
    ["Task", "n"] ≠ [] ∧ ∃ header rule lines place width,
      unlines (header :: rule :: lines) =
        "  Task   n \n  -----  --\n  a        \n  menus  10\n" ∧
      Layout ["Task", "n"] [["a"], ["menus", "10", "x"]] header rule lines place width := by
  have hne : ["Task", "n"] ≠ [] := by decide
  obtain ⟨header, rule, lines, place, width, hrender, hlayout⟩ :=
    table_layout ["Task", "n"] [["a"], ["menus", "10", "x"]] "" hne
  have htext : render (.table ["Task", "n"] [["a"], ["menus", "10", "x"]] "") =
      .toOut "  Task   n \n  -----  --\n  a        \n  menus  10\n" := by
    decide +kernel
  have hlines := congrArg Written.out (hrender.symm.trans htext)
  refine ⟨hne, header, rule, lines, place, width, ?_, hlayout⟩
  simpa [Written.toOut, heading] using hlines

end Tables

end ParseBench.Console.Plain
