import ParseBench.Console.Style
import ParseBench.Text.CellWidth

set_option relaxedAutoImplicit false
set_option autoImplicit false

/-!
# Segments of a line

A line on the screen is a sequence of segments, each of one style.

## Main definitions

* `ParseBench.Console.Segment` — a piece of a line in one style.
* `ParseBench.Console.Line.fit`, `ParseBench.Console.Line.crop` — a line made to fit a width.
* `ParseBench.Console.Line.shown` — the characters that are written for a line.
-/

namespace ParseBench.Console

open ParseBench.Text (cellWidth fitCells)

/-- The total of several numbers of cells. -/
def totalOf (counts : List Nat) : Nat := counts.foldr (· + ·) 0

/-- A piece of a line in one style. -/
structure Segment where
  chars : List Char
  style : Style
deriving DecidableEq, Repr

namespace Segment

/-- Characters without a style. -/
def plain (chars : List Char) : Segment := ⟨chars, .none⟩

/-- A number of spaces. -/
def spaces (n : Nat) (style : Style) : Segment := ⟨List.replicate n ' ', style⟩

/-- The number of cells of a segment. -/
def cells (s : Segment) : Nat := cellWidth s.chars

/-- A segment on top of a style. -/
def on (below : Style) (s : Segment) : Segment := { s with style := s.style.onTopOf below }

/-- The characters that are written for a segment. Without colors, or without an effect of its
style, they are those of its text; an empty text never carries codes. -/
def shown (color : Bool) (s : Segment) : List Char :=
  let code := s.style.code
  if color && !s.chars.isEmpty && !code.isEmpty then
    "\x1b[".toList ++ code.toList ++ 'm' :: s.chars ++ "\x1b[0m".toList
  else s.chars

end Segment

/-- A line on the screen. -/
abbrev Line := List Segment

namespace Line

/-- The number of cells of a line. -/
def cells (line : Line) : Nat := totalOf (line.map Segment.cells)

/-- The beginning of a line that is too long. The segment in which it is cut is made to fit
exactly. -/
def cut (width : Nat) : Line → Line
  | [] => []
  | s :: rest =>
    if s.cells < width then s :: cut (width - s.cells) rest
    else [{ s with chars := fitCells width s.chars }]

/-- A line cut to a width, if it is longer. -/
def crop (width : Nat) (line : Line) : Line :=
  if width < cells line then cut width line else line

/-- A line cut, or filled up with spaces, to a width. -/
def fit (width : Nat) (filling : Style) (line : Line) : Line :=
  if cells line < width then line ++ [.spaces (width - cells line) filling] else crop width line

/-- The characters that are written for a line. -/
def shown (color : Bool) (line : Line) : List Char := line.flatMap (Segment.shown color)

end Line

end ParseBench.Console
