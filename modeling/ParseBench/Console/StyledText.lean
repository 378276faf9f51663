import ParseBench.Console.Segment
import ParseBench.Text.Newlines

set_option relaxedAutoImplicit false
set_option autoImplicit false

/-!
# Texts with styles

A text in which ranges of characters have styles of their own. A text is broken into lines that fit
a width, between words where this is possible, and each line is placed in the width.

## Main definitions

* `ParseBench.Console.StyledText` — a text with styles.
* `ParseBench.Console.StyledText.divide` — the parts of a text between given places.
* `ParseBench.Console.StyledText.expandTabs` — spaces for tabs.
* `ParseBench.Console.breakPlaces` — where a line is broken to fit a width.
* `ParseBench.Console.StyledText.wrap` — the lines of a text that fit a width.
* `ParseBench.Console.StyledText.segments` — the segments of a line.
-/

namespace ParseBench.Console

open ParseBench.Text (cellWidth fitCells chopCells isSpace trimSpaceEnd)

/-- A range of characters and the style that it has. -/
structure Span where
  start : Nat
  stop : Nat
  style : Style
deriving DecidableEq, Repr

/-- A text, the style of all of it, and the styles of ranges of it. -/
structure StyledText where
  chars : List Char
  base : Option Style
  spans : List Span
deriving DecidableEq, Repr

/-- Where a line stands in its width. -/
inductive Align where
  /-- At the left, and nothing is filled up. -/
  | ragged
  | left
  | center
  | right
deriving DecidableEq, Repr

/-- What is done with a word that fits on no line. -/
inductive Overflow where
  /-- It goes on in the next line. -/
  | fold
  /-- Its end is left out, which dots show. -/
  | dots
deriving DecidableEq, Repr

namespace StyledText

/-- A text without styles. -/
def plain (chars : List Char) : StyledText := ⟨chars, none, []⟩

/-- A text of given characters in place of the present ones. Spans are cut when the text gets
shorter. -/
def setChars (t : StyledText) (chars : List Char) : StyledText :=
  if chars.length < t.chars.length then
    let kept := t.spans.filter fun s => s.start < chars.length
    { t with chars := chars, spans := kept.map fun s => { s with stop := min s.stop chars.length } }
  else { t with chars := chars }

/-- The characters from one place to another, with their styles. -/
def slice (t : StyledText) (low high : Nat) : StyledText :=
  { t with
    chars := (t.chars.take high).drop low
    spans := t.spans.filterMap fun s =>
      let start := s.start - low
      let stop := min (s.stop - low) (high - low)
      if start < stop then some { s with start := start, stop := stop } else none }

/-- The slices of a text from a place on. -/
def slicesFrom (t : StyledText) (low : Nat) : List Nat → List StyledText
  | [] => [t.slice low t.chars.length]
  | high :: rest => t.slice low high :: slicesFrom t high rest

/-- The parts of a text between given places, which are in order. -/
def divide (t : StyledText) (places : List Nat) : List StyledText :=
  if places.isEmpty then [t] else t.slicesFrom 0 places

/-- The places at which a character stands, counted from `place`. -/
def placesOf (c : Char) (place : Nat) : List Char → List Nat
  | [] => []
  | d :: rest => if c == d then place :: placesOf c (place + 1) rest else placesOf c (place + 1) rest

/-- The slices of a text from a place on between characters that stand at given places. -/
def linesFrom (t : StyledText) (low : Nat) : List Nat → List StyledText
  | [] => [t.slice low t.chars.length]
  | high :: rest => t.slice low high :: linesFrom t (high + 1) rest

/-- The lines of a text. -/
def lines (t : StyledText) : List StyledText :=
  match placesOf '\n' 0 t.chars with
  | [] => [t]
  | places => t.linesFrom 0 places

/-! ## Tabs -/

/-- Parts put together. The style of all of a part becomes a span. -/
def joinFrom (offset : Nat) : List StyledText → List Char × List Span
  | [] => ([], [])
  | t :: rest =>
    let (chars, spans) := joinFrom (offset + t.chars.length) rest
    let base := match t.base with
      | some style => [⟨offset, offset + t.chars.length, style⟩]
      | none => []
    (t.chars ++ chars,
      base ++ t.spans.map (fun s => ⟨s.start + offset, s.stop + offset, s.style⟩) ++ spans)

/-- Adds spaces in the style of the end of a text. -/
def extend (t : StyledText) (n : Nat) : StyledText :=
  { t with
    chars := t.chars ++ List.replicate n ' '
    spans := t.spans.map fun s => if t.chars.length ≤ s.stop then { s with stop := s.stop + n } else s }

/-- The distance of the stops of tabs. -/
def tabSize : Nat := 8

/-- Fills up parts that end in tabs; `column` is the number of cells before them. -/
def fillTabs (column : Nat) : List StyledText → List StyledText
  | [] => []
  | t :: rest =>
    if t.chars.getLast? == some '\t' then
      let t := { t with chars := t.chars.dropLast ++ [' '] }
      let column := column + cellWidth t.chars
      let more := (tabSize - column % tabSize) % tabSize
      t.extend more :: fillTabs (column + more) rest
    else t :: fillTabs (column + cellWidth t.chars) rest

/-- A line with spaces up to the next stop for every tab. -/
def expandTabs (t : StyledText) : StyledText :=
  match placesOf '\t' 0 t.chars with
  | [] => t
  | places =>
    let parts := t.divide (places.map (· + 1))
    let parts := if t.chars.getLast? == some '\t' then parts.dropLast else parts
    let (chars, spans) := joinFrom 0 (fillTabs 0 parts)
    { t with chars := chars, spans := spans }

end StyledText

/-! ## Breaking lines -/

/-- The words of a line with the spacing around them; `fuel` bounds their number. -/
def spacedWordsUpTo : Nat → List Char → List (List Char)
  | 0, _ => []
  | fuel + 1, s =>
    let before := s.takeWhile isSpace
    let rest := s.drop before.length
    let word := rest.takeWhile fun c => !isSpace c
    let rest := rest.drop word.length
    let after := rest.takeWhile isSpace
    if word.isEmpty then []
    else (before ++ word ++ after) :: spacedWordsUpTo fuel (rest.drop after.length)

/-- Where a line is broken so far, the last place first, the cells used since then, and the place of
the next word. -/
structure Breaks where
  places : List Nat
  cells : Nat
  place : Nat
deriving DecidableEq, Repr

namespace Breaks

/-- Breaks the line at a place, unless it is its beginning. -/
def breakAt (b : Breaks) (place : Nat) : Breaks :=
  if place == 0 then b else { b with places := place :: b.places }

/-- Breaks the line before every piece of a word; `place` is the place of the first of them. -/
def addPieces (place : Nat) (b : Breaks) : List (List Char) → Breaks
  | [] => b
  | piece :: rest => addPieces (place + piece.length) { b.breakAt place with cells := cellWidth piece } rest

/-- Adds a word: to the line if it fits, else on a line of its own, in pieces if it fits on none. -/
def add (width : Nat) (overflow : Overflow) (b : Breaks) (word : List Char) : Breaks :=
  let size := cellWidth (trimSpaceEnd word)
  let broken :=
    if b.cells + size ≤ width then { b with cells := b.cells + cellWidth word }
    else if width < size then
      match overflow with
      | .fold => addPieces b.place b (chopCells width word)
      | .dots => { b.breakAt b.place with cells := cellWidth word }
    else if b.cells != 0 && b.place != 0 then { b.breakAt b.place with cells := cellWidth word }
    else b
  { broken with place := b.place + word.length }

end Breaks

/-- The places at which a line is broken to fit a width. -/
def breakPlaces (width : Nat) (overflow : Overflow) (line : List Char) : List Nat :=
  ((spacedWordsUpTo line.length line).foldl (Breaks.add width overflow) ⟨[], 0, 0⟩).places.reverse

namespace StyledText

/-! ## Placing lines -/

/-- Leaves out spacing at the end as far as a line has more than `width` characters. -/
def trimExcess (width : Nat) (t : StyledText) : StyledText :=
  let n := t.chars.length
  t.setChars (t.chars.take (n - min (n - (trimSpaceEnd t.chars).length) (n - width)))

/-- A line cut to a width, if it is longer. -/
def truncate (width : Nat) (overflow : Overflow) (t : StyledText) : StyledText :=
  if width < cellWidth t.chars then
    t.setChars (match overflow with
      | .fold => fitCells width t.chars
      | .dots => fitCells (width - 1) t.chars ++ ['…'])
  else t

/-- A line with spaces before it. -/
def padLeft (n : Nat) (t : StyledText) : StyledText :=
  { t with
    chars := List.replicate n ' ' ++ t.chars
    spans := t.spans.map fun s => { s with start := s.start + n, stop := s.stop + n } }

/-- A line with spaces after it. -/
def padRight (n : Nat) (t : StyledText) : StyledText := { t with chars := t.chars ++ List.replicate n ' ' }

/-- A line placed in a width. -/
def place (align : Align) (width : Nat) (overflow : Overflow) (t : StyledText) : StyledText :=
  let trimmed := (t.setChars (trimSpaceEnd t.chars)).truncate width overflow
  match align with
  | .ragged => t.truncate width overflow
  | .left => (t.truncate width overflow).padRight (width - cellWidth t.chars)
  | .right => trimmed.padLeft (width - cellWidth trimmed.chars)
  | .center =>
    let t := trimmed.padLeft ((width - cellWidth trimmed.chars) / 2)
    t.padRight (width - cellWidth t.chars)

/-- The lines of a text that fit a width. -/
def wrap (align : Align) (width : Nat) (overflow : Overflow) (t : StyledText) : List StyledText :=
  t.lines.flatMap fun line =>
    let line := line.expandTabs
    (line.divide (breakPlaces width overflow line.chars)).map fun part =>
      ((part.trimExcess width).place align width overflow).truncate width overflow

/-! ## Segments -/

/-- The spans of a line, that of all of it first. -/
def allSpans (t : StyledText) : List Span :=
  (match t.base with
    | some style => [⟨0, t.chars.length, style⟩]
    | none => []) ++ t.spans

/-- The style at a place: later spans are on top of earlier ones. -/
def styleAt (spans : List Span) (place : Nat) : Style :=
  (spans.filter fun s => s.start ≤ place && place < s.stop).foldl (fun below s => s.style.onTopOf below) .none

/-- The segments between neighbouring places, the first of which is `low`. -/
def segmentsFrom (t : StyledText) (spans : List Span) (low : Nat) : List Nat → Line
  | [] => []
  | high :: rest =>
    if low < high then
      ⟨(t.chars.take high).drop low, styleAt spans low⟩ :: segmentsFrom t spans high rest
    else segmentsFrom t spans low rest

/-- The segments of a line: a new one begins where a span begins or ends. -/
def segments (t : StyledText) : Line :=
  let spans := t.allSpans
  let places := spans.flatMap (fun s => [s.start, s.stop]) ++ [t.chars.length]
  (t.segmentsFrom spans 0 (places.mergeSort)).filter fun s => !s.chars.isEmpty

end StyledText

end ParseBench.Console
