import ParseBench.Text.Integer

set_option relaxedAutoImplicit false
set_option autoImplicit false

/-!
# Spacing

The characters that separate words: the blanks and four separating controls.

## Main definitions

* `ParseBench.Text.isSpace` — whether a character separates words.
* `ParseBench.Text.trimSpace`, `ParseBench.Text.trimSpaceEnd` — a text without the spacing at its
  ends.
* `ParseBench.Text.spaceWords` — the words of a text.
* `ParseBench.Text.splitLines` — the lines of a text, by any of the characters that end lines.
-/

namespace ParseBench.Text

/-- Whether a character separates words. -/
def isSpace (c : Char) : Bool := isBlank c || ('\x1c' ≤ c && c ≤ '\x1f')

/-- A text without the spacing at its end. -/
def trimSpaceEnd (s : List Char) : List Char := (s.reverse.dropWhile isSpace).reverse

/-- A text without the spacing at its two ends. -/
def trimSpace (s : List Char) : List Char := trimSpaceEnd (s.dropWhile isSpace)

/-- The words of a text; `word` is the word so far, in reverse. -/
def spaceWordsFrom (word : List Char) : List Char → List (List Char)
  | [] => if word.isEmpty then [] else [word.reverse]
  | c :: rest =>
    if isSpace c then
      if word.isEmpty then spaceWordsFrom [] rest else word.reverse :: spaceWordsFrom [] rest
    else spaceWordsFrom (c :: word) rest

/-- The words of a text. -/
def spaceWords (s : List Char) : List (List Char) := spaceWordsFrom [] s

/-- Whether a character ends a line. -/
def endsLine (c : Char) : Bool :=
  let n := c.toNat
  (10 ≤ n && n ≤ 13) || (0x1C ≤ n && n ≤ 0x1E) || n == 0x85 || n == 0x2028 || n == 0x2029

/-- The lines of a text; `line` is the line so far, in reverse. -/
def splitLinesFrom (line : List Char) : List Char → List (List Char)
  | [] => if line.isEmpty then [] else [line.reverse]
  | '\r' :: '\n' :: rest => line.reverse :: splitLinesFrom [] rest
  | c :: rest => if endsLine c then line.reverse :: splitLinesFrom [] rest else splitLinesFrom (c :: line) rest

/-- The lines of a text, by any of the characters that end lines. A line break at the end begins no
line. -/
def splitLines (s : List Char) : List (List Char) := splitLinesFrom [] s

end ParseBench.Text
