import ParseBench.Yaml.Cursor

set_option relaxedAutoImplicit false
set_option autoImplicit false

/-!
# Plain scalars

A scalar without quotes ends before a colon that is followed by a blank, before a comment, and where
the indentation falls back. Inside brackets it also ends before an indicator of the brackets'
syntax.

## Main definitions

* `ParseBench.Yaml.beginsPlain` — whether a plain scalar begins at a place.
* `ParseBench.Yaml.plainScalar` — a plain scalar at a place and the place after it.
-/

namespace ParseBench.Yaml

/-- The characters with which no plain scalar begins, unless noted otherwise. -/
def indicators : List Char :=
  ['-', '?', ':', ',', '[', ']', Char.ofNat 0x7B, Char.ofNat 0x7D, '#', '&', '*', '!', '|', '>',
   Char.ofNat 0x27, '"', '%', '@', Char.ofNat 0x60]

/-- The characters that end a plain scalar inside brackets. -/
def flowIndicators : List Char := [',', '?', '[', ']', Char.ofNat 0x7B, Char.ofNat 0x7D]

/-- Whether a plain scalar begins here. A dash, and outside brackets also a question mark or a
colon, begins one if no blank follows. -/
def beginsPlain (inFlow : Bool) (c : Cursor) : Bool :=
  match c.peek with
  | none => false
  | some ch =>
    !(ch == ' ' || ch == '\t' || isBreak ch || indicators.contains ch) ||
      (!isBlankOrEnd (c.peekAt 1) && (ch == '-' || (!inFlow && (ch == '?' || ch == ':'))))

/-- Whether a plain scalar ends before the character `ch`, which `after` follows. -/
def endsPlain (inFlow : Bool) (ch : Char) (after : Option Char) : Bool :=
  ch == ' ' || ch == '\t' || isBreak ch ||
    (ch == ':' && (isBlankOrEnd after ||
      (inFlow && after.any fun a => a != '?' && flowIndicators.contains a))) ||
    (inFlow && flowIndicators.contains ch)

/-- The number of characters up to the end of a plain scalar or the next blank. -/
def plainLength (inFlow : Bool) : List Char → Nat
  | [] => 0
  | ch :: rest => if endsPlain inFlow ch rest.head? then 0 else plainLength inFlow rest + 1

/-- Line breaks and spaces after a line break inside a plain scalar: the breaks, and the place after
them; `none` if a mark between documents follows a break. -/
def plainBreaks : Nat → Cursor → Option (List Char) × Cursor
  | 0, c => (some [], c)
  | fuel + 1, c =>
    match c.peek with
    | some ' ' => plainBreaks fuel c.next
    | _ =>
      match c.lineBreak? with
      | none => (some [], c)
      | some (b, c) =>
        if c.isDocumentMark then (none, c)
        else
          let (bs, c) := plainBreaks fuel c
          (bs.map (b :: ·), c)

/-- The blanks after a part of a plain scalar: what they contribute if another part follows, whether
a line was ended, and the place after them. `none` means that no part can follow. -/
def plainSpaces (c : Cursor) : Option (List Char) × Bool × Cursor :=
  let (blanks, c) := c.takeWhile (· == ' ')
  match c.lineBreak? with
  | none => (if blanks.isEmpty then none else some blanks, false, c)
  | some (b, c) =>
    if c.isDocumentMark then (none, true, c)
    else
      let (bs, c) := plainBreaks (c.rest.length + 1) c
      (bs.map fun bs => (if b != '\n' then [b] else if bs.isEmpty then [' '] else []) ++ bs, true, c)

/-- A plain scalar: its text, whether a line was ended after its last part, and the place after
it. -/
structure PlainScalar where
  text : List Char
  lineEnded : Bool
  cursor : Cursor
deriving Repr

/-- Reads parts of a plain scalar. `spaces` is what the blanks before the part contribute, and
`ended` says whether they ended a line. -/
def plainParts (inFlow : Bool) (indent : Int) (spaces : List Char) (ended : Bool) :
    Nat → Cursor → PlainScalar
  | 0, c => ⟨[], ended, c⟩
  | fuel + 1, c =>
    let length := if c.peek == some '#' then 0 else plainLength inFlow c.rest
    if length == 0 then ⟨[], ended, c⟩
    else
      let part := spaces ++ c.rest.take length
      match plainSpaces (c.advance length) with
      | (none, ended, c) => ⟨part, ended, c⟩
      | (some spaces, ended, c) =>
        if c.peek == some '#' || (!inFlow && (c.column : Int) < indent) then ⟨part, ended, c⟩
        else
          let more := plainParts inFlow indent spaces ended fuel c
          { more with text := part ++ more.text }

/-- A plain scalar at a place, for a block of the given indentation. -/
def plainScalar (inFlow : Bool) (indent : Int) (c : Cursor) : PlainScalar :=
  plainParts inFlow (indent + 1) [] false (c.rest.length + 1) c

end ParseBench.Yaml
