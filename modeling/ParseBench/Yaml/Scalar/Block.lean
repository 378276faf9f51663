import ParseBench.Yaml.Cursor
import ParseBench.Yaml.Fault

set_option relaxedAutoImplicit false
set_option autoImplicit false

/-!
# Block scalars

A scalar that consists of indented lines, either as they are or folded. Its header may give the
indentation and say what happens to the line breaks at the end.

## Main definitions

* `ParseBench.Yaml.blockScalar` — a block scalar at a place and the place after it.
-/

namespace ParseBench.Yaml

/-- What happens to the line breaks at the end of a block scalar: one is kept, none, or all. -/
inductive Chomping where
  | clip
  | strip
  | keep
deriving DecidableEq, Repr

/-- The chomping of an indicator. -/
def Chomping.ofChar? (c : Char) : Option Chomping :=
  if c == '+' then some .keep else if c == '-' then some .strip else none

/-- The indentation given by a digit; nought is none. -/
def increment (c : Char) : Except Fault (Option Nat) :=
  if !c.isDigit then .ok none
  else if c == '0' then .error (.malformed "expected indentation indicator in the range 1-9")
  else .ok (some (c.toNat - 0x30))

/-- The header of a block scalar: chomping and indentation in either order. -/
def blockHeader (c : Cursor) : Except Fault (Chomping × Option Nat × Cursor) := do
  let finish (chomping : Chomping) (n : Option Nat) (c : Cursor) :
      Except Fault (Chomping × Option Nat × Cursor) :=
    if isSpaceOrEnd c.peek then .ok (chomping, n, c)
    else .error (.malformed "expected chomping or indentation indicators")
  match c.peek with
  | none => finish .clip none c
  | some ch =>
    match Chomping.ofChar? ch with
    | some chomping =>
      match c.next.peek with
      | none => finish chomping none c.next
      | some d =>
        let n ← increment d
        finish chomping n (if n.isSome then c.next.next else c.next)
    | none =>
      match ← increment ch with
      | none => finish .clip none c
      | some n =>
        match c.next.peek.bind Chomping.ofChar? with
        | some chomping => finish chomping (some n) c.next.next
        | none => finish .clip (some n) c.next

/-- The rest of a line that holds nothing but blanks and a comment, and its line break. -/
def ignoredLine (c : Cursor) : Except Fault Cursor :=
  let c := c.skipWhile (· == ' ')
  let c := if c.peek == some '#' then c.skipWhile fun ch => !isBreak ch else c
  if isBreakOrEnd c.peek then .ok c.skipBreak
  else .error (.malformed "expected a comment or a line break")

/-- The line breaks before the first line with text, and the greatest number of spaces in front of
any of these lines. -/
def leadingBreaks (most : Nat) : Nat → Cursor → List Char × Nat × Cursor
  | 0, c => ([], most, c)
  | fuel + 1, c =>
    match c.lineBreak? with
    | some (b, c) =>
      let (bs, most, c) := leadingBreaks most fuel c
      (b :: bs, most, c)
    | none =>
      if c.peek == some ' ' then leadingBreaks (max most c.next.column) fuel c.next
      else ([], most, c)

/-- Skips spaces up to a column. -/
def skipIndent (indent : Nat) (c : Cursor) : Cursor :=
  c.advance ((c.rest.take (indent - c.column)).takeWhile (· == ' ')).length

/-- The line breaks of empty lines, each after at most `indent` spaces. -/
def emptyLines (indent : Nat) : Nat → Cursor → List Char × Cursor
  | 0, c => ([], c)
  | fuel + 1, c =>
    let c := skipIndent indent c
    match c.lineBreak? with
    | none => ([], c)
    | some (b, c) =>
      let (bs, c) := emptyLines indent fuel c
      (b :: bs, c)

/-- Whether a place is in a line of the scalar. -/
def inBlock (indent : Nat) (c : Cursor) : Bool :=
  c.column == indent && c.peek.isSome

/-- Whether the next character is a blank. -/
def atBlank (c : Cursor) : Bool :=
  c.peek == some ' ' || c.peek == some '\t'

/-- The lines of a block scalar: their text, the last line break and the empty lines after it. -/
def blockLines (folded : Bool) (indent : Nat) (breaks : List Char) :
    Nat → Cursor → List Char × List Char × List Char × Cursor
  | 0, c => ([], [], breaks, c)
  | fuel + 1, c =>
    if !inBlock indent c then ([], [], breaks, c)
    else
      let leadingText := !atBlank c
      let (line, c) := c.takeWhile fun ch => !isBreak ch
      let (lineBreak, c) : List Char × Cursor := match c.lineBreak? with
        | some (b, c) => ([b], c)
        | none => ([], c)
      let (after, c) := emptyLines indent (c.rest.length + 1) c
      if inBlock indent c then
        let joint :=
          if folded && lineBreak == ['\n'] && leadingText && !atBlank c then
            if after.isEmpty then [' '] else []
          else lineBreak
        let (text, last, tail, c) := blockLines folded indent after fuel c
        (breaks ++ line ++ joint ++ text, last, tail, c)
      else (breaks ++ line, lineBreak, after, c)

/-- A block scalar at a place where its indicator stands, for a block of the given indentation, and
the place after it. -/
def blockScalar (folded : Bool) (blockIndent : Int) (c : Cursor) :
    Except Fault (List Char × Cursor) := do
  let (chomping, n, c) ← blockHeader c.next
  let c ← ignoredLine c
  let least := max (blockIndent + 1) 1 |>.toNat
  let (breaks, indent, c) := match n with
    | none =>
      let (breaks, most, c) := leadingBreaks 0 (c.rest.length + 1) c
      (breaks, max least most, c)
    | some n =>
      let indent := least + n - 1
      let (breaks, c) := emptyLines indent (c.rest.length + 1) c
      (breaks, indent, c)
  let (text, last, tail, c) := blockLines folded indent breaks (c.rest.length + 1) c
  return (text ++ (if chomping == .strip then [] else last) ++
    (if chomping == .keep then tail else []), c)

end ParseBench.Yaml
