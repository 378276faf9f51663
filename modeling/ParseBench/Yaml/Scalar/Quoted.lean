import ParseBench.Json.Token
import ParseBench.Yaml.Cursor
import ParseBench.Yaml.Fault

set_option relaxedAutoImplicit false
set_option autoImplicit false

/-!
# Quoted scalars

A scalar between single or double quotes. Line breaks inside are folded, and between double quotes a
backslash begins an escape.

## Main definitions

* `ParseBench.Yaml.quotedScalar` — a quoted scalar at a place and the place after it.
-/

namespace ParseBench.Yaml

open ParseBench.Text (apostrophe doubleQuote ofDigits CodePoint Points)

/-- The two kinds of quotes. -/
inductive Quote where
  | single
  | double
deriving DecidableEq, Repr

/-- The character of a quote. -/
def Quote.char : Quote → Char
  | .single => apostrophe
  | .double => doubleQuote

/-- The characters written by a backslash and one more character. -/
def simpleEscapes : List (Char × Nat) :=
  [('0', 0), ('a', 7), ('b', 8), ('t', 9), ('\t', 9), ('n', 10), ('v', 11), ('f', 12), ('r', 13),
   ('e', 27), (' ', 32), ('"', 34), ('\\', 92), ('/', 47), ('N', 0x85), ('_', 0xA0), ('L', 0x2028),
   ('P', 0x2029)]

/-- The escapes that are followed by hexadecimal digits, and the number of those. -/
def numericEscapes : List (Char × Nat) := [('x', 2), ('u', 4), ('U', 8)]

/-- The code point of a number. -/
def escapedPoint (n : Nat) : Except Fault CodePoint :=
  if 0x7FFFFFFF < n then .error (.scalar .codePointSize)
  else if 0x10FFFF < n then .error (.scalar .codePoint)
  else .ok (.ofNumber n)

/-- Line breaks with the blanks around them, the breaks given as characters. -/
def foldedBreaks : Nat → Cursor → Except Fault (List Char × Cursor)
  | 0, c => .ok ([], c)
  | fuel + 1, c =>
    if c.isDocumentMark then .error (.malformed "found unexpected document separator")
    else
      let c := c.skipWhile fun ch => ch == ' ' || ch == '\t'
      match c.lineBreak? with
      | none => .ok ([], c)
      | some (b, c) => do
        let (bs, c) ← foldedBreaks fuel c
        return (b :: bs, c)

/-- Blanks inside a scalar. Blanks on one line stand for themselves; a single line break becomes a
space, and further ones stand for themselves. -/
def quotedSpaces (c : Cursor) : Except Fault (List Char × Cursor) :=
  let (blanks, c) := c.takeWhile fun ch => ch == ' ' || ch == '\t'
  match c.peek with
  | none => .error (.malformed "found unexpected end of stream")
  | some _ =>
    match c.lineBreak? with
    | none => .ok (blanks, c)
    | some (b, c) => do
      let (bs, c) ← foldedBreaks (c.rest.length + 1) c
      return ((if b != '\n' then [b] else if bs.isEmpty then [' '] else []) ++ bs, c)

/-- An escape, the cursor standing after its backslash. -/
def quotedEscape (c : Cursor) : Except Fault (Points × Cursor) :=
  match c.peek with
  | none => .error (.malformed "found unknown escape character")
  | some ch =>
    match simpleEscapes.lookup ch, numericEscapes.lookup ch with
    | some n, _ => .ok ([.ofNumber n], c.next)
    | none, some length =>
      let digits := (c.next.rest.take length).filterMap Json.hexValue?
      if digits.length == length then do
        return ([← escapedPoint (ofDigits 16 digits)], c.advance (length + 1))
      else .error (.malformed "expected escape sequence of hexadecimal numbers")
    | none, none =>
      match c.lineBreak? with
      | some (_, c) => do
        let (breaks, c) ← foldedBreaks (c.rest.length + 1) c
        return (.ofChars breaks, c)
      | none => .error (.malformed "found unknown escape character")

/-- Whether a character stands for itself inside both kinds of quotes. -/
def isQuotedPlain (ch : Char) : Bool :=
  !(ch == apostrophe || ch == doubleQuote || ch == '\\' || ch == ' ' || ch == '\t' || isBreak ch)

/-- The rest of a scalar after its opening quote, and the place after its closing quote. -/
def quotedBody (q : Quote) : Nat → Cursor → Except Fault (Points × Cursor)
  | 0, _ => .error (.malformed "found unexpected end of stream")
  | fuel + 1, c => do
    let continue' (part : Points) (c : Cursor) : Except Fault (Points × Cursor) := do
      let (more, c) ← quotedBody q fuel c
      return (part ++ more, c)
    match c.rest with
    | [] => .error (.malformed "found unexpected end of stream")
    | ch :: after =>
      if isQuotedPlain ch then
        let (part, c) := c.takeWhile isQuotedPlain
        continue' (.ofChars part) c
      else if ch == q.char then
        if q == .single && after.head? == some apostrophe then continue' [.char apostrophe] (c.advance 2)
        else return ([], c.next)
      else if ch == apostrophe || ch == doubleQuote || (ch == '\\' && q == .single) then
        continue' [.char ch] c.next
      else if ch == '\\' then
        let (part, c) ← quotedEscape c.next
        continue' part c
      else
        let (part, c) ← quotedSpaces c
        continue' (.ofChars part) c

/-- A quoted scalar at a place where its opening quote stands, and the place after it. -/
def quotedScalar (q : Quote) (c : Cursor) : Except Fault (Points × Cursor) :=
  quotedBody q (c.rest.length + 1) c.next

end ParseBench.Yaml
