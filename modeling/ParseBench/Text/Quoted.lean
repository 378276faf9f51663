import ParseBench.Text.CodePoint
import ParseBench.Text.Printable

set_option relaxedAutoImplicit false
set_option autoImplicit false

/-!
# Quoted text

Messages show a text between quotes. The quote is the apostrophe, unless the text holds an
apostrophe and no double quote. A backslash, the chosen quote and every unprintable character are
escaped, the latter by the shortest of the forms of two, four and eight hexadecimal digits.

## Main definitions

* `ParseBench.Text.hexDigits` — a number in lower-case hexadecimal, padded with noughts.
* `ParseBench.Text.quoted`, `ParseBench.Text.quotedPoints` — the quoted form of a text.
-/

namespace ParseBench.Text

/-- The apostrophe. -/
def apostrophe : Char := Char.ofNat 0x27

/-- The double quote. -/
def doubleQuote : Char := Char.ofNat 0x22

/-- `n` in lower-case hexadecimal, with at least `width` digits. -/
def hexDigits (width n : Nat) : List Char :=
  let ds := Nat.toDigits 16 n
  List.replicate (width - ds.length) '0' ++ ds

/-- The quote around a text: the double quote only where that saves escaping an apostrophe. -/
def quoteFor (s : List Char) : Char :=
  if s.contains apostrophe && !s.contains doubleQuote then doubleQuote else apostrophe

/-- One character of a text between the quotes `q`. -/
def escapeChar (q c : Char) : List Char :=
  if c == q || c == '\\' then ['\\', c]
  else if c == '\n' then ['\\', 'n']
  else if c == '\r' then ['\\', 'r']
  else if c == '\t' then ['\\', 't']
  else if isPrintable c then [c]
  else if c.toNat < 0x100 then '\\' :: 'x' :: hexDigits 2 c.toNat
  else if c.toNat < 0x10000 then '\\' :: 'u' :: hexDigits 4 c.toNat
  else '\\' :: 'U' :: hexDigits 8 c.toNat

/-- The quoted form of a list of characters. -/
def quotedChars (s : List Char) : List Char :=
  let q := quoteFor s
  q :: s.flatMap (escapeChar q) ++ [q]

/-- The quoted form of a text. -/
def quoted (s : String) : String :=
  String.ofList (quotedChars s.toList)

/-- One code point of a text between the quotes `q`. -/
def escapePoint (q : Char) : CodePoint → List Char
  | .char c => escapeChar q c
  | .surrogate unit => '\\' :: 'u' :: hexDigits 4 unit.toNat

/-- The quoted form of a text of code points. -/
def quotedPoints (s : Points) : String :=
  let q := quoteFor s.shape
  String.ofList (q :: s.flatMap (escapePoint q) ++ [q])

end ParseBench.Text
