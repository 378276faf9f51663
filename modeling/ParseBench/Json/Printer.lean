import ParseBench.Decimal.Shortest
import ParseBench.Json.Value

set_option relaxedAutoImplicit false
set_option autoImplicit false

/-!
# Writing JSON

The output is ASCII: all other characters are written as escapes of 16-bit units. There are two
layouts, a compact one without any blanks and one with an item a line, indented by two spaces a
level.

## Main definitions

* `ParseBench.Json.compact` — the compact layout.
* `ParseBench.Json.indented` — the layout with an item a line.
-/

namespace ParseBench.Json

open ParseBench.Text (hexDigits intText CodePoint Points)

/-- The escape of a 16-bit unit. -/
def unitEscape (n : Nat) : List Char :=
  '\\' :: 'u' :: hexDigits 4 n

/-- A character inside a string. -/
def charText (c : Char) : List Char :=
  if c == '"' || c == '\\' then ['\\', c]
  else if c == '\n' then ['\\', 'n']
  else if c == '\r' then ['\\', 'r']
  else if c == '\t' then ['\\', 't']
  else if c == Char.ofNat 8 then ['\\', 'b']
  else if c == Char.ofNat 12 then ['\\', 'f']
  else if ' ' ≤ c && c ≤ '~' then [c]
  else if c.toNat < 0x10000 then unitEscape c.toNat
  else
    let n := c.toNat - 0x10000
    unitEscape (0xD800 + n / 0x400) ++ unitEscape (0xDC00 + n % 0x400)

/-- A code point inside a string. -/
def codePointText : CodePoint → List Char
  | .char c => charText c
  | .surrogate unit => unitEscape unit.toNat

/-- A string with its quotes. -/
def textChars (s : Points) : List Char :=
  '"' :: s.flatMap codePointText ++ ['"']

/-- A floating-point number; the values that are not finite have words of their own. -/
def floatChars (x : Float) : List Char :=
  match Decimal.Binary64.ofFloat x with
  | .nan => "NaN".toList
  | .infinite negative => if negative then "-Infinity".toList else "Infinity".toList
  | .finite .. => (Decimal.text x).toList

/-- The brace that opens an object. -/
def openBrace : Char := Char.ofNat 0x7B

/-- The brace that closes an object. -/
def closeBrace : Char := Char.ofNat 0x7D

mutual

/-- A value without blanks. -/
def compactChars : Value → List Char
  | .null => "null".toList
  | .bool b => if b then "true".toList else "false".toList
  | .int n => (intText n).toList
  | .float x => floatChars x
  | .text s => textChars s
  | .array items => '[' :: compactItems items ++ [']']
  | .object fields => openBrace :: compactFields fields ++ [closeBrace]

/-- Items with commas between them. -/
def compactItems : List Value → List Char
  | [] => []
  | [v] => compactChars v
  | v :: rest => compactChars v ++ ',' :: compactItems rest

/-- Fields with commas between them. -/
def compactFields : List (Points × Value) → List Char
  | [] => []
  | [(k, v)] => textChars k ++ ':' :: compactChars v
  | (k, v) :: rest => textChars k ++ ':' :: compactChars v ++ ',' :: compactFields rest

end

/-- The compact layout of a value. -/
def compact (v : Value) : String :=
  String.ofList (compactChars v)

/-- A line break followed by the indentation of a level. -/
def newLine (level : Nat) : List Char :=
  '\n' :: List.replicate (2 * level) ' '

mutual

/-- A value at a level of indentation, with an item a line. -/
def indentedChars (level : Nat) : Value → List Char
  | .array (v :: rest) =>
    '[' :: newLine (level + 1) ++ indentedItems (level + 1) (v :: rest) ++ newLine level ++ [']']
  | .object (f :: rest) =>
    openBrace :: newLine (level + 1) ++ indentedFields (level + 1) (f :: rest) ++
      newLine level ++ [closeBrace]
  | v => compactChars v

/-- The items of an array, a line each. -/
def indentedItems (level : Nat) : List Value → List Char
  | [] => []
  | [v] => indentedChars level v
  | v :: rest => indentedChars level v ++ ',' :: newLine level ++ indentedItems level rest

/-- The fields of an object, a line each. -/
def indentedFields (level : Nat) : List (Points × Value) → List Char
  | [] => []
  | [(k, v)] => textChars k ++ ':' :: ' ' :: indentedChars level v
  | (k, v) :: rest =>
    textChars k ++ ':' :: ' ' :: indentedChars level v ++ ',' :: newLine level ++
      indentedFields level rest

end

/-- The layout of a value with an item a line. -/
def indented (v : Value) : String :=
  String.ofList (indentedChars 0 v)

end ParseBench.Json
