import ParseBench.Decimal.Reader
import ParseBench.Json.Fault
import ParseBench.Json.Value

set_option relaxedAutoImplicit false
set_option autoImplicit false

/-!
# JSON tokens

A token is read from the first character of it and the characters after it. Reading never fails: a
character that begins no token is a token of its own, and a damaged string is a token that carries
its fault, so that the grammar decides which fault is reported.

## Main definitions

* `ParseBench.Json.Token` — the tokens.
* `ParseBench.Json.Token.read` — the token at the front of a text and its length.
-/

namespace ParseBench.Json

open ParseBench.Text (ofDigits CodePoint Points)

/-- A token. -/
inductive Token where
  | openArray
  | closeArray
  | openObject
  | closeObject
  | comma
  | colon
  | text (s : Points)
  /-- A damaged string: the fault and its offset from the opening quote. -/
  | badText (cause : Cause) (offset : Nat)
  | int (negative : Bool) (digits : List Nat)
  | scalar (v : Value)
  /-- A character that begins no token. -/
  | junk
deriving Repr

/-- The blanks between tokens. -/
def isBlank (c : Char) : Bool :=
  c == ' ' || c == '\t' || c == '\n' || c == '\r'

/-! ## Strings -/

/-- The value of a hexadecimal digit. -/
def hexValue? (c : Char) : Option Nat :=
  if c.isDigit then some (c.toNat - 0x30)
  else if 'a' ≤ c && c ≤ 'f' then some (c.toNat - 0x57)
  else if 'A' ≤ c && c ≤ 'F' then some (c.toNat - 0x37)
  else none

/-- The number written by four hexadecimal digits. -/
def hexQuad? (a b c d : Char) : Option Nat := do
  let a ← hexValue? a
  let b ← hexValue? b
  let c ← hexValue? c
  let d ← hexValue? d
  some (((a * 16 + b) * 16 + c) * 16 + d)

/-- The character written by a backslash and a letter. -/
def simpleEscape? (c : Char) : Option Char :=
  if c == '"' || c == '\\' || c == '/' then some c
  else if c == 'b' then some (Char.ofNat 8)
  else if c == 'f' then some (Char.ofNat 12)
  else if c == 'n' then some '\n'
  else if c == 'r' then some '\r'
  else if c == 't' then some '\t'
  else none

/-- Whether a number is the first half of a surrogate pair. -/
def isHighSurrogate (n : Nat) : Bool := 0xD800 ≤ n && n < 0xDC00

/-- Whether a number is the second half of a surrogate pair. -/
def isLowSurrogate (n : Nat) : Bool := 0xDC00 ≤ n && n < 0xE000

/-- The code point of a 16-bit number that is not half of a pair. -/
def codePoint (n : Nat) : CodePoint :=
  if isHighSurrogate n || isLowSurrogate n then .surrogate n.toUInt16 else .char (Char.ofNat n)

/-- The character of a surrogate pair. -/
def joinSurrogates (high low : Nat) : Char :=
  Char.ofNat (0x10000 + (high - 0xD800) * 0x400 + (low - 0xDC00))

/-- The low half of a surrogate pair written by an escape at the front of a text in which at least
one character follows the escape. -/
def lowEscape? : List Char → Option Nat
  | '\\' :: 'u' :: a :: b :: c :: d :: _ :: _ => (hexQuad? a b c d).filter isLowSurrogate
  | _ => none

/-- Reads the rest of a string. `at'` is the offset of the next character from the opening quote and
`skip` counts characters of an escape already read. A sound string gives its content and the offset
of the closing quote. -/
def readText (at' skip : Nat) (read : Points) : List Char → Token × Nat
  | [] => (.badText .unterminatedText 0, 0)
  | c :: rest =>
    match skip with
    | skip + 1 => readText (at' + 1) skip read rest
    | 0 =>
      if c == '"' then (.text read.reverse, at')
      else if c.val ≤ 0x1F then (.badText .controlCharacter at', 0)
      else if c != '\\' then readText (at' + 1) 0 (.char c :: read) rest
      else match rest with
        | [] => (.badText .unterminatedText 0, 0)
        | 'u' :: a :: b :: e :: d :: tail =>
          if tail.isEmpty then (.badText .invalidUnicodeEscape (at' + 1), 0)
          else match hexQuad? a b e d with
            | none => (.badText .invalidUnicodeEscape (at' + 1), 0)
            | some n =>
              match (if isHighSurrogate n then lowEscape? tail else none) with
              | some low => readText (at' + 1) 11 (.char (joinSurrogates n low) :: read) rest
              | none => readText (at' + 1) 5 (codePoint n :: read) rest
        | 'u' :: _ => (.badText .invalidUnicodeEscape (at' + 1), 0)
        | x :: _ =>
          match simpleEscape? x with
          | some y => readText (at' + 1) 1 (.char y :: read) rest
          | none => (.badText .invalidEscape at', 0)

/-! ## Numbers -/

/-- The digits at the front of a text. -/
def leadingDigits (s : List Char) : List Char := s.takeWhile Char.isDigit

/-- The value of an ASCII digit. -/
def digitValue (c : Char) : Nat := c.toNat - 0x30

/-- The digits after a point at the front of a text; none if no digit follows the point. -/
def fractionDigits : List Char → List Char
  | '.' :: rest => leadingDigits rest
  | _ => []

/-- The exponent at the front of a text and its length; `none` if there is no whole exponent. -/
def exponentAt : List Char → Option (Int × Nat)
  | c :: rest =>
    if c == 'e' || c == 'E' then
      let (negative, body) := ParseBench.Text.takeSign rest
      let digits := leadingDigits body
      if digits.isEmpty then none
      else some (ParseBench.Text.signed negative (ofDigits 10 (digits.map digitValue)),
        1 + (rest.length - body.length) + digits.length)
    else none
  | [] => none

/-- The number at the front of a text without its sign, and its length. -/
def readNumber (negative : Bool) (s : List Char) : Option (Token × Nat) :=
  let whole := match s with
    | '0' :: _ => ['0']
    | _ => leadingDigits s
  if whole.isEmpty then none
  else
    let rest := s.drop whole.length
    let fraction := fractionDigits rest
    let consumed := if fraction.isEmpty then 0 else fraction.length + 1
    match exponentAt (rest.drop consumed) with
    | some (e, length) =>
      some (.scalar (.float (Decimal.ofScientific negative
        (ofDigits 10 ((whole ++ fraction).map digitValue)) (e - fraction.length))),
        whole.length + consumed + length)
    | none =>
      if fraction.isEmpty then some (.int negative (whole.map digitValue), whole.length)
      else
        some (.scalar (.float (Decimal.ofScientific negative
          (ofDigits 10 ((whole ++ fraction).map digitValue)) (-fraction.length))),
          whole.length + consumed)

/-! ## Tokens -/

/-- The words that stand for values. -/
def words : List (List Char × Value) :=
  [("null".toList, .null), ("true".toList, .bool true), ("false".toList, .bool false),
   ("NaN".toList, .float Decimal.notANumber), ("Infinity".toList, .float (Decimal.infinity false)),
   ("-Infinity".toList, .float (Decimal.infinity true))]

/-- The token that begins with `c`, and how many characters after `c` belong to it. -/
def Token.read (c : Char) (rest : List Char) : Token × Nat :=
  if c == '"' then readText 1 0 [] rest
  else if c == '[' then (.openArray, 0)
  else if c == ']' then (.closeArray, 0)
  else if c == Char.ofNat 0x7B then (.openObject, 0)
  else if c == Char.ofNat 0x7D then (.closeObject, 0)
  else if c == ',' then (.comma, 0)
  else if c == ':' then (.colon, 0)
  else match words.find? fun w => w.1.isPrefixOf (c :: rest) with
    | some (word, v) => (.scalar v, word.length - 1)
    | none =>
      if c == '-' then
        match readNumber true rest with
        | some (token, length) => (token, length)
        | none => (.junk, 0)
      else match readNumber false (c :: rest) with
        | some (token, length) => (token, length - 1)
        | none => (.junk, 0)

end ParseBench.Json
