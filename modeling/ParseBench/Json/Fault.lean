set_option relaxedAutoImplicit false
set_option autoImplicit false

/-!
# Why a text is not JSON

## Main definitions

* `ParseBench.Json.Cause` — what was found wrong at one place.
* `ParseBench.Json.Fault` — why reading failed.
* `ParseBench.Json.Fault.message` — its wording, with line and column.
-/

namespace ParseBench.Json

/-- What is wrong at one place of a text. -/
inductive Cause where
  | expectingValue
  | expectingPropertyName
  | expectingColon
  | expectingComma
  | unterminatedText
  | controlCharacter
  | invalidEscape
  | invalidUnicodeEscape
  | extraData
  | byteOrderMark
deriving DecidableEq, Repr

/-- The wording of a cause. -/
def Cause.message : Cause → String
  | .expectingValue => "Expecting value"
  | .expectingPropertyName => "Expecting property name enclosed in double quotes"
  | .expectingColon => "Expecting ':' delimiter"
  | .expectingComma => "Expecting ',' delimiter"
  | .unterminatedText => "Unterminated string starting at"
  | .controlCharacter => "Invalid control character at"
  | .invalidEscape => "Invalid \\escape"
  | .invalidUnicodeEscape => "Invalid \\uXXXX escape"
  | .extraData => "Extra data"
  | .byteOrderMark => "Unexpected UTF-8 BOM (decode using utf-8-sig)"

/-- The two kinds of containers. -/
inductive Container where
  | array
  | object
deriving DecidableEq, Repr

/-- Why a text cannot be read. -/
inductive Fault where
  /-- The text is malformed at an offset, counted in characters. -/
  | malformed (cause : Cause) (offset : Nat)
  /-- An integer has too many digits. -/
  | tooManyDigits (count : Nat)
  /-- The containers are nested too deeply; `innermost` is the one that was one too many. -/
  | tooDeep (innermost : Container)
deriving DecidableEq, Repr

/-- Line and column of an offset, both counted from one; only LF ends a line. -/
def lineAndColumn (s : List Char) (offset : Nat) : Nat × Nat :=
  (s.take offset).foldl
    (fun (line, column) c => if c == '\n' then (line + 1, 1) else (line, column + 1)) (1, 1)

/-- The wording of a fault in the text `s`. -/
def Fault.message (s : String) : Fault → String
  | .malformed cause offset =>
    let (line, column) := lineAndColumn s.toList offset
    cause.message ++ ": line " ++ line.repr ++ " column " ++ column.repr ++ " (char " ++
      offset.repr ++ ")"
  | .tooManyDigits count =>
    "Exceeds the limit (4300 digits) for integer string conversion: value has " ++ count.repr ++
      " digits; use sys.set_int_max_str_digits() to increase the limit"
  | .tooDeep .array =>
    "maximum recursion depth exceeded while decoding a JSON array from a unicode string"
  | .tooDeep .object =>
    "maximum recursion depth exceeded while decoding a JSON object from a unicode string"

end ParseBench.Json
