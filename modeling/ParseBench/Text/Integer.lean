import ParseBench.Text.DecimalDigit
import ParseBench.Text.Quoted

set_option relaxedAutoImplicit false
set_option autoImplicit false

/-!
# Integers written in decimal

An integer is read from a text that may be surrounded by blanks. It has an optional sign and digits
of any script; single underscores may stand between digits. In bases other than ten letters are
digits too, and a base of two, eight or sixteen may be announced in front. More than 4300 decimal
digits are refused, both when reading and when writing.

## Main definitions

* `ParseBench.Text.isBlank` — the blanks around a number.
* `ParseBench.Text.readInBase`, `ParseBench.Text.readInteger` — an integer from a text.
* `ParseBench.Text.writeInteger` — the digits of an integer.
-/

namespace ParseBench.Text

/-- The characters that may surround a number. -/
def isBlank (c : Char) : Bool :=
  let n := c.toNat
  (9 ≤ n && n ≤ 13) || n == 0x20 || n == 0x85 || n == 0xA0 || n == 0x1680 ||
    (0x2000 ≤ n && n ≤ 0x200A) || n == 0x2028 || n == 0x2029 || n == 0x202F || n == 0x205F ||
    n == 0x3000

/-- A text without the blanks at its two ends. -/
def trimBlanks (s : List Char) : List Char :=
  ((s.dropWhile isBlank).reverse.dropWhile isBlank).reverse

/-- The greatest number of digits of an integer that is read or written. -/
def maxDigits : Nat := 4300

/-- Why an integer cannot be read or written. -/
inductive IntegerFault where
  /-- The text is not an integer in a base. -/
  | malformed (base : Nat) (text : Points)
  /-- The text has more than `maxDigits` digits. -/
  | tooManyDigits (count : Nat)
  /-- The integer to be written has more than `maxDigits` digits. -/
  | tooLong
deriving DecidableEq, Repr

/-- The wording of a fault. The offending text is shown quoted, cut at two hundred characters. -/
def IntegerFault.message : IntegerFault → String
  | .malformed base text =>
    "invalid literal for int() with base " ++ base.repr ++ ": " ++
      String.ofList ((quotedPoints text).toList.take 200)
  | .tooManyDigits count =>
    "Exceeds the limit (4300 digits) for integer string conversion: value has " ++ count.repr ++
      " digits; use sys.set_int_max_str_digits() to increase the limit"
  | .tooLong =>
    "Exceeds the limit (4300 digits) for integer string conversion; use " ++
      "sys.set_int_max_str_digits() to increase the limit"

/-- The value of a digit in a base up to sixteen. -/
def digitIn? (base : Nat) (c : Char) : Option Nat :=
  let value := match decimalDigit? c with
    | some d => some d
    | none =>
      if 'a' ≤ c && c ≤ 'f' then some (c.toNat - 0x57)
      else if 'A' ≤ c && c ≤ 'F' then some (c.toNat - 0x37)
      else none
  value.filter (· < base)

/-- Digits at the front of a text, underscores between them skipped, and what follows. The flag
says that the last character was an underscore; `none` stands for a misplaced underscore. -/
def takeDigits (base : Nat) (afterUnderscore : Bool) (digits : List Nat) :
    List Char → Option (List Nat × List Char)
  | [] => if afterUnderscore then none else some (digits.reverse, [])
  | c :: rest =>
    match digitIn? base c with
    | some d => takeDigits base false (d :: digits) rest
    | none =>
      if c == '_' then
        if afterUnderscore || digits.isEmpty then none else takeDigits base true digits rest
      else if afterUnderscore then none
      else some (digits.reverse, c :: rest)

/-- The number written by a list of digits. -/
def ofDigits (base : Nat) (digits : List Nat) : Nat :=
  digits.foldl (fun n d => n * base + d) 0

/-- A sign at the front of a text (`true` for a minus) and what follows it. -/
def takeSign : List Char → Bool × List Char
  | '-' :: rest => (true, rest)
  | '+' :: rest => (false, rest)
  | rest => (false, rest)

/-- `n` or `-n`. -/
def signed (negative : Bool) (n : Nat) : Int :=
  if negative then -(n : Int) else n

/-- Drops the announcement of a base and one underscore after it. -/
def dropBase (base : Nat) : List Char → List Char
  | '0' :: c :: rest =>
    if (base == 16 && (c == 'x' || c == 'X')) || (base == 8 && (c == 'o' || c == 'O')) ||
        (base == 2 && (c == 'b' || c == 'B')) then
      match rest with
      | '_' :: rest => rest
      | rest => rest
    else '0' :: c :: rest
  | s => s

/-- Reads an integer in a base. A count of decimal digits over the limit is reported before anything
that follows the digits. -/
def readInBase (base : Nat) (s : Points) : Except IntegerFault Int :=
  let (negative, body) := takeSign (trimBlanks s.shape)
  match takeDigits base false [] (dropBase base body) with
  | none => .error (.malformed base s)
  | some (digits, rest) =>
    if digits.isEmpty then .error (.malformed base s)
    else if base == 10 && digits.length > maxDigits then .error (.tooManyDigits digits.length)
    else if rest.isEmpty then .ok (signed negative (ofDigits base digits))
    else .error (.malformed base s)

/-- Reads a decimal integer. -/
def readInteger (s : String) : Except IntegerFault Int :=
  readInBase 10 (.ofString s)

/-- The digits of an integer, with a minus in front of a negative one. -/
def intText (n : Int) : String :=
  match n with
  | .ofNat m => m.repr
  | .negSucc m => "-" ++ (m + 1).repr

/-- Writes an integer of at most `maxDigits` digits. -/
def writeInteger (n : Int) : Except IntegerFault String :=
  if n.natAbs < Nat.pow 10 maxDigits then .ok (intText n) else .error .tooLong

end ParseBench.Text
