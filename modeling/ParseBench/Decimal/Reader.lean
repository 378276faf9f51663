import ParseBench.Decimal.Binary64
import ParseBench.Text.Integer

set_option relaxedAutoImplicit false
set_option autoImplicit false

/-!
# Reading floating-point numbers

A decimal numeral stands for the floating-point number nearest to it. A free-standing number may be
surrounded by blanks, may have underscores between digits, and may be one of the words for infinity
and NaN in any case.

## Main definitions

* `ParseBench.Decimal.ofScientific` — the number nearest to `digits · 10 ^ exponent`.
* `ParseBench.Decimal.read?` — the number written by a text.
-/

namespace ParseBench.Decimal

open ParseBench.Text

/-- The floating-point number nearest to `digits · 10 ^ exponent`. Exponents far outside the range
are decided without computing the power. -/
def ofScientific (negative : Bool) (digits : Nat) (exponent : Int) : Float :=
  let magnitude := exponent + (Nat.toDigits 10 digits).length
  if digits == 0 || magnitude < -400 then nearest negative 0 1
  else if 400 < magnitude then nearest negative (Nat.pow 2 1024) 1
  else if exponent < 0 then nearest negative digits (Nat.pow 10 (-exponent).toNat)
  else nearest negative (digits * Nat.pow 10 exponent.toNat) 1

/-- An infinity. -/
def infinity (negative : Bool) : Float :=
  nearest negative (Nat.pow 2 1024) 1

/-- The NaN. -/
def notANumber : Float := Float.ofBits 0x7FF8000000000000

/-- Digits with single underscores between them at the front of a text, possibly none. -/
def digitsOrNone (s : List Char) : Option (List Nat × List Char) :=
  match s with
  | '_' :: _ => none
  | _ => takeDigits 10 false [] s

/-- The exponent part of a numeral, `0` if there is none; the text has to end with it. -/
def exponentPart : List Char → Option Int
  | [] => some 0
  | c :: rest =>
    if c == 'e' || c == 'E' then
      let (negative, body) := takeSign rest
      match digitsOrNone body with
      | some (digits, []) => if digits.isEmpty then none else some (signed negative (ofDigits 10 digits))
      | _ => none
    else none

/-- A numeral without a sign: digits, a point, digits, an exponent. -/
def numeral (negative : Bool) (s : List Char) : Option Float := do
  let (whole, rest) ← digitsOrNone s
  let (part, rest) ← match rest with
    | '.' :: rest => digitsOrNone rest
    | _ => some ([], rest)
  if whole.isEmpty && part.isEmpty then none
  else
    let e ← exponentPart rest
    some (ofScientific negative (ofDigits 10 (whole ++ part)) (e - part.length))

/-- The floating-point number written by a text. -/
def read? (s : String) : Option Float :=
  let (negative, body) := takeSign (trimBlanks s.toList)
  let word := String.ofList (body.map Char.toLower)
  if word == "inf" || word == "infinity" then some (infinity negative)
  else if word == "nan" then some notANumber
  else numeral negative body

end ParseBench.Decimal
