import ParseBench.Decimal.Binary64

set_option relaxedAutoImplicit false
set_option autoImplicit false

/-!
# Numbers with a fixed number of decimal places

The exact value is rounded to the given number of places, a tie going to the even neighbour. The
sign of a negative number is kept even if all digits are nought.

## Main definitions

* `ParseBench.Decimal.fixed` — a number with a fixed number of places.
* `ParseBench.Decimal.fixedGrouped` — the same with commas between groups of three digits.
-/

namespace ParseBench.Decimal

/-- Inserts commas between groups of three, given the digits from the last to the first and the
number of digits since the last comma. -/
def groupReversed : Nat → List Char → List Char
  | _, [] => []
  | 3, c :: rest => ',' :: c :: groupReversed 1 rest
  | n, c :: rest => c :: groupReversed (n + 1) rest

/-- Inserts commas between groups of three digits, counted from the right. -/
def groupThousands (digits : List Char) : List Char :=
  (groupReversed 0 digits.reverse).reverse

/-- The digits of `n / 10 ^ places`, with `group` applied to those before the point. -/
def placeDigits (group : List Char → List Char) (places n : Nat) : List Char :=
  let whole := Nat.toDigits 10 (n / Nat.pow 10 places)
  let part := Nat.toDigits 10 (n % Nat.pow 10 places)
  if places == 0 then group whole
  else group whole ++ '.' :: List.replicate (places - part.length) '0' ++ part

/-- A number with `places` decimal places, the digits before the point passed through `group`. -/
def fixedWith (group : List Char → List Char) (places : Nat) (x : Float) : String :=
  match Binary64.ofFloat x with
  | .nan => "nan"
  | .infinite negative => if negative then "-inf" else "inf"
  | .finite negative mantissa exponent =>
    let (num, den) := scaleTwo (mantissa * Nat.pow 10 places) 1 exponent
    (if negative then "-" else "") ++ String.ofList (placeDigits group places (roundDiv num den))

/-- A number with `places` decimal places. -/
def fixed (places : Nat) (x : Float) : String :=
  fixedWith id places x

/-- A number with `places` decimal places and commas between groups of three digits. -/
def fixedGrouped (places : Nat) (x : Float) : String :=
  fixedWith groupThousands places x

end ParseBench.Decimal
