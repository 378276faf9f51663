import ParseBench.Decimal.Binary64
import ParseBench.Text.Integer

set_option relaxedAutoImplicit false
set_option autoImplicit false

/-!
# Shortest decimal text of a floating-point number

A number is written with the fewest digits that read back as the same number; of several such
decimals the nearest one is chosen. The notation is positional while the decimal exponent lies
between -4 and 15, and keeps at least one digit after the point; outside that range it is
scientific, with a signed exponent of at least two digits.

## Main definitions

* `ParseBench.Decimal.shortest` — digits and decimal exponent of a positive number.
* `ParseBench.Decimal.text` — the text of a number.
-/

namespace ParseBench.Decimal

/-- Multiplies by a power of ten on the side where the exponent is not negative. -/
def scaleTen (num den : Nat) (e : Int) : Nat × Nat :=
  if e < 0 then (num, den * Nat.pow 10 (-e).toNat) else (num * Nat.pow 10 e.toNat, den)

/-- The number of digits before the decimal point of a positive quotient: the least `p` with
`num / den < 10 ^ p`. The three candidates come from the binary logarithm. -/
def leadingDecimal (num den : Nat) : Int :=
  let guess := Int.fdiv (((num.log2 : Int) - den.log2 - 1) * 30103) 100000
  let below (p : Int) : Bool := let (a, b) := scaleTen num den (-p); a < b
  if below guess then guess
  else if below (guess + 1) then guess + 1
  else guess + 2

/-- The real numbers that round to one floating-point number, over a common denominator. -/
structure Rounding where
  low : Nat
  value : Nat
  high : Nat
  den : Nat
  closed : Bool
deriving Repr

/-- The interval that rounds to `mantissa · 2 ^ exponent`. Below a power of two the gap is half as
wide; the ends belong to the interval iff the mantissa is even. -/
def Rounding.of (mantissa : Nat) (exponent : Int) : Rounding :=
  let (unit, den) := scaleTwo 1 1 (exponent - 2)
  let below := if mantissa == Nat.pow 2 52 && exponent != -1074 then 1 else 2
  { low := (4 * mantissa - below) * unit
    value := 4 * mantissa * unit
    high := (4 * mantissa + 2) * unit
    den := den
    closed := mantissa % 2 == 0 }

/-- Whether `digits · 10 ^ scale` lies in the interval. -/
def Rounding.admits (r : Rounding) (digits : Nat) (scale : Int) : Bool :=
  let (a, b) := scaleTen digits 1 scale
  let x := a * r.den
  if r.closed then r.low * b ≤ x && x ≤ r.high * b else r.low * b < x && x < r.high * b

/-- The decimal of the interval nearest to its value on the grid `10 ^ scale`, if the grid meets the
interval next to the value. An exact tie goes to the even neighbour. -/
def Rounding.onGrid (r : Rounding) (scale : Int) : Option Nat :=
  let (a, b) := scaleTen r.value r.den (-scale)
  let down := a / b
  match r.admits down scale, r.admits (down + 1) scale with
  | true, true => some (roundDiv a b)
  | true, false => some down
  | false, true => some (down + 1)
  | false, false => none

/-- Searches the grids of `count`, `count + 1`, … digits for the first that meets the interval. -/
def Rounding.search (r : Rounding) (point : Int) : Nat → Nat → Nat × Int
  | 0, count => ((r.onGrid (point - count)).getD 0, point - count)
  | fuel + 1, count =>
    match r.onGrid (point - count) with
    | some digits => (digits, point - count)
    | none => r.search point fuel (count + 1)

/-- The shortest decimal `digits · 10 ^ scale` of a positive number. Seventeen digits always
suffice. -/
def shortest (mantissa : Nat) (exponent : Int) : Nat × Int :=
  let r := Rounding.of mantissa exponent
  r.search (leadingDecimal r.value r.den) 16 1

/-- Drops the trailing noughts of a number. -/
def dropNoughts : List Char → List Char
  | ds => (ds.reverse.dropWhile (· == '0')).reverse

/-- The notation of a positive decimal: `digits · 10 ^ scale`. -/
def positionalOrScientific (digits : Nat) (scale : Int) : List Char :=
  let all := Nat.toDigits 10 digits
  let ds := dropNoughts all
  let point : Int := (all.length : Int) + scale
  if -4 < point && point ≤ 16 then
    if point ≤ 0 then '0' :: '.' :: List.replicate (-point).toNat '0' ++ ds
    else
      let p := point.toNat
      if ds.length ≤ p then ds ++ List.replicate (p - ds.length) '0' ++ ['.', '0']
      else ds.take p ++ '.' :: ds.drop p
  else
    let e := point - 1
    let es := Nat.toDigits 10 e.natAbs
    let mantissa := match ds with
      | [d] => [d]
      | d :: more => d :: '.' :: more
      | [] => ['0']
    mantissa ++ 'e' :: (if e < 0 then '-' else '+') ::
      List.replicate (2 - es.length) '0' ++ es

/-- The text of a floating-point number. -/
def text (x : Float) : String :=
  match Binary64.ofFloat x with
  | .nan => "nan"
  | .infinite negative => if negative then "-inf" else "inf"
  | .finite negative mantissa exponent =>
    let sign := if negative then "-" else ""
    if mantissa == 0 then sign ++ "0.0"
    else
      let (digits, scale) := shortest mantissa exponent
      sign ++ String.ofList (positionalOrScientific digits scale)

end ParseBench.Decimal
