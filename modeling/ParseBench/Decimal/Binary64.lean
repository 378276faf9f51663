set_option relaxedAutoImplicit false
set_option autoImplicit false

/-!
# Binary floating-point numbers of 64 bits

A finite number is an integer times a power of two. Exact quantities become floating-point numbers
by rounding to the nearest one, a tie going to the even integer.

## Main definitions

* `ParseBench.Decimal.Binary64` — a floating-point number taken apart.
* `ParseBench.Decimal.Binary64.ofFloat` — the parts of a number.
* `ParseBench.Decimal.roundDiv` — a quotient rounded to the nearest integer, ties to even.
* `ParseBench.Decimal.nearest` — the floating-point number nearest to a quotient.
* `ParseBench.Decimal.nearestInt` — the floating-point number nearest to an integer quotient.
-/

namespace ParseBench.Decimal

/-- A floating-point number taken apart. A finite one is `mantissa · 2 ^ exponent`, negated if
`negative`. -/
inductive Binary64 where
  | nan
  | infinite (negative : Bool)
  | finite (negative : Bool) (mantissa : Nat) (exponent : Int)
deriving DecidableEq, Repr

/-- The parts of a floating-point number, read from its bits. -/
def Binary64.ofFloat (x : Float) : Binary64 :=
  let bits := x.toBits.toNat
  let negative := Nat.pow 2 63 ≤ bits
  let field : Nat := bits / Nat.pow 2 52 % Nat.pow 2 11
  let fraction : Nat := bits % Nat.pow 2 52
  if field == 2047 then
    if fraction == 0 then .infinite negative else .nan
  else if field == 0 then .finite negative fraction (-1074)
  else .finite negative (Nat.pow 2 52 + fraction) ((field : Int) - 1075)

/-- The quotient rounded to the nearest integer; a tie goes to the even one. -/
def roundDiv (num den : Nat) : Nat :=
  let q := num / den
  let twice := 2 * (num % den)
  if twice < den then q
  else if den < twice then q + 1
  else q + q % 2

/-- Multiplies by a power of two on the side where the exponent is not negative: the quotient of the
results is `num / den · 2 ^ e`. -/
def scaleTwo (num den : Nat) (e : Int) : Nat × Nat :=
  if e < 0 then (num, den * Nat.pow 2 (-e).toNat) else (num * Nat.pow 2 e.toNat, den)

/-- The exponent of the leading binary digit of a positive quotient. -/
def leadingExponent (num den : Nat) : Int :=
  let guess : Int := (num.log2 : Int) - den.log2
  let (a, b) := scaleTwo num den (-guess)
  if b ≤ a then guess else guess - 1

/-- The bits of the number nearest to a quotient, its denominator being positive. Overflow gives
infinity. -/
def nearestBits (num den : Nat) : Nat :=
  if num == 0 then 0
  else
    let q := max (leadingExponent num den - 52) (-1074)
    let (a, b) := scaleTwo num den (-q)
    min ((q + 1074).toNat * Nat.pow 2 52 + roundDiv a b) (2047 * Nat.pow 2 52)

/-- The floating-point number nearest to a quotient, negated if asked. -/
def nearest (negative : Bool) (num den : Nat) : Float :=
  let x := Float.ofBits (nearestBits num den).toUInt64
  if negative then -x else x

/-- The floating-point number nearest to the quotient of an integer by a positive number. -/
def nearestInt (num : Int) (den : Nat) : Float :=
  nearest (num < 0) num.natAbs den

/-- Whether a floating-point number is neither infinite nor a NaN. -/
def isFinite (x : Float) : Bool :=
  match Binary64.ofFloat x with
  | .finite .. => true
  | _ => false

end ParseBench.Decimal
