import ParseBench.Decimal.Binary64

set_option relaxedAutoImplicit false
set_option autoImplicit false

/-!
# Margin of error

The relative margin of error of the mean of some samples, in percent. Sum, variance and square root
are exact until they are rounded to the nearest floating-point number.

## Main definitions

* `ParseBench.Bench.exactSum` — the exact sum of finite numbers, rounded once.
* `ParseBench.Bench.deviation` — the standard deviation of finite numbers, rounded once.
* `ParseBench.Bench.marginOfError` — the margin of error.
-/

namespace ParseBench.Bench

open ParseBench.Decimal

/-- Why samples have no margin of error. -/
inductive MarginFault where
  /-- A partial sum leaves the range of floating-point numbers. -/
  | sumOverflow
  /-- Infinities of both signs. -/
  | oppositeInfinities
  /-- An infinity or a NaN. -/
  | notFinite
  /-- The standard deviation leaves the range of floating-point numbers. -/
  | deviationOverflow
deriving DecidableEq, Repr

/-- The wording of a fault. -/
def MarginFault.message : MarginFault → String
  | .sumOverflow => "intermediate overflow in fsum"
  | .oppositeInfinities => "-inf + inf in fsum"
  | .notFinite => "'float' object has no attribute 'numerator'"
  | .deviationOverflow => "integer division result too large for a float"

/-! ## Sums -/

/-- Adds a number to partial sums that do not overlap: the errors of the additions stay as partial
sums, and the last partial sum is the total. -/
def addPartial (x : Float) : List Float → List Float → List Float × Float
  | [], kept => (kept.reverse, x)
  | y :: rest, kept =>
    let (big, small) := if x.abs < y.abs then (y, x) else (x, y)
    let high := big + small
    let low := small - (high - big)
    addPartial high rest (if low != 0.0 then low :: kept else kept)

/-- Whether adding the samples in order overflows at a finite one. An infinity or a NaN starts the
sum anew. -/
def overflows : List Float → List Float → Bool
  | _, [] => false
  | partials, x :: rest =>
    let (kept, total) := addPartial x partials []
    if isFinite total then overflows (if total != 0.0 then kept ++ [total] else kept) rest
    else if isFinite x then true
    else overflows [] rest

/-- The least exponent among some numbers. -/
def leastExponent (samples : List Float) : Int :=
  samples.foldl (fun e x =>
    match Binary64.ofFloat x with
    | .finite _ m q => if m == 0 then e else min e q
    | _ => e) 1024

/-- A number as a multiple of `2 ^ e`, for an `e` that is at most its own exponent. -/
def multipleOf (e : Int) (x : Float) : Int :=
  match Binary64.ofFloat x with
  | .finite negative m q =>
    let n := Int.ofNat (m * Nat.pow 2 (q - e).toNat)
    if m == 0 then 0 else if negative then -n else n
  | _ => 0

/-- The number nearest to `n · 2 ^ e / d`. -/
def nearestScaled (n : Int) (d : Nat) (e : Int) : Float :=
  let (num, den) := scaleTwo n.natAbs d e
  nearest (n < 0) num den

/-- The exact sum of finite numbers, rounded once. -/
def exactSum (samples : List Float) : Float :=
  let e := leastExponent samples
  nearestScaled (samples.foldl (fun s x => s + multipleOf e x) 0) 1 e

/-! ## Standard deviation -/

/-- The integer square root. -/
def isqrt (n : Nat) : Nat :=
  if h : n = 0 then 0
  else
    let r := 2 * isqrt (n / 4)
    if (r + 1) * (r + 1) ≤ n then r + 1 else r
termination_by n
decreasing_by omega

/-- The number of binary digits. -/
def bitLength (n : Nat) : Nat := if n = 0 then 0 else n.log2 + 1

/-- The square root of `n / m` as an integer; an inexact root is made odd, so that it lies on the
right side of every number that it may later be rounded to. -/
def oddRoot (n m : Nat) : Nat :=
  let a := isqrt (n / m)
  if a * a * m == n then a else a + (1 - a % 2)

/-- The floating-point number nearest to the square root of `n / m`. -/
def nearestRoot (n m : Nat) : Float :=
  let q := Int.fdiv ((bitLength n : Int) - bitLength m - 109) 2
  if 0 ≤ q then nearest false (oddRoot n (m * Nat.pow 2 (2 * q.toNat)) * Nat.pow 2 q.toNat) 1
  else nearest false (oddRoot (n * Nat.pow 2 (2 * (-q).toNat)) m) (Nat.pow 2 (-q).toNat)

/-- The standard deviation of two or more finite numbers. -/
def deviation (samples : List Float) : Float :=
  let e := leastExponent samples
  let count := samples.length
  let (sum, squares) := samples.foldl
    (fun ((s, t) : Int × Int) x => let n := multipleOf e x; (s + n, t + n * n)) (0, 0)
  let spread := (count * squares - sum * sum).toNat
  let (num, den) := scaleTwo spread (count * (count - 1)) (2 * e)
  nearestRoot num den

/-! ## The margin -/

/-- The two-sided critical value of a confidence of 95%. -/
def criticalValue : Float := 1.96

/-- The margin of error of the mean, in percent. Fewer than two samples and a mean of zero have
none. -/
def marginOfError (samples : List Float) : Except MarginFault Float :=
  let count := samples.length.toFloat
  if samples.length < 2 then .ok 0.0
  else if overflows [] samples then .error .sumOverflow
  else if samples.all isFinite then
    let mean := exactSum samples / count
    if mean == 0.0 then .ok 0.0
    else
      let sd := deviation samples
      if isFinite sd then .ok (criticalValue * (sd / count.sqrt) / mean * 100.0)
      else .error .deviationOverflow
  else if samples.any (fun x => Binary64.ofFloat x == .infinite false) &&
      samples.any (fun x => Binary64.ofFloat x == .infinite true) then .error .oppositeInfinities
  else .error .notFinite

end ParseBench.Bench
