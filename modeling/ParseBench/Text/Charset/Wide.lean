import ParseBench.Text.Charset.Reading

set_option relaxedAutoImplicit false
set_option autoImplicit false

/-!
# Units of two and four bytes

UTF-16 writes units of two bytes, UTF-32 units of four. Either byte of a unit may come first; a mark
at the beginning of a text tells which.

## Main definitions

* `ParseBench.Text.Charset.readUnits` — the reading of UTF-16.
* `ParseBench.Text.Charset.readUnits32` — the reading of UTF-32.
-/

namespace ParseBench.Text.Charset

/-- The 16-bit units of some bytes; the flag says that a byte is left over. -/
def units (bigFirst : Bool) : Bytes → List Nat × Bool
  | a :: b :: rest =>
    let (more, odd) := units bigFirst rest
    ((if bigFirst then a.toNat * 256 + b.toNat else b.toNat * 256 + a.toNat) :: more, odd)
  | [_] => ([], true)
  | [] => ([], false)

/-- Whether a unit is the first of a pair. -/
def isHigh (u : Nat) : Bool := 0xD800 ≤ u && u < 0xDC00

/-- Whether a unit is the second of a pair. -/
def isLow (u : Nat) : Bool := 0xDC00 ≤ u && u < 0xE000

/-- The code point of a pair of units. -/
def joinUnits (high low : Nat) : Nat := 0x10000 + (high - 0xD800) * 0x400 + (low - 0xDC00)

/-- What a unit that is no part of a pair stands for. -/
def ofUnit (u : Nat) : Option CodePoint :=
  if isHigh u || isLow u then none else some (.char (Char.ofNat u))

/-- What 16-bit units stand for; a unit of a pair that stands alone stands for nothing. -/
def ofUnits : List Nat → Reading
  | [] => []
  | [u] => [ofUnit u]
  | u :: v :: rest =>
    if isHigh u && isLow v then some (.char (Char.ofNat (joinUnits u v))) :: ofUnits rest
    else ofUnit u :: ofUnits (v :: rest)

/-- The reading of UTF-16. A byte left over stands for nothing, together with half a pair before
it. -/
def readUnits (bigFirst : Bool) (bytes : Bytes) : Reading :=
  let (us, odd) := units bigFirst bytes
  let half := match us.getLast? with
    | some u => isHigh u
    | none => false
  ofUnits us ++ (if odd && !half then [none] else [])

/-- What a 32-bit unit stands for. -/
def ofUnit32 (u : Nat) : Option CodePoint :=
  if u.isValidChar then some (.char (Char.ofNat u)) else none

/-- The reading of UTF-32. What is left over stands for nothing. -/
def readUnits32 (bigFirst : Bool) : Bytes → Reading
  | a :: b :: c :: d :: rest =>
    let digits := if bigFirst then [a, b, c, d] else [d, c, b, a]
    ofUnit32 (digits.foldl (fun n byte => n * 256 + byte.toNat) 0) :: readUnits32 bigFirst rest
  | [] => []
  | _ => [none]

end ParseBench.Text.Charset
