import ParseBench.Text.Charset.Wide

set_option relaxedAutoImplicit false
set_option autoImplicit false

/-!
# UTF-7

ASCII characters stand for themselves, except the plus sign. It begins a section of digits in base
64, which are the bits of 16-bit units; a section ends at the first character that is no such digit,
and a hyphen there belongs to it. A plus sign and a hyphen together stand for a plus sign.

## Main definitions

* `ParseBench.Text.Charset.Section` — a section of base 64.
* `ParseBench.Text.Charset.readUtf7` — the reading of UTF-7.
-/

namespace ParseBench.Text.Charset

/-- The value of a digit in base 64. -/
def base64Value? (b : UInt8) : Option Nat :=
  let c := Char.ofNat b.toNat
  if c.isUpper then some (b.toNat - 0x41)
  else if c.isLower then some (b.toNat - 0x61 + 26)
  else if c.isDigit then some (b.toNat - 0x30 + 52)
  else if c == '+' then some 62
  else if c == '/' then some 63
  else none

/-- A section of base 64: the bits that have not made up a unit, their number, and the first half of
a pair that awaits the second. -/
structure Section where
  bits : Nat
  count : Nat
  high : Option Nat
deriving DecidableEq, Repr

/-- Whether a code point is written as itself. -/
def isDirect (b : UInt8) : Bool := b < 0x80 && b != 0x2B

/-- The code points of a unit after which the section goes on. -/
def takeUnit (high : Option Nat) (u : Nat) : Points × Option Nat :=
  match high with
  | some h =>
    if isLow u then ([.ofNumber (joinUnits h u)], none)
    else if isHigh u then ([.ofNumber h], some u)
    else ([.ofNumber h, .ofNumber u], none)
  | none => if isHigh u then ([], some u) else ([.ofNumber u], none)

/-- A section after one more digit, and the code points that are complete then. -/
def Section.push (s : Section) (digit : Nat) : Points × Section :=
  let bits := s.bits * 64 + digit
  let count := s.count + 6
  if 16 ≤ count then
    let left := count - 16
    let (points, high) := takeUnit s.high (bits / Nat.pow 2 left)
    (points, ⟨bits % Nat.pow 2 left, left, high⟩)
  else ([], ⟨bits, count, s.high⟩)

/-- Whether the bits that are left over at the end of a section are none, or only padding. -/
def Section.isComplete (s : Section) : Bool := s.count < 6 && s.bits == 0

/-- Where in a text of UTF-7 a byte stands. -/
inductive Place where
  | outside
  /-- Right after a plus sign. -/
  | opened
  | inside (s : Section)
deriving DecidableEq, Repr

/-- What a byte outside sections stands for. -/
def ofDirect (b : UInt8) : Option CodePoint := if b < 0x80 then some (.ofNumber b.toNat) else none

/-- Reads UTF-7 from a place on; `done` is what has been read, in reverse. -/
def readUtf7From (place : Place) (done : Reading) : Bytes → Reading
  | [] =>
    match place with
    | .inside s => (if s.isComplete && s.high.isNone then done else none :: done).reverse
    | _ => done.reverse
  | b :: rest =>
    match place, base64Value? b with
    | .outside, _ =>
      if b == 0x2B then readUtf7From .opened done rest
      else readUtf7From .outside (ofDirect b :: done) rest
    | .opened, some digit => readUtf7From (.inside (Section.push ⟨0, 0, none⟩ digit).2) done rest
    | .opened, none =>
      readUtf7From .outside ((if b == 0x2D then some (.char '+') else none) :: done) rest
    | .inside s, some digit =>
      let (points, s) := s.push digit
      readUtf7From (.inside s) ((points.map some).reverse ++ done) rest
    | .inside s, none =>
      if !s.isComplete then readUtf7From .outside (none :: done) rest
      else
        let done := match s.high with
          | some h => if isDirect b then some (.ofNumber h) :: done else done
          | none => done
        readUtf7From .outside (if b == 0x2D then done else ofDirect b :: done) rest

/-- The reading of UTF-7. -/
def readUtf7 (bytes : Bytes) : Reading := readUtf7From .outside [] bytes

end ParseBench.Text.Charset
