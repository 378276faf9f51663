import ParseBench.Text.CodePoint

set_option relaxedAutoImplicit false
set_option autoImplicit false

/-!
# Punycode

A text is written in ASCII: first its ASCII characters, then a hyphen, then the other code points as
distances. The code points are inserted in increasing order; a distance counts the steps over all
places for all code points from one insertion to the next. It is a number of digits in base 36 whose
last digit is the first that falls below a threshold; the thresholds depend on a bias, which adapts
to the distances.

## Main definitions

* `ParseBench.Text.Punycode.encode` — a text in ASCII.
* `ParseBench.Text.Punycode.decode` — the text of some ASCII.
-/

namespace ParseBench.Text.Punycode

/-- The threshold of the digit at a position, for a bias. -/
def threshold (position bias : Nat) : Nat :=
  let t := (36 * (position + 1) : Int) - bias
  if t < 1 then 1 else if 26 < t then 26 else t.toNat

/-- Divides a distance until it is small, and counts the digits' worth of divisions. -/
def shrink : Nat → Nat → Nat → Nat
  | 0, delta, divisions => divisions + 36 * delta / (delta + 38)
  | fuel + 1, delta, divisions =>
    if 455 < delta then shrink fuel (delta / 35) (divisions + 36)
    else divisions + 36 * delta / (delta + 38)

/-- The bias after a distance; `count` code points are in the text then. -/
def adapt (delta : Nat) (first : Bool) (count : Nat) : Nat :=
  let delta := if first then delta / 700 else delta / 2
  let delta := delta + delta / count
  shrink delta delta 0

/-- The character of a digit. -/
def digitChar (n : Nat) : Char := Char.ofNat (if n < 26 then 0x61 + n else 0x30 + (n - 26))

/-- The digits of a distance from a position on. -/
def digits (bias : Nat) : Nat → Nat → Nat → List Char
  | 0, _, _ => []
  | fuel + 1, position, n =>
    let t := threshold position bias
    if n < t then [digitChar n]
    else digitChar (t + (n - t) % (36 - t)) :: digits bias fuel (position + 1) ((n - t) / (36 - t))

/-- The state of writing: the distance since the last insertion, the bias, the number of code points
in the text, and the digits, read backwards in chunks. -/
structure Writing where
  delta : Nat
  bias : Nat
  count : Nat
  first : Bool
  chunks : List (List Char)

/-- Passes over a code point of the text while the code points equal to `n` are inserted. -/
def Writing.pass (n : Nat) (w : Writing) (c : Nat) : Writing :=
  if c < n then { w with delta := w.delta + 1 }
  else if c == n then
    ⟨0, adapt w.delta w.first (w.count + 1), w.count + 1, false,
      digits w.bias (w.delta + 1) 0 w.delta :: w.chunks⟩
  else w

/-- Inserts the code points equal to each of the given numbers, which increase; all below `n` have
been inserted. -/
def Writing.insertAll (text : List Nat) (n : Nat) : List Nat → Writing → Writing
  | [], w => w
  | m :: rest, w =>
    let w := { w with delta := w.delta + (m - n) * (w.count + 1) }
    let w := text.foldl (Writing.pass m) w
    insertAll text (m + 1) rest { w with delta := w.delta + 1 }

/-- A text in ASCII. -/
def encode (text : List Nat) : List Char :=
  let basic := text.filter (· < 0x80)
  let extended := ((text.filter (0x80 ≤ ·)).mergeSort (· ≤ ·)).eraseDups
  let w := Writing.insertAll text 0x80 extended ⟨0, 72, basic.length, true, []⟩
  basic.map Char.ofNat ++ (if basic.isEmpty then [] else ['-']) ++ w.chunks.reverse.flatten

/-! ## Decoding -/

/-- The value of a digit, in either case. -/
def digitValue? (c : Char) : Option Nat :=
  if c.isLower then some (c.toNat - 0x61)
  else if c.isUpper then some (c.toNat - 0x41)
  else if c.isDigit then some (c.toNat - 0x30 + 26)
  else none

/-- A distance at the front of a text, and what follows it. -/
def takeNumber (bias : Nat) : Nat → Nat → Nat → List Char → Option (Nat × List Char)
  | _, _, _, [] => none
  | position, weight, sum, c :: rest =>
    match digitValue? c with
    | none => none
    | some d =>
      let t := threshold position bias
      let sum := sum + d * weight
      if d < t then some (sum, rest) else takeNumber bias (position + 1) (weight * (36 - t)) sum rest

/-- The number of a question mark, which takes the place of numbers past the last code point. -/
def questionMark : Nat := 0x3F

/-- Inserts code points by their distances: `n` is the last code point inserted and `index` the
place after it. If it is to be `lossy`, digits that are no distance end the text, and a question
mark takes the place of a number past the last code point. -/
def insertFrom (lossy : Bool) (fuel : Nat) (text : List Nat) (n index bias : Nat) (first : Bool)
    (s : List Char) : Option (List Nat) :=
  match fuel, s with
  | _, [] => some text
  | 0, _ => none
  | fuel + 1, s =>
    match takeNumber bias 0 1 0 s with
    | none => if lossy then some text else none
    | some (delta, rest) =>
      let total := index + delta
      let size := text.length + 1
      let n := n + total / size
      let place := total % size
      if 0x10FFFF < n && !lossy then none
      else
        let n := if 0x10FFFF < n then questionMark else n
        insertFrom lossy fuel (text.take place ++ n :: text.drop place) n (place + 1)
          (adapt delta first size) false rest

/-- The ASCII characters and the distances of a text, which the last hyphen divides. -/
def splitLast {α : Type} (isHyphen : α → Bool) (s : List α) : List α × List α :=
  let extended := (s.reverse.takeWhile fun c => !isHyphen c).reverse
  ((s.take (s.length - extended.length)).dropLast, extended)

/-- The text of some ASCII, by the numbers of its code points; `none` if it is not well formed. -/
def decode (s : List Char) : Option (List Nat) :=
  let (basic, extended) := splitLast (· == '-') s
  insertFrom false s.length (basic.map Char.toNat) 0x80 0 72 true extended

end ParseBench.Text.Punycode
