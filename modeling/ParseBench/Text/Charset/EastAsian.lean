import ParseBench.Text.Charset.Big5
import ParseBench.Text.Charset.Gb
import ParseBench.Text.Charset.Hangul
import ParseBench.Text.Charset.Jis
import ParseBench.Text.Charset.JisExtended
import ParseBench.Text.Charset.Reading

set_option relaxedAutoImplicit false
set_option autoImplicit false

/-!
# Charsets of several bytes

The charsets of East Asia write ASCII characters in one byte and the others in two or more. The
first byte tells how many bytes are needed; where they do not stand for a character the first byte
alone stands for nothing.

## Main definitions

* `ParseBench.Text.Charset.EastAsian` — the charsets.
* `ParseBench.Text.Charset.EastAsian.step` — a step of reading.
-/

namespace ParseBench.Text.Charset

/-- A charset of several bytes. -/
inductive EastAsian where
  | shiftJis
  | page932
  | eucJp
  /-- Shifted codes of the extended Japanese set, in its first or its later edition. -/
  | shiftJisExtended (late : Bool)
  /-- Plain codes of the extended Japanese set, in its first or its later edition. -/
  | eucJpExtended (late : Bool)
  | gb2312
  | gbk
  | gb18030
  | big5
  | page950
  | hongKong
  | eucKr
  | page949
  | johab
deriving DecidableEq, Repr

/-- The code of two bytes. -/
def codeOf (a b : UInt8) : Nat := a.toNat * 256 + b.toNat

/-- The row and cell that two bytes from 0x80 on stand for. -/
def lowCode? (a b : UInt8) : Option Nat :=
  if 0x80 ≤ a && 0x80 ≤ b then some (codeOf (a - 0x80) (b - 0x80)) else none

/-- The two characters of a code in a list of codes, each followed by its characters. -/
def pairIn? (code : Nat) : List Nat → Option (List Char)
  | place :: first :: second :: rest =>
    if place == code then some [Char.ofNat first, Char.ofNat second] else pairIn? code rest
  | _ => none

/-! ## Japanese -/

/-- The character of a byte for a half-width syllable. -/
def halfWidth? (b : UInt8) : Option Char :=
  if 0xA1 ≤ b && b ≤ 0xDF then some (Char.ofNat (0xFEC0 + b.toNat)) else none

/-- The character of a byte in the Japanese variant of ASCII. -/
def romanChar (b : UInt8) : Char :=
  if b == 0x5C then Char.ofNat 0xA5 else if b == 0x7E then Char.ofNat 0x203E else Char.ofNat b.toNat

/-- The row, counted from nought, and the cell that two shifted bytes stand for: they hold two rows
for each first byte. -/
def unshift? (a b : UInt8) : Option (Nat × Nat) :=
  if !((0x81 ≤ a && a ≤ 0x9F) || (0xE0 ≤ a && a ≤ 0xFC)) || b < 0x40 || b == 0x7F || 0xFC < b then none
  else
    let row := if a < 0xE0 then a.toNat - 0x81 else a.toNat - 0xC1
    let cell := if b < 0x80 then b.toNat - 0x40 else b.toNat - 0x41
    some (if cell < 0x5E then (2 * row, cell + 0x21) else (2 * row + 1, cell - 0x5E + 0x21))

/-- The character of the first Japanese set for two shifted bytes. -/
def shifted208? (a b : UInt8) : Option Char :=
  (unshift? a b).bind fun (row, cell) => jis208.find? ((row + 0x21) * 256 + cell)

/-- The characters of the first plane of the extended Japanese set. -/
def first213? (late : Bool) (code : Nat) : Option (List Char) :=
  if !late && jis213Late.contains code then none
  else (((jis208.find? code).or (jis213First.find? code)).map ([·])).or (pairIn? code jis213Pairs)

/-- The character of the second plane of the extended Japanese set. One place has a variant in the
first edition. -/
def second213? (late : Bool) (code : Nat) : Option Char :=
  if !late && code == 0x7D3B then some (Char.ofNat 0x9B1D) else jis213Second.find? code

/-- The row of the second plane that a shifted row past those of the first plane stands for. -/
def secondRow (row : Nat) : Nat :=
  if 0x67 ≤ row then row + 7
  else if 0x63 ≤ row || row == 0x5F then row - 0x37
  else row - 0x3D

/-- The characters of the first plane of the extended Japanese set where its tilde is not a wide
one. -/
def narrow213? (late : Bool) (code : Nat) : Option (List Char) :=
  if code == 0x2232 then some ['~'] else first213? late code

/-- The characters of the extended Japanese set for two shifted bytes. Its backslash is not a wide
one there. -/
def shifted213? (late : Bool) (a b : UInt8) : Option (List Char) :=
  (unshift? a b).bind fun (row, cell) =>
    let code := (row + 0x21) * 256 + cell
    if code == 0x2140 then some ['\\']
    else if row < 0x5E then narrow213? late code
    else (second213? late (secondRow row * 256 + cell)).map ([·])

/-- The character of the code page 932 for two bytes, of which some are for private use. -/
def page932? (a b : UInt8) : Option Char :=
  (page932Codes.find? (codeOf a b)).or
    (if 0xF0 ≤ a && a ≤ 0xF9 && 0x40 ≤ b && b ≤ 0xFC && b != 0x7F then
      let cell := if b < 0x80 then b.toNat - 0x40 else b.toNat - 0x41
      some (Char.ofNat (0xE000 + 188 * (a.toNat - 0xF0) + cell))
    else shifted208? a b)

/-! ## Chinese -/

/-- The characters of the first Chinese set that its extension has changed. -/
def changedInGbk : List (Nat × Nat) := [(0xA1A4, 0x30FB), (0xA1AA, 0x2015)]

/-- Whether a code of the extension is new in a row of the first Chinese set. -/
def isNewInGbk (code : Nat) : Bool :=
  (0xA2A1 ≤ code && code ≤ 0xA2AA) || (0xA6E0 ≤ code && code ≤ 0xA6F5) ||
    (0xA8BB ≤ code && code ≤ 0xA8C0)

/-- The character of the first Chinese set for two bytes. -/
def gb2312? (a b : UInt8) : Option Char :=
  let code := codeOf a b
  if a < 0xA1 || b < 0xA1 || isNewInGbk code then none
  else ((changedInGbk.lookup code).map Char.ofNat).or (gbkCodes.find? code)

/-- The character of the last edition of the Chinese standard for two bytes. -/
def gb18030? (a b : UInt8) : Option Char :=
  let code := codeOf a b
  ((gbkCodes.find? code).or (gb18030Codes.find? code)).or (gb18030Private.find? code)

/-- The code point of a place among those of four bytes, given the beginnings of the runs. -/
def inRuns? (place : Nat) : List Nat → Option Nat
  | start :: first :: next :: more =>
    if start ≤ place && place < next then (if first == 0 then none else some (first + (place - start)))
    else inRuns? place (next :: more)
  | [start, first] => if start ≤ place && first != 0 then some (first + (place - start)) else none
  | _ => none

/-- The step for four bytes of the last edition of the Chinese standard; the second is a digit. -/
def fourBytes (a b : UInt8) (rest : Bytes) : Step Unit :=
  match rest with
  | c :: d :: _ =>
    if a < 0x81 || a == 0xFF || c < 0x81 || c == 0xFF || d < 0x30 || 0x39 < d then .fault 0
    else
      let place := (((a.toNat - 0x81) * 10 + (b.toNat - 0x30)) * 126 + (c.toNat - 0x81)) * 10 +
        (d.toNat - 0x30)
      match inRuns? place gb18030Runs with
      | some n => .one (Char.ofNat n) 3
      | none => .fault 0
  | _ => .unfinished

/-- The characters of the supplementary set of Hong Kong for a code. -/
def hongKong? (code : Nat) : Option (List Char) :=
  match pairIn? code hongKongPairs with
  | some cs => some cs
  | none =>
    if hongKongEmpty.contains code then none
    else ((hongKongCodes.find? code).or (big5Codes.find? code)).map ([·])

/-! ## Korean -/

/-- The place of a letter in a list of letters; the byte counts from the first letter of all. -/
def letterPlace? (letters : List Char) (b : UInt8) : Option Nat :=
  if 0xA1 ≤ b then letters.idxOf? (Char.ofNat (0x3131 + (b.toNat - 0xA1))) else none

/-- The step for a syllable that is written as a mark and three letters, each in two bytes. -/
def spelledOut (rest : Bytes) : Step Unit :=
  match rest with
  | _ :: c :: initial :: d :: vowel :: e :: final :: _ =>
    if c != 0xA4 || d != 0xA4 || e != 0xA4 then .fault 0
    else
      let last := if final == 0xD4 then some 0 else (letterPlace? finals final).map (· + 1)
      match letterPlace? initials initial, letterPlace? vowels vowel, last with
      | some i, some v, some f => .one (syllable i v f) 7
      | _, _, _ => .fault 0
  | _ => .unfinished

/-- The place of a cell among those that the code page 949 adds to a row: letters in either case,
then the bytes from 0x81 on. -/
def addedCell? (b : UInt8) : Option Nat :=
  if 0x41 ≤ b && b ≤ 0x5A then some (b.toNat - 0x41)
  else if 0x61 ≤ b && b ≤ 0x7A then some (b.toNat - 0x61 + 26)
  else if 0x81 ≤ b && b ≤ 0xFE then some (b.toNat - 0x81 + 52)
  else none

/-- The syllable that the code page 949 adds for two bytes. The rows up to 0xA0 have 178 cells, the
others 84. -/
def addedSyllable? (a b : UInt8) : Option Char :=
  match addedCell? b with
  | none => none
  | some cell =>
    if 0x81 ≤ a && a ≤ 0xA0 then otherSyllables[(a.toNat - 0x81) * 178 + cell]?
    else if 0xA1 ≤ a && a ≤ 0xC6 && cell < 84 then otherSyllables[32 * 178 + (a.toNat - 0xA1) * 84 + cell]?
    else none

/-- The character of the Korean set for two bytes that combine letters or, from 0xD9 on, hold two
rows for each first byte. -/
def johab? (a b : UInt8) : Option Char :=
  if a < 0xD8 then johabLetters? (codeOf a b)
  else if a < 0xD9 || a == 0xDF || 0xF9 < a || b < 0x31 || (0x80 ≤ b && b < 0x91) || b % 0x80 == 0x7F ||
      (a == 0xDA && 0xA1 ≤ b && b ≤ 0xD3) then none
  else
    let row := if a < 0xE0 then 2 * (a.toNat - 0xD9) else 2 * a.toNat - 0x197
    let cell := if b < 0x91 then b.toNat - 0x31 else b.toNat - 0x43
    if cell < 0x5E then ks1001.find? ((row + 0x21) * 256 + cell + 0x21)
    else ks1001.find? ((row + 0x22) * 256 + (cell - 0x5E) + 0x21)

/-! ## Steps -/

/-- The step for two bytes and what stands for them. -/
def twoBytes (meaning : UInt8 → UInt8 → Option Char) (a : UInt8) : Bytes → Step Unit
  | [] => .unfinished
  | b :: _ => .ofFound (meaning a b) 1

/-- The step for two bytes that may stand for several characters. -/
def twoBytesMany (meaning : UInt8 → UInt8 → Option (List Char)) (a : UInt8) : Bytes → Step Unit
  | [] => .unfinished
  | b :: _ =>
    match meaning a b with
    | some cs => .text (.ofChars cs) 1 ()
    | none => .fault 0

/-- The step for two bytes of the extended Japanese set, of which some row and cell of the first
plane may be known. A place that only the later edition fills makes both bytes stand for nothing in
the first. -/
def twoBytes213 (late : Bool) (place? : UInt8 → UInt8 → Option Nat)
    (meaning : UInt8 → UInt8 → Option (List Char)) (a : UInt8) : Bytes → Step Unit
  | [] => .unfinished
  | b :: rest =>
    if !late && (place? a b).any jis213Late.contains then .fault 1
    else twoBytesMany meaning a (b :: rest)

/-- The step for a half-width syllable after its mark. -/
def markedHalfWidth : Bytes → Step Unit := twoBytes (fun _ b => halfWidth? b) 0

/-- The step for two bytes after the mark of a second set. -/
def secondSet (meaning : Nat → Option Char) : Bytes → Step Unit
  | a :: b :: _ => .ofFound ((lowCode? a b).bind meaning) 2
  | _ => .unfinished

/-- A step of reading a charset of several bytes, at a byte past the ASCII ones. -/
def EastAsian.stepHigh (charset : EastAsian) (a : UInt8) (rest : Bytes) : Step Unit :=
  match charset with
  | .shiftJis =>
    match halfWidth? a with
    | some c => .one c 0
    | none =>
      if a == 0x80 || a == 0xA0 || 0xFC < a then .fault 0 else twoBytes shifted208? a rest
  | .shiftJisExtended late =>
    match halfWidth? a with
    | some c => .one c 0
    | none =>
      if a == 0x80 || a == 0xA0 || 0xFC < a then .fault 0 else
        twoBytes213 late
          (fun a b => (unshift? a b).map fun (row, cell) => (row + 0x21) * 256 + cell)
          (shifted213? late) a rest
  | .page932 =>
    match halfWidth? a with
    | some c => .one c 0
    | none =>
      if a == 0x80 then .one (Char.ofNat 0x80) 0
      else if a == 0xA0 then .one (Char.ofNat 0xF8F0) 0
      else if 0xFD ≤ a then .one (Char.ofNat (0xF8F1 + (a.toNat - 0xFD))) 0
      else twoBytes page932? a rest
  | .eucJp =>
    if a == 0x8E then markedHalfWidth rest
    else if a == 0x8F then secondSet jis212.find? rest
    else twoBytes (fun a b => (lowCode? a b).bind jis208.find?) a rest
  | .eucJpExtended late =>
    if a == 0x8E then markedHalfWidth rest
    else if a == 0x8F then
      secondSet (fun code => (second213? late code).or (jis212.find? code)) rest
    else twoBytes213 late lowCode? (fun a b => (lowCode? a b).bind (first213? late)) a rest
  | .gb2312 => twoBytes gb2312? a rest
  | .gbk => twoBytes (fun a b => gbkCodes.find? (codeOf a b)) a rest
  | .gb18030 =>
    match rest with
    | b :: more => if 0x30 ≤ b && b ≤ 0x39 then fourBytes a b more else .ofFound (gb18030? a b) 1
    | [] => .unfinished
  | .big5 => twoBytes (fun a b => big5Codes.find? (codeOf a b)) a rest
  | .page950 => twoBytes (fun a b => (page950Codes.find? (codeOf a b)).or (big5Codes.find? (codeOf a b))) a rest
  | .hongKong => twoBytesMany (fun a b => hongKong? (codeOf a b)) a rest
  | .eucKr =>
    match rest with
    | 0xD4 :: _ =>
      if a == 0xA4 then spelledOut rest
      else twoBytes (fun a b => (lowCode? a b).bind ks1001.find?) a rest
    | _ => twoBytes (fun a b => (lowCode? a b).bind ks1001.find?) a rest
  | .page949 =>
    twoBytes (fun a b => ((lowCode? a b).bind ks1001.find?).or (addedSyllable? a b)) a rest
  | .johab => twoBytes johab? a rest

/-- A step of reading a charset of several bytes. -/
def EastAsian.step (charset : EastAsian) (_ : Unit) (a : UInt8) (rest : Bytes) : Step Unit :=
  if a < 0x80 then
    match charset with
    | .shiftJisExtended _ => .one (romanChar a) 0
    | _ => .one (Char.ofNat a.toNat) 0
  else charset.stepHigh a rest

end ParseBench.Text.Charset
