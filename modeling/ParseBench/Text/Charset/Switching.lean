import ParseBench.Text.Charset.EastAsian
import ParseBench.Text.Charset.Pages

set_option relaxedAutoImplicit false
set_option autoImplicit false

/-!
# Charsets that switch

Some charsets write all characters in bytes below 0x80 and switch between character sets. In one
family an escape sequence designates a set: its letter names the set, and the bytes before the
letter tell whether the set has characters of two bytes and for which of three places it is
designated. In another, a tilde and a brace switch between ASCII and a Chinese set.

## Main definitions

* `ParseBench.Text.Charset.Family` — a charset that switches by escape sequences.
* `ParseBench.Text.Charset.Family.step` — a step of reading it.
* `ParseBench.Text.Charset.tildeStep` — a step of the reading that switches by tildes.
-/

namespace ParseBench.Text.Charset

/-- A character set that an escape sequence designates: its letter, and whether its characters have
two bytes. -/
structure Designation where
  letter : Char
  double : Bool
deriving DecidableEq, Repr

/-- The designation of ASCII. -/
def asciiSet : Designation := ⟨'B', false⟩

/-- A charset that switches by escape sequences. -/
structure Family where
  /-- The sets that may be designated, besides ASCII. -/
  sets : List Designation
  /-- Whether two control characters switch between the first two places. -/
  shifts : Bool
  /-- Whether there is a third place, for single characters. -/
  third : Bool
  /-- Whether a designation of the first Japanese set may announce its edition. -/
  editions : Bool
deriving DecidableEq, Repr

/-- The Japanese charset and its extensions, by their proper names, and the Korean one. -/
def families : List (String × Family) :=
  [("iso2022_jp", ⟨[⟨'B', true⟩, ⟨'J', false⟩, ⟨'@', true⟩], false, false, true⟩),
   ("iso2022_jp_1", ⟨[⟨'B', true⟩, ⟨'D', true⟩, ⟨'J', false⟩, ⟨'@', true⟩], false, false, true⟩),
   ("iso2022_jp_2", ⟨[⟨'B', true⟩, ⟨'D', true⟩, ⟨'C', true⟩, ⟨'A', true⟩, ⟨'J', false⟩, ⟨'@', true⟩,
     ⟨'A', false⟩, ⟨'F', false⟩], false, true, true⟩),
   ("iso2022_jp_2004", ⟨[⟨'B', true⟩, ⟨'Q', true⟩, ⟨'P', true⟩], false, false, true⟩),
   ("iso2022_jp_3", ⟨[⟨'B', true⟩, ⟨'O', true⟩, ⟨'P', true⟩], false, false, true⟩),
   ("iso2022_jp_ext", ⟨[⟨'B', true⟩, ⟨'D', true⟩, ⟨'J', false⟩, ⟨'I', false⟩, ⟨'@', true⟩], false, false,
     true⟩),
   ("iso2022_kr", ⟨[⟨'C', true⟩], true, false, false⟩)]

/-- What has been designated, which of the first two places is in use, and whether an unknown escape
sequence is being passed through. -/
structure Designated where
  first : Designation
  second : Designation
  third : Designation
  shifted : Bool
  passing : Bool
deriving DecidableEq, Repr

/-- The state at the beginning. -/
def Designated.initial : Designated := ⟨asciiSet, asciiSet, asciiSet, false, false⟩

/-- Whether the first edition of the extended Japanese set is left out: a family has one of the
two. -/
def Family.isLate (f : Family) : Bool := f.sets.contains ⟨'Q', true⟩

/-- The characters of a code of two bytes in a set. -/
def doubleIn? (late : Bool) (letter : Char) (a b : UInt8) : Option (List Char) :=
  let code := codeOf a b
  match letter with
  | 'B' | '@' => (jis208.find? code).map ([·])
  | 'D' => (jis212.find? code).map ([·])
  | 'C' => (ks1001.find? code).map ([·])
  | 'A' => if a < 0x80 && b < 0x80 then (gb2312? (a + 0x80) (b + 0x80)).map ([·]) else none
  | 'Q' | 'O' => narrow213? late code
  | 'P' => (second213? true code).map ([·])
  | _ => none

/-- The character of a byte in a set of single bytes. -/
def singleIn? (letter : Char) (b : UInt8) : Option Char :=
  match letter with
  | 'J' => some (romanChar b)
  | 'I' => if b < 0x80 then halfWidth? (b + 0x80) else none
  | _ => none

/-! ## Escape sequences -/

/-- Whether a byte ends an escape sequence. -/
def endsEscape (b : UInt8) : Bool := 0x40 ≤ b && b ≤ 0x5A

/-- The length of an escape sequence, the first byte apart, up to the byte that ends it: `none` if
the bytes end before, and `some none` if none of the next `left` bytes ends it. The announcement of
an edition is passed over together with the byte after it. -/
def escapeLength (editions : Bool) (left length : Nat) (bytes : Bytes) : Option (Option Nat) :=
  match left, bytes with
  | 0, _ => some none
  | _ + 1, [] => none
  | left + 1, b :: rest =>
    if endsEscape b then some (some (length + 1))
    else if editions && b == 0x26 && rest.head? == some 0x40 then
      escapeLength editions (left - 2) (length + 3) (rest.drop 2)
    else escapeLength editions left (length + 1) rest
termination_by left

/-- The place that an escape sequence designates a set for, and the set. -/
def designation? (f : Family) (bytes : List Char) : Option (Nat × Designation) :=
  match bytes with
  | ['$', letter] => some (0, ⟨letter, true⟩)
  | ['(', letter] => some (0, ⟨letter, false⟩)
  | [')', letter] => some (1, ⟨letter, false⟩)
  | ['.', letter] => if f.third then some (2, ⟨letter, false⟩) else none
  | ['$', '(', letter] => some (0, ⟨letter, true⟩)
  | ['$', ')', letter] => some (1, ⟨letter, true⟩)
  | [_, _, '\x1b', '$', 'B'] => if f.editions then some (0, ⟨'B', true⟩) else none
  | _ => none

/-- The state after a designation. -/
def Designated.set (s : Designated) (place : Nat) (d : Designation) : Designated :=
  match place with
  | 0 => { s with first := d }
  | 1 => { s with second := d }
  | _ => { s with third := d }

/-- The step for an escape sequence of the family. -/
def Family.escape (f : Family) (s : Designated) (rest : Bytes) : Step Designated :=
  match escapeLength f.editions 15 0 rest with
  | none => .unfinished
  | some none => .fault 0
  | some (some length) =>
    match designation? f ((rest.take length).map fun b => Char.ofNat b.toNat) with
    | some (place, d) =>
      if d == asciiSet || f.sets.contains d then .text [] length (s.set place d) else .fault length
    | none => .fault length

/-- The characters that were added to the Greek code page after it was made part of a family. -/
def lateGreek : List Nat := [0xA4, 0xA5, 0xAA]

/-- The code point of a byte of the Greek code page. -/
def greek? (n : Nat) : Option Nat :=
  if lateGreek.contains n then none
  else ((pageChars ((pages.lookup "iso8859_7").getD ""))[n]?).filter (· != 0xFFFD)

/-- The code point that a byte stands for in the third place. -/
def Designated.thirdPoint? (s : Designated) (b : UInt8) : Option Nat :=
  match s.third.letter with
  | 'A' => if b < 0x80 then some (b.toNat + 0x80) else none
  | 'F' => if b < 0x80 then greek? (b.toNat + 0x80) else some (b.toNat - 0x80)
  | _ => if b < 0x80 then some b.toNat else none

/-- The step for a single character of the third place. -/
def Designated.singleShift (s : Designated) (rest : Bytes) : Step Designated :=
  match rest with
  | _ :: b :: _ =>
    match s.thirdPoint? b with
    | some n => .text [.ofNumber n] 2 s
    | none => .fault 2
  | _ => .unfinished

/-- The step for a character of the set in use. -/
def Family.character (f : Family) (s : Designated) (a : UInt8) (rest : Bytes) : Step Designated :=
  let d := if s.shifted then s.second else s.first
  if d == asciiSet then .text [.char (Char.ofNat a.toNat)] 0 s
  else if d.double then
    match rest with
    | [] => .unfinished
    | b :: _ =>
      match doubleIn? f.isLate d.letter a b with
      | some cs => .text (.ofChars cs) 1 s
      | none => .fault 1
  else
    match singleIn? d.letter a with
    | some c => .text [.char c] 0 s
    | none => .fault 0

/-- A step of reading a charset that switches by escape sequences. An unknown escape sequence is
passed through up to the byte that ends it, and a line break ends a shift. -/
def Family.step (f : Family) (s : Designated) (a : UInt8) (rest : Bytes) : Step Designated :=
  let c := Char.ofNat a.toNat
  if s.passing then .text [.char c] 0 { s with passing := !endsEscape a }
  else if a == 0x1B then
    match rest with
    | [] => .unfinished
    | b :: _ =>
      if "()$.&".toList.contains (Char.ofNat b.toNat) then f.escape s rest
      else if f.third && b == 0x4E then s.singleShift rest
      else .text [.char c] 0 { s with passing := true }
  else if f.shifts && a == 0x0F then .text [] 0 { s with shifted := false }
  else if f.shifts && a == 0x0E then .text [] 0 { s with shifted := true }
  else if a == 0x0A then .text [.char '\n'] 0 { s with shifted := false }
  else if a < 0x20 then .text [.char c] 0 s
  else if 0x80 ≤ a then .fault 0
  else f.character s a rest

/-! ## Tildes -/

/-- A step of the reading that switches by tildes; the state says that the Chinese set is in use. -/
def tildeStep (chinese : Bool) (a : UInt8) (rest : Bytes) : Step Bool :=
  if a == 0x7E then
    match rest with
    | [] => .unfinished
    | b :: _ =>
      if !chinese && b == 0x7E then .text [.char '~'] 1 chinese
      else if !chinese && b == 0x7B then .text [] 1 true
      else if !chinese && b == 0x0A then .text [] 1 chinese
      else if chinese && b == 0x7D then .text [] 1 false
      else .fault 0
  else if 0x80 ≤ a then .fault 0
  else if !chinese then .text [.char (Char.ofNat a.toNat)] 0 chinese
  else
    match rest with
    | [] => .unfinished
    | b :: _ =>
      match doubleIn? false 'A' a b with
      | some cs => .text (.ofChars cs) 1 chinese
      | none => .fault 0

end ParseBench.Text.Charset
