import ParseBench.Text.Charset.Escapes
import ParseBench.Text.Charset.Label
import ParseBench.Text.Charset.Switching
import ParseBench.Text.Charset.Utf7
import ParseBench.Text.Punycode

set_option relaxedAutoImplicit false
set_option autoImplicit false

/-!
# Charsets of downloaded texts

A server may announce the charset of a text. Bytes that stand for nothing in the charset become
replacement characters. Some labels name transformations that give no text at all, and some texts
cannot be read because their byte order is left open.

## Main definitions

* `ParseBench.Text.Charset` — the charsets.
* `ParseBench.Text.Charset.ofLabel?` — the charset that a label names.
* `ParseBench.Text.Charset.decode` — the text of some bytes.
* `ParseBench.Text.Charset.strict?` — the text of some bytes that all stand for something.
* `ParseBench.Text.Charset.Fault` — why there is none.
-/

namespace ParseBench.Text

/-- A transformation that has a label and gives no text. -/
inductive Charset.Transformation where
  /-- Bytes that stand for other bytes. -/
  | binary
  /-- Letters that are turned around the alphabet. -/
  | rotation
  /-- A text of host names, in which nothing can be replaced. -/
  | hostNames
  /-- What always fails. -/
  | undefined
deriving DecidableEq, Repr

/-- A charset. -/
inductive Charset where
  | utf8
  /-- UTF-8 in which a leading byte order mark does not count, nor a part of one that is all there
  is. -/
  | utf8Signed
  | utf7
  /-- UTF-16 in the byte order of its mark, which does not count. -/
  | utf16
  /-- UTF-16 with the high byte first or last. -/
  | utf16Fixed (bigFirst : Bool)
  /-- UTF-32 in the byte order of its mark, which does not count. -/
  | utf32
  /-- UTF-32 with the high byte first or last. -/
  | utf32Fixed (bigFirst : Bool)
  /-- A code page, by its table. -/
  | page (table : String)
  | eastAsian (kind : Charset.EastAsian)
  /-- A charset that switches by escape sequences. -/
  | family (f : Charset.Family)
  /-- A charset that switches by tildes. -/
  | tilde
  | punycode
  /-- Escapes in the bare or the full form. -/
  | escapes (bare : Bool)
  | transformation (kind : Charset.Transformation)
deriving DecidableEq, Repr

namespace Charset

/-! ## Names -/

/-- The charsets that are neither code pages nor families, by their proper names. -/
def named : List (String × Charset) :=
  [("utf_8", .utf8), ("utf_8_sig", .utf8Signed), ("utf_7", .utf7), ("utf_16", .utf16),
   ("utf_16_le", .utf16Fixed false), ("utf_16_be", .utf16Fixed true), ("utf_32", .utf32),
   ("utf_32_le", .utf32Fixed false), ("utf_32_be", .utf32Fixed true),
   ("shift_jis", .eastAsian .shiftJis), ("cp932", .eastAsian .page932), ("euc_jp", .eastAsian .eucJp),
   ("shift_jisx0213", .eastAsian (.shiftJisExtended false)),
   ("shift_jis_2004", .eastAsian (.shiftJisExtended true)),
   ("euc_jisx0213", .eastAsian (.eucJpExtended false)),
   ("euc_jis_2004", .eastAsian (.eucJpExtended true)), ("gb2312", .eastAsian .gb2312),
   ("gbk", .eastAsian .gbk), ("gb18030", .eastAsian .gb18030), ("big5", .eastAsian .big5),
   ("cp950", .eastAsian .page950), ("big5hkscs", .eastAsian .hongKong), ("euc_kr", .eastAsian .eucKr),
   ("cp949", .eastAsian .page949), ("johab", .eastAsian .johab), ("hz", .tilde),
   ("punycode", .punycode), ("unicode_escape", .escapes false), ("raw_unicode_escape", .escapes true),
   ("base64_codec", .transformation .binary), ("bz2_codec", .transformation .binary),
   ("hex_codec", .transformation .binary), ("quopri_codec", .transformation .binary),
   ("uu_codec", .transformation .binary), ("zlib_codec", .transformation .binary),
   ("rot_13", .transformation .rotation), ("idna", .transformation .hostNames),
   ("undefined", .transformation .undefined)]

/-- The charset of a proper name. -/
def ofName? (name : String) : Option Charset :=
  ((named.lookup name).or ((pages.lookup name).map .page)).or ((families.lookup name).map .family)

/-- The charset that a label names. -/
def ofLabel? (label : String) : Option Charset := ofName? (properName label)

/-! ## Decoding -/

/-- Why bytes have no text. -/
inductive Fault where
  /-- A text of units of `bits` bits does not say which byte of a unit comes first. -/
  | noByteOrder (bits : Nat)
  /-- A distance of a text in Punycode is written with a byte that is not ASCII; the place counts
  from the last hyphen. -/
  | distanceByte (byte : UInt8) (place : Nat)
  | noText (kind : Transformation)
deriving DecidableEq, Repr

/-- The wording of a fault. -/
def Fault.message : Fault → String
  | .noByteOrder bits => "UTF-" ++ bits.repr ++ " stream does not start with BOM"
  | .distanceByte byte place =>
    "'ascii' codec can't decode byte 0x" ++ String.ofList (hexDigits 2 byte.toNat) ++ " in position " ++
      place.repr ++ ": ordinal not in range(128)"
  | .noText .binary => ""
  | .noText .rotation => "descriptor 'translate' for 'str' objects doesn't apply to a 'bytes' object"
  | .noText .hostNames => "Unsupported error handling replace"
  | .noText .undefined => "undefined encoding"

/-- A step of reading UTF-8. -/
def utf8Step (_ : Unit) (b : UInt8) (rest : Bytes) : Step Unit :=
  match Utf8.next b rest with
  | .char c more => .one c more
  | .fault _ more => .fault more

/-- The reading of a code page. -/
def readPage (table : String) (bytes : Bytes) : Reading :=
  let chars := (pageChars table).toArray
  bytes.map fun b =>
    let n := chars.getD b.toNat replacementChar.toNat
    if n == replacementChar.toNat then none else some (.ofNumber n)

/-- The byte order that a mark tells, and what follows it. -/
def splitMark16? : Bytes → Option (Bool × Bytes)
  | 0xFF :: 0xFE :: rest => some (false, rest)
  | 0xFE :: 0xFF :: rest => some (true, rest)
  | _ => none

/-- The byte order that a mark of four bytes tells, and what follows it. -/
def splitMark32? : Bytes → Option (Bool × Bytes)
  | 0xFF :: 0xFE :: 0x00 :: 0x00 :: rest => some (false, rest)
  | 0x00 :: 0x00 :: 0xFE :: 0xFF :: rest => some (true, rest)
  | _ => none

/-- The reading of a text with a mark, given the reading without one and the number of bits of a
unit. Less than a unit needs no mark, and nor does any text if the mark is `optional`: then the low
byte comes first. -/
def readMarked (optional : Bool) (bits : Nat) (split? : Bytes → Option (Bool × Bytes))
    (reading : Bool → Bytes → Reading) (bytes : Bytes) : Except Fault Reading :=
  match split? bytes with
  | some (bigFirst, rest) => .ok (reading bigFirst rest)
  | none =>
    if optional || bytes.length * 8 < bits then .ok (reading false bytes) else .error (.noByteOrder bits)

/-- UTF-8 without a leading mark, and without a part of one that is all there is. -/
def withoutMark : Bytes → Bytes
  | 0xEF :: 0xBB :: 0xBF :: rest => rest
  | [0xEF] | [0xEF, 0xBB] => []
  | bytes => bytes

/-- The text of Punycode. Bytes before the last hyphen that are not ASCII are replaced, and the text
ends where the distances do not go on. -/
def decodePunycode (bytes : Bytes) : Except Fault Points :=
  let (basic, extended) := Punycode.splitLast (· == 0x2D) bytes
  match extended.findIdx? (0x80 ≤ ·) with
  | some place => .error (.distanceByte (extended.getD place 0) place)
  | none =>
    let numbers := basic.map fun b => if b < 0x80 then b.toNat else replacementChar.toNat
    let text := Punycode.insertFrom true bytes.length numbers 0x80 0 72 true
      (extended.map fun b => Char.ofNat b.toNat)
    .ok ((text.getD numbers).map .ofNumber)

/-- What bytes stand for. The byte order mark of wide units may be `optional`. -/
def reading (optional : Bool) (charset : Charset) (bytes : Bytes) : Except Fault Reading :=
  match charset with
  | .utf8 => .ok (read utf8Step () bytes)
  | .utf8Signed => .ok (read utf8Step () (withoutMark bytes))
  | .utf7 => .ok (readUtf7 bytes)
  | .utf16 => readMarked optional 16 splitMark16? readUnits bytes
  | .utf16Fixed bigFirst => .ok (readUnits bigFirst bytes)
  | .utf32 => readMarked optional 32 splitMark32? readUnits32 bytes
  | .utf32Fixed bigFirst => .ok (readUnits32 bigFirst bytes)
  | .page table => .ok (readPage table bytes)
  | .eastAsian kind => .ok (read kind.step () bytes)
  | .family f => .ok (read f.step .initial bytes)
  | .tilde => .ok (read tildeStep false bytes)
  | .punycode => (decodePunycode bytes).map fun s => s.map some
  | .escapes bare => .ok (read (if bare then bareEscapeStep else escapeStep) () bytes)
  | .transformation kind => .error (.noText kind)

/-- The text of some bytes. Bytes that stand for nothing are replaced. -/
def decode (charset : Charset) (bytes : Bytes) : Except Fault Points :=
  (charset.reading false bytes).map Reading.lossy

/-- The text of some bytes that all stand for something. -/
def strict? (charset : Charset) (bytes : Bytes) : Option Points :=
  match charset with
  | .punycode =>
    if bytes.all (· < 0x80) then
      (Punycode.decode (bytes.map fun b => Char.ofNat b.toNat)).map fun s => s.map .ofNumber
    else none
  | _ =>
    match charset.reading true bytes with
    | .ok r => r.strict?
    | .error _ => none

end Charset

end ParseBench.Text
