import ParseBench.Text.Quoted

set_option relaxedAutoImplicit false
set_option autoImplicit false

/-!
# UTF-8

Encoding, strict decoding with the place and the reason of the first fault, and lossy decoding in
which every fault becomes one replacement character.

## Main definitions

* `ParseBench.Text.Bytes` — a sequence of bytes.
* `ParseBench.Text.Utf8.encode` — the bytes of a text.
* `ParseBench.Text.Utf8.surrogates?` — the surrogates that keep a text from being encoded.
* `ParseBench.Text.Utf8.decode` — the text of some bytes, or the first fault.
* `ParseBench.Text.Utf8.decodeLossy` — the text of some bytes with the faults replaced.

## Implementation notes

`Utf8.next` reads one character or one fault. A fault spans the longest run of bytes at its place
that could have begun a character, or a single byte if there is none.
-/

namespace ParseBench.Text

/-- A sequence of bytes. -/
abbrev Bytes := List UInt8

namespace Utf8

/-- The bytes of a list of characters. -/
def encodeChars (s : List Char) : Bytes :=
  s.flatMap String.utf8EncodeChar

/-- The bytes of a text. -/
def encode (s : String) : Bytes :=
  encodeChars s.toList

/-- Surrogates that cannot be encoded: the first of them, its offset and their number. -/
structure SurrogateFault where
  offset : Nat
  count : Nat
  first : CodePoint
deriving DecidableEq, Repr

/-- The wording of surrogates that cannot be encoded. -/
def SurrogateFault.message (f : SurrogateFault) : String :=
  "'utf-8' codec can't encode " ++
    (if f.count == 1 then
      "character '\\u" ++ String.ofList (hexDigits 4 f.first.number) ++ "' in position " ++
        f.offset.repr
    else
      "characters in position " ++ f.offset.repr ++ "-" ++ (f.offset + f.count - 1).repr) ++
    ": surrogates not allowed"

/-- The first run of surrogates of a text. -/
def surrogates? (s : Points) : Option SurrogateFault :=
  match s.span fun p => !p.isSurrogate with
  | (_, []) => none
  | (before, p :: rest) =>
    some ⟨before.length, (rest.takeWhile CodePoint.isSurrogate).length + 1, p⟩

/-- Why bytes are not UTF-8. -/
inductive Reason where
  /-- No character begins with this byte. -/
  | invalidStart
  /-- A byte that should continue a character does not. -/
  | invalidContinuation
  /-- The input ends inside a character. -/
  | unexpectedEnd
deriving DecidableEq, Repr

/-- The wording of a reason. -/
def Reason.message : Reason → String
  | .invalidStart => "invalid start byte"
  | .invalidContinuation => "invalid continuation byte"
  | .unexpectedEnd => "unexpected end of data"

/-- A fault: `width` bytes from `offset` on are not UTF-8; `byte` is the first of them. -/
structure Fault where
  offset : Nat
  width : Nat
  byte : UInt8
  reason : Reason
deriving DecidableEq, Repr

/-- The wording of a fault. -/
def Fault.message (f : Fault) : String :=
  let hex := Nat.toDigits 16 f.byte.toNat
  let place :=
    if f.width == 1 then
      "byte 0x" ++ String.ofList (List.replicate (2 - hex.length) '0' ++ hex) ++ " in position " ++
        f.offset.repr
    else "bytes in position " ++ f.offset.repr ++ "-" ++ (f.offset + f.width - 1).repr
  "'utf-8' codec can't decode " ++ place ++ ": " ++ f.reason.message

/-- What stands at the front of some bytes: a character or a fault, and the number of bytes that
belong to it after the first. -/
inductive Item where
  | char (c : Char) (more : Nat)
  | fault (reason : Reason) (more : Nat)
deriving DecidableEq, Repr

/-- Whether a byte may continue a character. -/
def isContinuation (b : UInt8) : Bool := 0x80 ≤ b && b < 0xC0

/-- The payload of a continuation byte. -/
def payload (b : UInt8) : Nat := b.toNat % 64

/-- The second bytes admitted after the first byte `a` of a longer character: the bounds exclude
overlong forms, surrogates and numbers past the last code point. -/
def secondBounds (a : UInt8) : UInt8 × UInt8 :=
  if a == 0xE0 then (0xA0, 0xBF)
  else if a == 0xED then (0x80, 0x9F)
  else if a == 0xF0 then (0x90, 0xBF)
  else if a == 0xF4 then (0x80, 0x8F)
  else (0x80, 0xBF)

/-- Whether `b` may follow the first byte `a`. -/
def admitsSecond (a b : UInt8) : Bool :=
  (secondBounds a).1 ≤ b && b ≤ (secondBounds a).2

/-- Reads one character or one fault, given the first byte and the bytes after it. -/
def next (a : UInt8) (rest : Bytes) : Item :=
  if a < 0x80 then .char (Char.ofNat a.toNat) 0
  else if a < 0xC2 || 0xF4 < a then .fault .invalidStart 0
  else match rest with
  | [] => .fault .unexpectedEnd 0
  | b :: rest =>
    if !admitsSecond a b then .fault .invalidContinuation 0
    else if a < 0xE0 then .char (Char.ofNat ((a.toNat % 32) * 64 + payload b)) 1
    else match rest with
    | [] => .fault .unexpectedEnd 1
    | c :: rest =>
      if !isContinuation c then .fault .invalidContinuation 1
      else if a < 0xF0 then
        .char (Char.ofNat (((a.toNat % 16) * 64 + payload b) * 64 + payload c)) 2
      else match rest with
      | [] => .fault .unexpectedEnd 2
      | d :: _ =>
        if !isContinuation d then .fault .invalidContinuation 2
        else
          .char (Char.ofNat
            ((((a.toNat % 8) * 64 + payload b) * 64 + payload c) * 64 + payload d)) 3

/-- Decodes the bytes from `offset` on; `skip` bytes belong to the character already read. -/
def decodeFrom (offset skip : Nat) (read : List Char) : Bytes → Except Fault (List Char)
  | [] => .ok read.reverse
  | b :: rest =>
    match skip with
    | skip + 1 => decodeFrom (offset + 1) skip read rest
    | 0 =>
      match next b rest with
      | .char c more => decodeFrom (offset + 1) more (c :: read) rest
      | .fault reason more => .error ⟨offset, more + 1, b, reason⟩

/-- The characters of some bytes, or the first fault. -/
def decodeChars (bytes : Bytes) : Except Fault (List Char) :=
  decodeFrom 0 0 [] bytes

/-- The text of some bytes, or the first fault. -/
def decode (bytes : Bytes) : Except Fault String :=
  (decodeChars bytes).map String.ofList

/-- The replacement character. -/
def replacement : Char := replacementChar

/-- Decodes with every fault replaced; `skip` bytes belong to the item already read. -/
def decodeLossyFrom (skip : Nat) (read : List Char) : Bytes → List Char
  | [] => read.reverse
  | b :: rest =>
    match skip with
    | skip + 1 => decodeLossyFrom skip read rest
    | 0 =>
      match next b rest with
      | .char c more => decodeLossyFrom more (c :: read) rest
      | .fault _ more => decodeLossyFrom more (replacement :: read) rest

/-- The text of some bytes, each fault replaced by one replacement character. -/
def decodeLossy (bytes : Bytes) : String :=
  String.ofList (decodeLossyFrom 0 [] bytes)

end Utf8

end ParseBench.Text
