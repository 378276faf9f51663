import ParseBench.Text.Charset.Reading

set_option relaxedAutoImplicit false
set_option autoImplicit false

/-!
# Escaped texts

Each byte stands for the character of its number, and a backslash begins an escape. In the full form
escapes write control characters, code points in octal and in hexadecimal, and line breaks that do
not count; in the bare form they write code points of four and eight hexadecimal digits only.

## Main definitions

* `ParseBench.Text.Charset.escapeStep` — a step in the full form.
* `ParseBench.Text.Charset.bareEscapeStep` — a step in the bare form.
-/

namespace ParseBench.Text.Charset

/-- The value of a hexadecimal digit in either case. -/
def hexValue? (b : UInt8) : Option Nat :=
  if 0x30 ≤ b && b ≤ 0x39 then some (b.toNat - 0x30)
  else if 0x41 ≤ b && b ≤ 0x46 then some (b.toNat - 0x41 + 10)
  else if 0x61 ≤ b && b ≤ 0x66 then some (b.toNat - 0x61 + 10)
  else none

/-- The code point of some hexadecimal digits; `read` bytes of the escape come before them, after
its backslash. -/
def hexEscape (read : Nat) : Nat → Nat → Bytes → Step Unit
  | 0, n, _ => if 0x10FFFF < n then .fault read else .text [.ofNumber n] read ()
  | _ + 1, _, [] => .unfinished
  | left + 1, n, b :: rest =>
    match hexValue? b with
    | some digit => hexEscape (read + 1) left (n * 16 + digit) rest
    | none => .fault read

/-- The characters that a letter or mark after a backslash stands for. -/
def simpleEscapes : List (Char × List Char) :=
  [('\n', []), ('\\', ['\\']), ('\x27', ['\x27']), ('"', ['"']), ('b', ['\x08']), ('f', ['\x0c']),
   ('t', ['\t']), ('n', ['\n']), ('r', ['\r']), ('v', ['\x0b']), ('a', ['\x07'])]

/-- Whether a byte is an octal digit. -/
def isOctal (b : UInt8) : Bool := 0x30 ≤ b && b ≤ 0x37

/-- The code point of up to three octal digits. -/
def octalEscape (bytes : Bytes) : Step Unit :=
  let digits := (bytes.take 3).takeWhile isOctal
  .text [.ofNumber (digits.foldl (fun n b => n * 8 + (b.toNat - 0x30)) 0)] digits.length ()

/-- The escape of a name between braces. No name is known. -/
def nameEscape (rest : Bytes) : Step Unit :=
  match rest with
  | [] => .unfinished
  | 0x7B :: name =>
    match name.span (· != 0x7D) with
    | (_, []) => .unfinished
    | ([], _) => .fault 2
    | (letters, _) => .fault (letters.length + 3)
  | _ => .fault 1

/-- A step in the full form. -/
def escapeStep (_ : Unit) (b : UInt8) (rest : Bytes) : Step Unit :=
  if b != 0x5C then .one (Char.ofNat b.toNat) 0
  else match rest with
  | [] => .unfinished
  | e :: after =>
    let c := Char.ofNat e.toNat
    match simpleEscapes.lookup c with
    | some cs => .text (.ofChars cs) 1 ()
    | none =>
      if isOctal e then octalEscape rest
      else if c == 'x' then hexEscape 1 2 0 after
      else if c == 'u' then hexEscape 1 4 0 after
      else if c == 'U' then hexEscape 1 8 0 after
      else if c == 'N' then nameEscape after
      else .text (.ofChars ['\\', c]) 1 ()

/-- A step in the bare form. -/
def bareEscapeStep (_ : Unit) (b : UInt8) (rest : Bytes) : Step Unit :=
  if b != 0x5C then .one (Char.ofNat b.toNat) 0
  else match rest with
  | [] => .one '\\' 0
  | e :: after =>
    let c := Char.ofNat e.toNat
    if c == 'u' then hexEscape 1 4 0 after
    else if c == 'U' then hexEscape 1 8 0 after
    else .text (.ofChars ['\\', c]) 1 ()

end ParseBench.Text.Charset
