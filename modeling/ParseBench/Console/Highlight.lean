import ParseBench.Console.StyledText

set_option relaxedAutoImplicit false
set_option autoImplicit false

/-!
# Highlighted JSON

Verbatim text is taken for JSON, and its tokens are shown in colors of their own. Nothing is
refused: what can belong to no token is one by itself, so that the tokens always make up the text.

## Main definitions

* `ParseBench.Console.Highlight.Kind` — the kinds of tokens, and
  `ParseBench.Console.Highlight.Kind.style` their styles.
* `ParseBench.Console.Highlight.tokens` — the tokens of a text.
* `ParseBench.Console.Highlight.lines` — the lines of a text with the styles of their tokens.
-/

namespace ParseBench.Console.Highlight

/-! ## Tokens -/

/-- The kinds of tokens. -/
inductive Kind where
  | blank
  | punctuation
  | constant
  | number
  | string
  /-- A string before a colon. -/
  | key
  | comment
  /-- What belongs to no token. -/
  | stray
deriving DecidableEq, Repr

/-- A token and its characters. -/
structure Token where
  kind : Kind
  chars : List Char
deriving DecidableEq, Repr

/-- What the next character of a string is to. -/
inductive Escape where
  | none
  /-- It follows a backslash. -/
  | begun
  /-- It is one of so many hexadecimal digits and one more. -/
  | digits (more : Nat)
deriving DecidableEq, Repr

/-- Whether a character is a hexadecimal digit. -/
def isHexDigit (c : Char) : Bool := c.isDigit || ('a' ≤ c && c ≤ 'f') || ('A' ≤ c && c ≤ 'F')

/-- What the character after `c` in a string is to. -/
def Escape.next (c : Char) : Escape → Escape
  | .none => if c == '\\' then .begun else .none
  | .begun => if c == 'u' then .digits 3 else .none
  | .digits 0 => .none
  | .digits (more + 1) => if isHexDigit c then .digits more else .none

/-- The number of characters up to the quote that closes a string, with the quote. -/
def stringLength? (escape : Escape) : List Char → Option Nat
  | [] => Option.none
  | c :: rest =>
    if escape == .none && c == '"' then some 1 else (stringLength? (escape.next c) rest).map (· + 1)

/-- The number of characters up to the end of a comment that an asterisk and a slash close. -/
def commentLength? : List Char → Option Nat
  | '*' :: '/' :: _ => some 2
  | _ :: rest => (commentLength? rest).map (· + 1)
  | [] => none

/-- Whether a character is blank in JSON. -/
def isBlankHere (c : Char) : Bool := c == ' ' || c == '\n' || c == '\r' || c == '\t'

/-- Whether a character is punctuation, colons apart. -/
def isMark (c : Char) : Bool := ['\x7b', '\x7d', '[', ']', ','].contains c

/-- Whether a character may stand in a number. -/
def inNumber (c : Char) : Bool := c.isDigit || "-.eE+".toList.contains c

/-- Whether a character may stand in a constant. -/
def inConstant (c : Char) : Bool := "truefalsn".toList.contains c

/-- The kind of the first token of a text and the number of its characters after the first, `c`. -/
def firstToken (c : Char) (rest : List Char) : Kind × Nat :=
  let run (kind : Kind) (p : Char → Bool) : Kind × Nat := (kind, (rest.takeWhile p).length)
  if c == '"' then
    match stringLength? .none rest with
    | some n => (.string, n)
    | none => (.stray, rest.length)
  else if isBlankHere c then run .blank isBlankHere
  else if c == 'f' || c == 'n' || c == 't' then run .constant inConstant
  else if c.isDigit || c == '-' then run .number inNumber
  else if c == ':' || isMark c then run .punctuation isMark
  else if c == '/' then
    match rest with
    | '/' :: _ => run .comment (· != '\n')
    | '*' :: rest =>
      match commentLength? rest with
      | some n => (.comment, n + 1)
      | none => (.stray, rest.length + 1)
    | _ => (.stray, 0)
  else (.stray, 0)

/-- The tokens of a text, strings not told from keys; `fuel` bounds their number. -/
def tokensUpTo : Nat → List Char → List Token
  | 0, _ => []
  | _ + 1, [] => []
  | fuel + 1, c :: rest =>
    let (kind, n) := firstToken c rest
    ⟨kind, c :: rest.take n⟩ :: tokensUpTo fuel (rest.drop n)

/-- Tells keys from other strings, and whether a colon comes next but for strings, blanks and
comments. -/
def markKeys : List Token → List Token × Bool
  | [] => ([], false)
  | t :: rest =>
    let (rest, colon) := markKeys rest
    match t.kind with
    | .string => ((if colon then { t with kind := .key } else t) :: rest, colon)
    | .blank | .comment => (t :: rest, colon)
    | _ => (t :: rest, t.chars.head? == some ':')

/-- The tokens of a text. -/
def tokens (s : List Char) : List Token := (markKeys (tokensUpTo s.length s)).1

/-! ## Styles -/

/-- A color by its shares. -/
def shade (red green blue : Nat) : Color := ⟨"", .shares red green blue⟩

/-- The style behind the text. -/
def ground : Style := ⟨[], none, some (shade 0x27 0x28 0x22), none⟩

/-- The style of a kind of tokens. -/
def Kind.style (kind : Kind) : Style :=
  let color := match kind with
    | .blank | .punctuation => shade 0xF8 0xF8 0xF2
    | .constant => shade 0x66 0xD9 0xEF
    | .number => shade 0xAE 0x81 0xFF
    | .string => shade 0xE6 0xDB 0x74
    | .key => shade 0xFF 0x46 0x89
    | .comment => shade 0x95 0x90 0x77
    | .stray => shade 0xED 0x00 0x7E
  let background := if kind == .stray then shade 0x1E 0x00 0x10 else shade 0x27 0x28 0x22
  let off := [Attribute.bold, .italic, .underline].map fun a => (a, false)
  ⟨off, some color, some background, none⟩

/-! ## Lines -/

/-- Adds the parts of a token in several lines, the first of which ends the first of the lines that
follow. -/
def addToken (kind : Kind) (following : List (List Token)) : List (List Char) → List (List Token)
  | [] => following
  | [part] =>
    match following with
    | [] => [[⟨kind, part⟩]]
    | line :: rest => (⟨kind, part⟩ :: line) :: rest
  | part :: parts => [⟨kind, part⟩] :: addToken kind following parts

/-- The tokens of each line. -/
def tokenLines (ts : List Token) : List (List Token) :=
  ts.foldr (fun t following => addToken t.kind following (Text.splitOnChar '\n' t.chars)) [[]]

/-- The spans of tokens that begin at a place. -/
def spansFrom (place : Nat) : List Token → List Span
  | [] => []
  | t :: rest =>
    if t.chars.isEmpty then spansFrom place rest
    else ⟨place, place + t.chars.length, t.kind.style⟩ :: spansFrom (place + t.chars.length) rest

/-- The lines of a text with the styles of their tokens. Characters that are not `shown` are left
out after the spans have been measured. -/
def lines (shown : Char → Bool) (s : List Char) : List StyledText :=
  (tokenLines (tokens s)).map fun line =>
    ⟨(line.flatMap Token.chars).filter shown, some ground, spansFrom 0 line⟩

end ParseBench.Console.Highlight
