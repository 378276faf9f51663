import ParseBench.Text.CodePoint
import ParseBench.Text.Newlines

set_option relaxedAutoImplicit false
set_option autoImplicit false

/-!
# Tags implied by text

A plain scalar without a tag has the tag of the first kind of value whose notation its text has, and
is a text otherwise. A single LF at the end of the text does not count.

## Main definitions

* `ParseBench.Yaml.Tags.base` and the definitions after it — the full tags of the kinds of values.
* `ParseBench.Yaml.isInt`, `ParseBench.Yaml.isFloat`, `ParseBench.Yaml.isTimestamp` — the notations.
* `ParseBench.Yaml.implicitTag` — the tag implied by a text.
-/

namespace ParseBench.Yaml

namespace Tags

/-- The common beginning of the tags. -/
def base : String := "tag:yaml.org,2002:"

def null : String := base ++ "null"
def bool : String := base ++ "bool"
def int : String := base ++ "int"
def float : String := base ++ "float"
def binary : String := base ++ "binary"
def timestamp : String := base ++ "timestamp"
def orderedMapping : String := base ++ "omap"
def pairs : String := base ++ "pairs"
def set : String := base ++ "set"
def text : String := base ++ "str"
def sequence : String := base ++ "seq"
def mapping : String := base ++ "map"
def merge : String := base ++ "merge"
def value : String := base ++ "value"
def indicator : String := base ++ "yaml"

end Tags

/-! ## Notations -/

/-- The words for truth values. -/
def boolWords : List String :=
  ["yes", "Yes", "YES", "no", "No", "NO", "true", "True", "TRUE", "false", "False", "FALSE", "on",
   "On", "ON", "off", "Off", "OFF"]

/-- The words for nothing. -/
def nullWords : List String := ["", "~", "null", "Null", "NULL"]

/-- Whether a character is a digit or an underscore. -/
def isDigitOrLow (c : Char) : Bool := c.isDigit || c == '_'

/-- A text without a sign in front. -/
def dropSign : List Char → List Char
  | '+' :: rest => rest
  | '-' :: rest => rest
  | s => s

/-- Whether a text is not empty and all of it satisfies `p`. -/
def isRun (p : Char → Bool) (s : List Char) : Bool := !s.isEmpty && s.all p

/-- A part of a number in base sixty after a colon: a digit, or two of which the first is below
six. -/
def isSixtieth : List Char → Bool
  | [a] => a.isDigit
  | [a, b] => '0' ≤ a && a ≤ '5' && b.isDigit
  | _ => false

/-- Colons, each followed by a part in base sixty; there is at least one. -/
def areSixtieths : List Char → Bool
  | ':' :: rest => (Text.splitOnChar ':' rest).all isSixtieth
  | _ => false

/-- The notation of integers: binary, octal, decimal, hexadecimal and base sixty. -/
def isInt (s : List Char) : Bool :=
  match dropSign s with
  | [] => false
  | '0' :: rest =>
    match rest with
    | [] => true
    | 'b' :: digits => isRun (fun c => c == '0' || c == '1' || c == '_') digits
    | 'x' :: digits =>
      isRun (fun c => c.isDigit || ('a' ≤ c && c ≤ 'f') || ('A' ≤ c && c ≤ 'F') || c == '_') digits
    | digits => isRun (fun c => ('0' ≤ c && c ≤ '7') || c == '_') digits
  | c :: rest =>
    c.isDigit &&
      (let after := rest.dropWhile isDigitOrLow
       after.isEmpty || areSixtieths after)

/-- An exponent: the letter, a sign and digits. No exponent is one, too. -/
def isExponent : List Char → Bool
  | [] => true
  | e :: sign :: digits =>
    (e == 'e' || e == 'E') && (sign == '+' || sign == '-') && isRun Char.isDigit digits
  | _ => false

/-- A number with a point, in decimal or base sixty, whose whole part begins with a digit. -/
def isPointed (s : List Char) : Bool :=
  match s with
  | c :: rest =>
    c.isDigit &&
      (match rest.dropWhile isDigitOrLow with
      | '.' :: part => isExponent (part.dropWhile isDigitOrLow)
      | ':' :: parts =>
        match (':' :: parts).span (· != '.') with
        | (sixtieths, '.' :: part) => areSixtieths sixtieths && part.all isDigitOrLow
        | _ => false
      | _ => false)
  | [] => false

/-- The notation of floating-point numbers. -/
def isFloat (s : List Char) : Bool :=
  let unsigned := dropSign s
  isPointed unsigned ||
    (match s with
    | '.' :: c :: rest => c.isDigit && isExponent (rest.dropWhile isDigitOrLow)
    | _ => false) ||
    [".inf".toList, ".Inf".toList, ".INF".toList].contains unsigned ||
    [".nan".toList, ".NaN".toList, ".NAN".toList].contains s

/-- Takes one or two digits. -/
def takeUpToTwo : List Char → Option (List Char × List Char)
  | a :: b :: rest =>
    if a.isDigit then if b.isDigit then some ([a, b], rest) else some ([a], b :: rest) else none
  | [a] => if a.isDigit then some ([a], []) else none
  | [] => none

/-- Takes exactly two digits. -/
def takeTwo : List Char → Option (List Char × List Char)
  | a :: b :: rest => if a.isDigit && b.isDigit then some ([a, b], rest) else none
  | _ => none

/-- Takes a given character. -/
def takeChar (c : Char) : List Char → Option (List Char)
  | d :: rest => if d == c then some rest else none
  | [] => none

/-- A distance from universal time: its sign, hours and minutes. -/
structure Zone where
  negative : Bool
  hours : List Char
  minutes : List Char
deriving DecidableEq, Repr

/-- The time of a timestamp. -/
structure TimeOfDay where
  hour : List Char
  minute : List Char
  second : List Char
  zone : Option Zone
deriving DecidableEq, Repr

/-- A timestamp, by its digits. -/
structure Timestamp where
  year : List Char
  month : List Char
  day : List Char
  time : Option TimeOfDay
deriving DecidableEq, Repr

/-- The zone at the end of a timestamp; none at all, or universal time, is no distance. -/
def zone? (s : List Char) : Option (Option Zone) :=
  match s.dropWhile fun c => c == ' ' || c == '\t' with
  | [] => if s.isEmpty then some none else none
  | ['Z'] => some none
  | sign :: rest =>
    if sign == '+' || sign == '-' then do
      let (hours, rest) ← takeUpToTwo rest
      match rest with
      | [] => some (some ⟨sign == '-', hours, []⟩)
      | ':' :: minutes =>
        let (minutes, rest) ← takeTwo minutes
        if rest.isEmpty then some (some ⟨sign == '-', hours, minutes⟩) else none
      | _ => none
    else none

/-- The time of a timestamp, from the letter or the blanks in front of it to the end. -/
def timeOfDay? (s : List Char) : Option TimeOfDay := do
  let body ← match s with
    | c :: rest =>
      if c == 'T' || c == 't' then some rest
      else if c == ' ' || c == '\t' then some (rest.dropWhile fun c => c == ' ' || c == '\t')
      else none
    | [] => none
  let (hour, rest) ← takeUpToTwo body
  let (minute, rest) ← takeTwo (← takeChar ':' rest)
  let (second, rest) ← takeTwo (← takeChar ':' rest)
  let rest := match rest with
    | '.' :: fraction => fraction.dropWhile Char.isDigit
    | _ => rest
  let zone ← zone? rest
  return ⟨hour, minute, second, zone⟩

/-- The parts of a timestamp: a date, possibly with a time. -/
def timestamp? (s : List Char) : Option Timestamp := do
  let (century, rest) ← takeTwo s
  let (years, rest) ← takeTwo rest
  let (month, rest) ← takeUpToTwo (← takeChar '-' rest)
  let (day, rest) ← takeUpToTwo (← takeChar '-' rest)
  if rest.isEmpty then return ⟨century ++ years, month, day, none⟩
  else return ⟨century ++ years, month, day, some (← timeOfDay? rest)⟩

/-- The notation of timestamps that need no tag: a date without a time has two digits everywhere. -/
def isTimestamp (s : List Char) : Bool :=
  match timestamp? s with
  | some t => t.time.isSome || (t.month.length == 2 && t.day.length == 2)
  | none => false

/-! ## The implied tag -/

/-- A text without a single LF at its end. -/
def dropFinalBreak (s : List Char) : List Char :=
  if s.getLast? == some '\n' then s.dropLast else s

/-- The tag implied by a text. -/
def implicitTag (text : Text.Points) : String :=
  let s := dropFinalBreak text.shape
  let word := String.ofList s
  if text.isEmpty then Tags.null
  else if s.isEmpty then Tags.text
  else if boolWords.contains word then Tags.bool
  else if isFloat s then Tags.float
  else if isInt s then Tags.int
  else if word == "<<" then Tags.merge
  else if nullWords.contains word then Tags.null
  else if isTimestamp s then Tags.timestamp
  else if word == "=" then Tags.value
  else if ["!", "&", "*"].contains word then Tags.indicator
  else Tags.text

end ParseBench.Yaml
