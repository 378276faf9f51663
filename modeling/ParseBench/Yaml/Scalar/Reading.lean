import ParseBench.Decimal.Reader
import ParseBench.Text.Lowercase
import ParseBench.Yaml.Fault
import ParseBench.Yaml.Scalar.Kind

set_option relaxedAutoImplicit false
set_option autoImplicit false

/-!
# Scalars that are read by their tag

A tag asks for a value of its kind, whether it was implied by the text or written down. Here only
the faults matter: a text that is not a number, a date that is not in the calendar.

## Main definitions

* `ParseBench.Yaml.checkInteger`, `ParseBench.Yaml.checkFloat`, `ParseBench.Yaml.checkBoolean`,
  `ParseBench.Yaml.checkBinary`, `ParseBench.Yaml.checkTimestamp` — the check of each kind.
-/

namespace ParseBench.Yaml

open ParseBench.Text (IntegerFault Points readInBase ofDigits lowerPoints)

/-! ## Numbers -/

/-- Succeeds iff an integer can be read from a text in a base. -/
def checkDigits (base : Nat) (s : Points) : Except ScalarFault Unit :=
  match readInBase base s with
  | .ok _ => .ok ()
  | .error fault => .error (.integer fault)

/-- Splits a text that has to have a first character into its sign and the rest. -/
def unsignedPart (s : Points) : Except ScalarFault Points :=
  match s with
  | [] => .error .emptyNumber
  | .char '+' :: rest | .char '-' :: rest => .ok rest
  | s => .ok s

/-- Checks an integer: underscores do not count, and the base is announced in front. -/
def checkInteger (text : Points) : Except ScalarFault Unit := do
  let s ← unsignedPart (text.filter (· != .char '_'))
  match s with
  | [] => .error .emptyNumber
  | [.char '0'] => .ok ()
  | .char '0' :: .char 'b' :: digits => checkDigits 2 digits
  | .char '0' :: .char 'x' :: digits => checkDigits 16 digits
  | .char '0' :: _ => checkDigits 8 s
  | _ => (Text.splitOnChar (.char ':') s).forM (checkDigits 10)

/-- The number of digits in base sixty whose place value is still a floating-point number. -/
def maxSixtieths : Nat := 174

/-- Checks a floating-point number: underscores and the case of letters do not count. -/
def checkFloat (text : Points) : Except ScalarFault Unit := do
  let s ← unsignedPart (lowerPoints (text.filter (· != .char '_')))
  if s == .ofString ".inf" || s == .ofString ".nan" then .ok ()
  else
    let parts := Text.splitOnChar (.char ':') s
    parts.forM fun part =>
      match Decimal.read? (Points.lossy part) with
      | some _ => .ok ()
      | none => .error (.float part)
    if maxSixtieths < parts.length then .error .floatRange else .ok ()

/-- The words for truth values in lower case. -/
def lowerBoolWords : List String := ["yes", "no", "true", "false", "on", "off"]

/-- Checks a truth value; the case of letters does not count. -/
def checkBoolean (text : Points) : Except ScalarFault Unit :=
  let word := lowerPoints text
  if lowerBoolWords.contains word.lossy then .ok () else .error (.boolean word)

/-! ## Bytes -/

/-- How far a text in base 64 has been read. -/
structure Base64State where
  /-- The number of digits since the last full group of four. -/
  position : Nat
  /-- The number of pads since the last digit. -/
  pads : Nat
  /-- Whether a padded group has ended the text. -/
  finished : Bool
deriving DecidableEq, Repr

/-- Reads one character. Characters that are neither digits nor pads are skipped. -/
def Base64State.step (b : Base64State) (c : Char) : Base64State :=
  if b.finished then b
  else if c == '=' then
    if b.position < 2 then b
    else { b with pads := b.pads + 1, finished := 4 ≤ b.position + b.pads + 1 }
  else if c.isAlphanum || c == '+' || c == '/' then
    { b with position := (b.position + 1) % 4, pads := 0 }
  else b

/-- Whether a text consists of full groups in base 64, the last one possibly padded. -/
def isBase64 (s : List Char) : Bool :=
  let final := s.foldl Base64State.step ⟨0, 0, false⟩
  final.finished || final.position == 0

/-- Checks bytes in base 64. -/
def checkBinary (text : Points) : Except Fault Unit :=
  if text.all (·.number < 0x80) && isBase64 text.shape then .ok ()
  else .error (.malformed "failed to decode base64 data")

/-! ## Timestamps -/

/-- The number written by decimal digits. -/
def decimal (digits : List Char) : Nat :=
  ofDigits 10 (digits.map fun c => c.toNat - 0x30)

/-- Whether a year has a 29 February. -/
def isLeap (year : Nat) : Bool :=
  year % 4 == 0 && (year % 100 != 0 || year % 400 == 0)

/-- The number of days of a month. -/
def daysIn (year month : Nat) : Nat :=
  if month == 2 then if isLeap year then 29 else 28
  else if [4, 6, 9, 11].contains month then 30
  else 31

/-- Checks a distance from universal time. -/
def checkZone (z : Zone) : Except ScalarFault Unit :=
  let minutes := 60 * decimal z.hours + decimal z.minutes
  if 1440 ≤ minutes then .error (.offset (Text.signed z.negative minutes)) else .ok ()

/-- Checks a date. -/
def checkDate (year month day : Nat) : Except ScalarFault Unit :=
  if year == 0 then .error (.year year)
  else if month == 0 || 12 < month then .error .month
  else if day == 0 || daysIn year month < day then .error .day
  else .ok ()

/-- Checks a time of day. -/
def checkTime (t : TimeOfDay) : Except ScalarFault Unit :=
  if 23 < decimal t.hour then .error .hour
  else if 59 < decimal t.minute then .error .minute
  else if 59 < decimal t.second then .error .second
  else .ok ()

/-- Checks a timestamp: first the distance from universal time, then the date, then the time. -/
def checkTimestamp (text : Points) : Except ScalarFault Unit :=
  match timestamp? (dropFinalBreak text.shape) with
  | none => .error .timestamp
  | some t => do
    match t.time.bind TimeOfDay.zone with
    | some z => checkZone z
    | none => .ok ()
    checkDate (decimal t.year) (decimal t.month) (decimal t.day)
    match t.time with
    | some time => checkTime time
    | none => .ok ()

end ParseBench.Yaml
