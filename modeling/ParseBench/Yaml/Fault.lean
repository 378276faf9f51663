import ParseBench.Text.Integer

set_option relaxedAutoImplicit false
set_option autoImplicit false

/-!
# Why a text is not usable YAML

Most faults are violations of the syntax. The others come from scalars whose tag asks for a value
that their text does not have.

## Main definitions

* `ParseBench.Yaml.ScalarFault` — a scalar has no value of its kind.
* `ParseBench.Yaml.Fault` — all faults.
-/

namespace ParseBench.Yaml

open ParseBench.Text (IntegerFault Points quotedPoints)

/-- A scalar has no value of the kind that its tag asks for. -/
inductive ScalarFault where
  | integer (fault : IntegerFault)
  | float (text : Points)
  /-- A digit in base sixty stands so far in front that its place value is out of range. -/
  | floatRange
  /-- A number without any digits. -/
  | emptyNumber
  | boolean (text : Points)
  | timestamp
  /-- A timestamp written as a mapping. -/
  | timestampMapping
  | year (n : Nat)
  | month
  | day
  | hour
  | minute
  | second
  /-- The distance from universal time is a day or more; it is given in minutes. -/
  | offset (minutes : Int)
  /-- An escape writes a number past the last code point. -/
  | codePoint
  /-- An escape writes a number that does not even fit 31 bits. -/
  | codePointSize
deriving DecidableEq, Repr

/-- A number of minutes as days and seconds, the seconds not negative. -/
def offsetText (minutes : Int) : String :=
  let days := Int.fdiv minutes 1440
  let seconds := (Int.fmod minutes 1440) * 60
  "datetime.timedelta(days=" ++ Text.intText days ++
    (if seconds == 0 then "" else ", seconds=" ++ Text.intText seconds) ++ ")"

/-- The wording of a scalar fault. -/
def ScalarFault.message : ScalarFault → String
  | .integer fault => fault.message
  | .float text => "could not convert string to float: " ++ quotedPoints text
  | .floatRange => "int too large to convert to float"
  | .emptyNumber => "string index out of range"
  | .boolean text => quotedPoints text
  | .timestamp => "'NoneType' object has no attribute 'groupdict'"
  | .timestampMapping => "expected string or bytes-like object, got 'list'"
  | .year n => "year " ++ n.repr ++ " is out of range"
  | .month => "month must be in 1..12"
  | .day => "day is out of range for month"
  | .hour => "hour must be in 0..23"
  | .minute => "minute must be in 0..59"
  | .second => "second must be in 0..59"
  | .offset minutes =>
    "offset must be a timedelta strictly between -timedelta(hours=24) and timedelta(hours=24), not " ++
      offsetText minutes ++ "."
  | .codePoint => "chr() arg not in range(0x110000)"
  | .codePointSize => "Python int too large to convert to C int"

/-- Why a text is not usable YAML. -/
inductive Fault where
  /-- The syntax is violated, or a node cannot be constructed. -/
  | malformed (detail : String)
  | scalar (fault : ScalarFault)
  /-- The collections are nested too deeply. -/
  | tooDeep
deriving DecidableEq, Repr

end ParseBench.Yaml
