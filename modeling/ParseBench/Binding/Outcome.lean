import ParseBench.Binding.Raw
import ParseBench.Decimal.Binary64

set_option relaxedAutoImplicit false
set_option autoImplicit false

/-!
# Parse outcomes

The outcome of a parse is a serialized tree, a list of errors and a list of comments with their
source spans. A raw value is normalized into an outcome: texts are taken as they are, other values
by their display, and offsets are converted to integers.

## Main definitions

* `ParseBench.Binding.Outcome` — the outcome of a parse.
* `ParseBench.Binding.Raw.toInt`, `ParseBench.Binding.Raw.elements` — the conversions.
* `ParseBench.Binding.Outcome.ofRaw` — normalization.
-/

namespace ParseBench.Binding

open ParseBench.Text

/-- A comment and its span in the source. -/
structure Comment where
  value : String
  start : Int
  stop : Int
deriving DecidableEq, Repr

/-- The outcome of a parse. -/
structure Outcome where
  root : String
  errors : List String
  comments : List Comment
deriving DecidableEq, Repr

/-- The display of a comment. -/
def Comment.shown (c : Comment) : String :=
  "Comment(value=" ++ quoted c.value ++ ", start=" ++ intText c.start ++ ", end=" ++
    intText c.stop ++ ")"

/-- Displays in round brackets; a single one is followed by a comma. -/
def shownTuple : List String → String
  | [] => "()"
  | [x] => "(" ++ x ++ ",)"
  | xs => "(" ++ joinShown xs ++ ")"

/-- The display of an outcome. -/
def Outcome.shown (o : Outcome) : String :=
  "ParseOutcome(root=" ++ quoted o.root ++ ", errors=" ++ shownTuple (o.errors.map quoted) ++
    ", comments=" ++ shownTuple (o.comments.map Comment.shown) ++ ")"

/-! ## Conversions -/

/-- Why a value cannot be converted. -/
inductive ConversionFault where
  /-- An integer cannot be read or written. -/
  | integer (fault : IntegerFault)
  /-- A NaN has no integer part. -/
  | notANumber
  /-- An infinity has no integer part. -/
  | infinite
  /-- A value of this kind is not a number. -/
  | notNumeric (kind : String)
  /-- A value of this kind has no elements. -/
  | notIterable (kind : String)
  /-- A value is nested too deeply to be displayed. -/
  | tooDeep
deriving DecidableEq, Repr

/-- What the lack of a display is to a conversion. -/
def ConversionFault.ofDisplay : DisplayFault → ConversionFault
  | .integer fault => .integer fault
  | .tooDeep => .tooDeep

/-- The wording of a failed conversion. -/
def ConversionFault.message : ConversionFault → String
  | .integer fault => fault.message
  | .tooDeep => DisplayFault.tooDeep.message
  | .notANumber => "cannot convert float NaN to integer"
  | .infinite => "cannot convert float infinity to integer"
  | .notNumeric kind =>
    "int() argument must be a string, a bytes-like object or a real number, not '" ++ kind ++ "'"
  | .notIterable kind => "'" ++ kind ++ "' object is not iterable"

/-- The integer part of a floating-point number. -/
def truncate (x : Float) : Except ConversionFault Int :=
  match Decimal.Binary64.ofFloat x with
  | .nan => .error .notANumber
  | .infinite _ => .error .infinite
  | .finite negative mantissa exponent =>
    let (num, den) := Decimal.scaleTwo mantissa 1 exponent
    .ok (signed negative (num / den))

/-- A value as an integer. -/
def Raw.toInt : Raw → Except ConversionFault Int
  | .bool b => .ok (if b then 1 else 0)
  | .int n => .ok n
  | .float x => truncate x
  | .text s => (readInteger s).mapError .integer
  | v => .error (.notNumeric v.qualifiedKind)

/-- A value as text. -/
def Raw.toText (v : Raw) : Except ConversionFault String :=
  v.text?.mapError .ofDisplay

/-- The elements of a value: the items of a list, the characters of a text, the keys of a record. A
missing or empty value has none. -/
def Raw.elements : Raw → Except ConversionFault (List Raw)
  | .list items => .ok items
  | .text s => .ok (s.toList.map fun c => .text (String.ofList [c]))
  | .record fields => .ok (fields.map fun f => f.1.toRaw)
  | v => if v.truthy then .error (.notIterable v.qualifiedKind) else .ok []

/-! ## Normalization -/

/-- A comment from a raw value; missing fields are an empty text and zero. -/
def Comment.ofRaw (v : Raw) : Except ConversionFault Comment := do
  let value ← ((v.field? "value").getD (.text "")).toText
  let start ← ((v.field? "start").getD (.int 0)).toInt
  let stop ← ((v.field? "end").getD (.int 0)).toInt
  return ⟨value, start, stop⟩

/-- Why a raw value is not an outcome. -/
inductive OutcomeFault where
  /-- The root is not a text but a value of this kind. -/
  | rootNotText (kind : String)
  /-- An error or a comment cannot be converted. -/
  | malformed (fault : ConversionFault)
deriving DecidableEq, Repr

/-- The errors and comments of a raw value; all errors are converted before the first comment. -/
def Outcome.partsOfRaw (v : Raw) : Except ConversionFault (List String × List Comment) := do
  let errors ← (← ((v.field? "errors").getD .none).elements).mapM Raw.toText
  let comments ← (← ((v.field? "comments").getD .none).elements).mapM Comment.ofRaw
  return (errors, comments)

/-- Normalizes a raw value. -/
def Outcome.ofRaw (v : Raw) : Except OutcomeFault Outcome :=
  match (v.field? "root").getD .none with
  | .text root =>
    match Outcome.partsOfRaw v with
    | .ok (errors, comments) => .ok ⟨root, errors, comments⟩
    | .error fault => .error (.malformed fault)
  | other => .error (.rootNotText other.kind)

end ParseBench.Binding
