import ParseBench.Text.Composition
import ParseBench.Text.Punycode
import ParseBench.Text.Quoted
import ParseBench.Url.Host.Points

set_option relaxedAutoImplicit false
set_option autoImplicit false

/-!
# Labels of international host names

A label of a host name may hold letters of all scripts. It has to be in composed form, its hyphens
and marks have places where they may not stand, a few code points need a certain context, and
letters that are written from right to left may not be mixed freely with others. In ASCII a label
begins with a mark of its own and continues with the label in Punycode.

## Main definitions

* `ParseBench.Url.LabelFault` — why a text is no label.
* `ParseBench.Url.checkLabel` — the check of a label.
* `ParseBench.Url.asciiLabel` — a label in ASCII.
* `ParseBench.Url.readableLabel` — a label as it is read.
-/

namespace ParseBench.Url

open ParseBench.Text (Points quotedPoints)

/-- A label by the numbers of its code points. -/
abbrev Label := List Nat

/-- A label as it is shown. -/
def Label.shown (l : Label) : String := quotedPoints (l.map .ofNumber)

/-- A label of ASCII characters. -/
def Label.ofChars (s : List Char) : Label := s.map Char.toNat

/-- Why a text is no label or no host name. Positions count from one. -/
inductive LabelFault where
  | domainTooLong
  | emptyDomain
  | labelTooLong
  | emptyLabel
  | notComposed
  /-- The third and the fourth character are hyphens. -/
  | innerHyphens
  /-- The label begins or ends with a hyphen. -/
  | outerHyphen
  | leadingMark
  | codePoint (n position : Nat) (label : Label)
  /-- A joiner stands where it joins nothing. -/
  | joiner (n position : Nat) (label : Label)
  | context (n position : Nat) (label : Label)
  | unknownDirection (label : Label) (position : Nat)
  | firstDirection (label : Label)
  | rightToLeft (position : Nat)
  | mixedNumerals
  | leftToRight (position : Nat)
  | lastDirection
  | noPunycode
  | punycodeHyphen
  | badPunycode
deriving DecidableEq, Repr

/-- A code point by its number. -/
def pointName (n : Nat) : String :=
  "U+" ++ String.ofList ((Text.hexDigits 4 n).map Char.toUpper)

/-- The wording of a fault. -/
def LabelFault.message : LabelFault → String
  | .domainTooLong => "Domain too long"
  | .emptyDomain => "Empty domain"
  | .labelTooLong => "Label too long"
  | .emptyLabel => "Empty Label"
  | .notComposed => "Label must be in Normalization Form C"
  | .innerHyphens => "Label has disallowed hyphens in 3rd and 4th position"
  | .outerHyphen => "Label must not start or end with a hyphen"
  | .leadingMark => "Label begins with an illegal combining character"
  | .codePoint n position label =>
    "Codepoint " ++ pointName n ++ " at position " ++ position.repr ++ " of " ++ label.shown ++
      " not allowed"
  | .joiner n position label =>
    "Unknown codepoint adjacent to joiner " ++ pointName n ++ " at position " ++ position.repr ++
      " in " ++ label.shown
  | .context n position label =>
    "Codepoint " ++ pointName n ++ " not allowed at position " ++ position.repr ++ " in " ++
      label.shown
  | .unknownDirection label position =>
    "Unknown directionality in label " ++ label.shown ++ " at position " ++ position.repr
  | .firstDirection label =>
    "First codepoint in label " ++ label.shown ++ " must be directionality L, R or AL"
  | .rightToLeft position =>
    "Invalid direction for codepoint at position " ++ position.repr ++ " in a right-to-left label"
  | .mixedNumerals => "Can not mix numeral types in a right-to-left label"
  | .leftToRight position =>
    "Invalid direction for codepoint at position " ++ position.repr ++ " in a left-to-right label"
  | .lastDirection => "Label ends with illegal codepoint directionality"
  | .noPunycode => "Malformed A-label, no Punycode eligible content found"
  | .punycodeHyphen => "A-label must not end with a hyphen"
  | .badPunycode => "Invalid A-label"

/-! ## Context -/

/-- The rank of the mark that takes away a vowel. -/
def viramaRank : Nat := 9

/-- Whether the letter nearest to a joiner, of those that joining does not pass over, is joined with
it. -/
def meetsJoining (joins : Nat → Bool) (s : List Nat) : Bool :=
  match s.dropWhile transparentPoints.holds with
  | n :: _ => joins n
  | [] => false

/-- Whether a joiner may stand behind `before`, which is read backwards, and in front of `after`. -/
def joinerFits (n : Nat) (before after : List Nat) : Bool :=
  (before.head?.any fun m => Text.markClass m == viramaRank) ||
    (n == 0x200C && meetsJoining joinsNextPoints.holds before &&
      meetsJoining joinsLastPoints.holds after)

/-- Whether a number lies between two others. -/
def between (low high n : Nat) : Bool := low ≤ n && n ≤ high

/-- Whether a code point that needs a context has it, or `none` if it needs none. -/
def contextFits? (label : Label) (n : Nat) (before after : List Nat) : Option Bool :=
  if n == 0xB7 then some (before.head? == some 0x6C && after.head? == some 0x6C)
  else if n == 0x375 then some (after.head?.any greekPoints.holds)
  else if n == 0x5F3 || n == 0x5F4 then some (before.head?.any hebrewPoints.holds)
  else if n == 0x30FB then some (label.any fun m => m != 0x30FB && kanaOrHanPoints.holds m)
  else if between 0x660 0x669 n then some (!label.any (between 0x6F0 0x6F9))
  else if between 0x6F0 0x6F9 n then some (!label.any (between 0x660 0x669))
  else none

/-- Checks the code points that follow `before`, which is read backwards. -/
def checkPoints (label : Label) (before : List Nat) : List Nat → Except LabelFault Unit
  | [] => .ok ()
  | n :: after => do
    let position := before.length + 1
    if isValidInLabel n then .ok ()
    else if n == 0x200C || n == 0x200D then
      if joinerFits n before after then .ok () else .error (.joiner n position label)
    else match contextFits? label n before after with
      | some true => .ok ()
      | some false => .error (.context n position label)
      | none => .error (.codePoint n position label)
    checkPoints label (n :: before) after

/-! ## Direction -/

/-- What has been seen of a label with letters from right to left: the kind of numerals, and whether
the label may end here. -/
structure DirectionState where
  numerals : Option String
  mayEnd : Bool

/-- Checks one more direction in a label that is read from right to left. -/
def stepRightToLeft (s : DirectionState) (position : Nat) (d : String) :
    Except LabelFault DirectionState :=
  if !(["R", "AL", "AN", "EN", "ES", "CS", "ET", "ON", "BN", "NSM"].contains d) then
    .error (.rightToLeft position)
  else
    let mayEnd := ["R", "AL", "EN", "AN"].contains d || (d == "NSM" && s.mayEnd)
    if d == "AN" || d == "EN" then
      if s.numerals.any (· != d) then .error .mixedNumerals else .ok ⟨some d, mayEnd⟩
    else .ok ⟨s.numerals, mayEnd⟩

/-- Checks one more direction in a label that is read from left to right. -/
def stepLeftToRight (s : DirectionState) (position : Nat) (d : String) :
    Except LabelFault DirectionState :=
  if !(["L", "EN", "ES", "CS", "ET", "ON", "BN", "NSM"].contains d) then .error (.leftToRight position)
  else .ok ⟨s.numerals, ["L", "EN"].contains d || (d == "NSM" && s.mayEnd)⟩

/-- Follows directions from a position on. -/
def followDirections (step : DirectionState → Nat → String → Except LabelFault DirectionState)
    (s : DirectionState) (position : Nat) : List String → Except LabelFault DirectionState
  | [] => .ok s
  | d :: rest => do followDirections step (← step s position d) (position + 1) rest

/-- Checks the directions of a label. A label without letters from right to left is free. -/
def checkDirections (label : Label) : Except LabelFault Unit := do
  let ds := label.map direction
  match ds.findIdx? (· == "-") with
  | some i => .error (.unknownDirection label (i + 1))
  | none => .ok ()
  if ds.any fun d => d == "R" || d == "AL" || d == "AN" then
    let first := ds.head?.getD ""
    let step ←
      if first == "R" || first == "AL" then .ok stepRightToLeft
      else if first == "L" then .ok stepLeftToRight
      else .error (.firstDirection label)
    let final ← followDirections step ⟨none, false⟩ 1 ds
    if final.mayEnd then .ok () else .error .lastDirection
  else .ok ()

/-! ## Labels -/

/-- The hyphen. -/
def hyphen : Nat := 0x2D

/-- The greatest length of a label that is looked at. -/
def maxChecked : Nat := 254

/-- Checks a label. -/
def checkLabel (label : Label) : Except LabelFault Unit := do
  if 1024 < label.length then .error .labelTooLong
  else if label.isEmpty then .error .emptyLabel
  else if maxChecked < label.length then .error .labelTooLong
  else if !Text.isComposed label then .error .notComposed
  else if (label.drop 2).take 2 == [hyphen, hyphen] then .error .innerHyphens
  else if label.head? == some hyphen || label.getLast? == some hyphen then .error .outerHyphen
  else if label.head?.any isMark then .error .leadingMark
  else
    checkPoints label [] label
    checkDirections label

/-- The beginning of a label in ASCII that stands for a label in other letters. -/
def asciiMark : List Char := "xn--".toList

/-- A label as it is read; a label in ASCII that stands for another is replaced by that. -/
def readableLabel (label : Label) : Except LabelFault Label :=
  if 1024 < label.length then .error .labelTooLong
  else if label.any (0x80 ≤ ·) then do
    checkLabel label
    return label
  else
    let chars := label.map fun n => (Char.ofNat n).toLower
    if asciiMark.isPrefixOf chars then
      let body := chars.drop asciiMark.length
      if body.isEmpty then .error .noPunycode
      else if body.getLast? == some '-' then .error .punycodeHyphen
      else match Text.Punycode.decode body with
        | none => .error .badPunycode
        | some label => do
          checkLabel label
          return label
    else do
      checkLabel (.ofChars chars)
      return .ofChars chars

/-- The greatest length of a label in ASCII. -/
def maxLabel : Nat := 63

/-- A label in ASCII. -/
def asciiLabel (label : Label) : Except LabelFault (List Char) := do
  if 1024 < label.length then .error .labelTooLong
  else
    let chars ←
      if label.any (0x80 ≤ ·) then do
        checkLabel label
        pure (asciiMark ++ Text.Punycode.encode label)
      else do
        let _ ← readableLabel label
        pure (label.map Char.ofNat)
    if maxLabel < chars.length then .error .labelTooLong else return chars

end ParseBench.Url
