import ParseBench.Console.Palette
import ParseBench.Text.DecimalDigit
import ParseBench.Text.Lowercase
import ParseBench.Text.Newlines
import ParseBench.Text.Runs
import ParseBench.Text.Spacing

set_option relaxedAutoImplicit false
set_option autoImplicit false

/-!
# Styles

A style switches attributes of a text on or off and may give it a color and a background. Styles are
defined by words, and each has one standard definition, by which styles with the same effect are
recognised. A terminal of sixteen colors shows any color by the nearest of its own.

## Main definitions

* `ParseBench.Console.Color`, `ParseBench.Console.Style` — colors and styles.
* `ParseBench.Console.Style.define` — the style of a definition.
* `ParseBench.Console.Style.definition` — the standard definition of a style.
* `ParseBench.Console.Style.onTopOf` — a style on top of another.
* `ParseBench.Console.Style.code` — the terminal code of a style.
-/

namespace ParseBench.Console

open ParseBench.Text (IntegerFault trimSpace lowerChars)

/-! ## Colors -/

/-- A color by its name, and what it is. -/
inductive Hue where
  /-- The color of the terminal. -/
  | default
  /-- One of the 256 colors of a terminal. -/
  | number (n : Nat)
  /-- The shares of red, green and blue. -/
  | shares (red green blue : Nat)
deriving DecidableEq, Repr

/-- A color and the word that defines it. -/
structure Color where
  word : String
  hue : Hue
deriving DecidableEq, Repr

/-- Why a definition gives no style. -/
inductive StyleFault where
  /-- A word is not understood. -/
  | unknown
  /-- A share of a color is no number. -/
  | share (fault : IntegerFault)
deriving DecidableEq, Repr

/-- The names of colors and their numbers. -/
def colorNames : List (String × Nat) :=
  let rec pairs : List String → List (String × Nat)
    | name :: n :: rest => (name, Text.hexNumber n) :: pairs rest
    | _ => []
  pairs (Text.spacedWords colorTable)

/-- What stands between a beginning and an ending. -/
def between? (beginning ending : String) (s : List Char) : Option (List Char) :=
  if beginning.toList.isPrefixOf s && ending.toList.isSuffixOf s &&
      beginning.length + ending.length ≤ s.length then
    some ((s.drop beginning.length).take (s.length - beginning.length - ending.length))
  else none

/-- Whether a character is a hexadecimal digit in lower case. -/
def isSmallHex (c : Char) : Bool := c.isDigit || ('a' ≤ c && c ≤ 'f')

/-- The number of two hexadecimal digits from a place on. -/
def hexShare (s : List Char) (place : Nat) : Nat :=
  Text.hexNumber (String.ofList (((s.drop place).take 2).map Char.toUpper))

/-- The number of a decimal numeral. -/
def decimalValue (s : List Char) : Nat := s.foldl (fun n c => n * 10 + (c.toNat - 0x30)) 0

/-- A share of a color. -/
def readShare (s : List Char) : Except StyleFault Nat :=
  match Text.readInteger (String.ofList s) with
  | .ok n => .ok n.toNat
  | .error fault => .error (.share fault)

/-- The color of three shares, each at most 255. -/
def ofShares (word : List Char) (parts : List (List Char)) : Except StyleFault Color :=
  match parts with
  | [r, g, b] => do
    let r ← readShare r
    let g ← readShare g
    let b ← readShare b
    if r ≤ 255 && g ≤ 255 && b ≤ 255 then return ⟨String.ofList word, .shares r g b⟩ else .error .unknown
  | _ => .error .unknown

/-- The color that a word in lower case defines: by its name, by six hexadecimal digits, by its
number or by its shares. -/
def Color.define (word : List Char) : Except StyleFault Color :=
  let name := String.ofList word
  if name = "default" then .ok ⟨name, .default⟩
  else match colorNames.lookup name with
  | some n => .ok ⟨name, .number n⟩
  | none =>
    match between? "#" "" word, between? "color(" ")" word, between? "rgb(" ")" word with
    | some digits, _, _ =>
      if digits.length == 6 && digits.all isSmallHex then
        .ok ⟨name, .shares (hexShare digits 0) (hexShare digits 2) (hexShare digits 4)⟩
      else .error .unknown
    | _, some digits, _ =>
      if !digits.isEmpty && digits.length ≤ 3 && digits.all Char.isDigit && decimalValue digits ≤ 255 then
        .ok ⟨name, .number (decimalValue digits)⟩
      else .error .unknown
    | _, _, some shares =>
      if !shares.isEmpty && shares.all fun c => c == ',' || (Text.decimalDigit? c).isSome then
        ofShares word (Text.splitOnChar ',' shares)
      else .error .unknown
    | _, _, _ => .error .unknown

/-- The sixteen colors of the terminal. -/
def standardColors : List (Nat × Nat × Nat) :=
  [(0, 0, 0), (170, 0, 0), (0, 170, 0), (170, 85, 0), (0, 0, 170), (170, 0, 170), (0, 170, 170),
   (170, 170, 170), (85, 85, 85), (255, 85, 85), (85, 255, 85), (255, 255, 85), (85, 85, 255),
   (255, 85, 255), (85, 255, 255), (255, 255, 255)]

/-- The levels of a share in the colors from 16 to 231. -/
def cubeLevel (n : Nat) : Nat := if n == 0 then 0 else 55 + 40 * n

/-- The shares of a color from 16 on: a cube of six levels each, and then shades of gray. -/
def sharesOf (n : Nat) : Nat × Nat × Nat :=
  if n < 232 then
    let k := n - 16
    (cubeLevel (k / 36), cubeLevel (k / 6 % 6), cubeLevel (k % 6))
  else (8 + 10 * (n - 232), 8 + 10 * (n - 232), 8 + 10 * (n - 232))

/-- How far two colors are apart as the eye sees them, squared. -/
def colorDistance (a b : Nat × Nat × Nat) : Nat :=
  let apart (x y : Nat) : Nat := (max x y - min x y) * (max x y - min x y)
  let mean := (a.1 + b.1) / 2
  (512 + mean) * apart a.1 b.1 / 256 + 4 * apart a.2.1 b.2.1 + (767 - mean) * apart a.2.2 b.2.2 / 256

/-- The nearest of the sixteen colors of the terminal; of several the first. -/
def nearestColor (shares : Nat × Nat × Nat) : Nat :=
  let distances := standardColors.map (colorDistance shares)
  (distances.min?.bind fun least => distances.idxOf? least).getD 0

/-- The terminal code of a color, for the text or for its background. -/
def Color.code (color : Color) (background : Bool) : String :=
  let ofNumber (n : Nat) : String :=
    ((if n < 8 then 30 + n else 82 + n) + if background then 10 else 0).repr
  match color.hue with
  | .default => if background then "49" else "39"
  | .number n => ofNumber (if n < 16 then n else nearestColor (sharesOf n))
  | .shares r g b => ofNumber (nearestColor (r, g, b))

/-! ## Styles -/

/-- An attribute of a text. -/
inductive Attribute where
  | bold
  | dim
  | italic
  | underline
  | blink
  | fastBlink
  | reverse
  | conceal
  | strike
  | doubleUnderline
  | frame
  | encircle
  | overline
deriving DecidableEq, Repr

/-- The attributes with the words for them, the first of which is standard, and their terminal
codes. -/
def attributeWords : List (Attribute × List String × String) :=
  [(.bold, ["bold", "b"], "1"), (.dim, ["dim", "d"], "2"), (.italic, ["italic", "i"], "3"),
   (.underline, ["underline", "u"], "4"), (.blink, ["blink"], "5"), (.fastBlink, ["blink2"], "6"),
   (.reverse, ["reverse", "r"], "7"), (.conceal, ["conceal", "c"], "8"), (.strike, ["strike", "s"], "9"),
   (.doubleUnderline, ["underline2", "uu"], "21"), (.frame, ["frame"], "51"), (.encircle, ["encircle"], "52"),
   (.overline, ["overline", "o"], "53")]

/-- The attribute of a word. -/
def attributeOf? (word : List Char) : Option Attribute :=
  (attributeWords.find? fun (_, words, _) => words.contains (String.ofList word)).map (·.1)

/-- A style. -/
structure Style where
  /-- The attributes that are switched on or off; of several entries for one the first counts. -/
  switches : List (Attribute × Bool)
  color : Option Color
  background : Option Color
  link : Option String
deriving DecidableEq, Repr

namespace Style

/-- The style without any effect. -/
def none : Style := ⟨[], .none, .none, .none⟩

/-- The style that switches attributes on. -/
def ofAttributes (all : List Attribute) : Style := ⟨all.map fun a => (a, true), .none, .none, .none⟩

/-- A style on top of another: what it leaves open is taken from below. -/
def onTopOf (top below : Style) : Style :=
  ⟨top.switches ++ below.switches, top.color.or below.color, top.background.or below.background,
    top.link.or below.link⟩

/-- Reads the words of a definition. -/
def defineWords (s : Style) : List (List Char) → Except StyleFault Style
  | [] => .ok s
  | given :: rest =>
    let word := lowerChars given
    if word == "on".toList then
      match rest with
      | [] => .error .unknown
      | color :: rest => do
        let color ← Color.define (lowerChars color)
        defineWords { s with background := some color } rest
    else if word == "not".toList then
      match rest with
      | [] => .error .unknown
      | word :: rest =>
        match attributeOf? word with
        | some a => defineWords { s with switches := (a, false) :: s.switches } rest
        | .none => .error .unknown
    else if word == "link".toList then
      match rest with
      | [] => .error .unknown
      | link :: rest => defineWords { s with link := some (String.ofList link) } rest
    else match attributeOf? word with
      | some a => defineWords { s with switches := (a, true) :: s.switches } rest
      | .none => do
        let color ← Color.define word
        defineWords { s with color := some color } rest

/-- The style of a definition. -/
def define (definition : List Char) : Except StyleFault Style :=
  if trimSpace definition == "none".toList then .ok none
  else defineWords none (Text.spaceWords definition)

/-- The standard definition of a style: its attributes in order, its color, its background and its
link. -/
def definition (s : Style) : String :=
  let attributes := attributeWords.filterMap fun (a, words, _) =>
    (s.switches.lookup a).map fun on => (if on then "" else "not ") ++ words.headD ""
  let color := (s.color.map (·.word)).toList
  let background := match s.background with
    | some c => ["on", c.word]
    | .none => []
  let link := match s.link with
    | some l => ["link", l]
    | .none => []
  match attributes ++ color ++ background ++ link with
  | [] => "none"
  | words => " ".intercalate words

/-- The standard form of a definition; one that gives no style is only put in lower case. -/
def normalise (definition : List Char) : Except IntegerFault (List Char) :=
  match define definition with
  | .ok s => .ok s.definition.toList
  | .error .unknown => .ok (lowerChars (trimSpace definition))
  | .error (.share fault) => .error fault

/-- The style of a name or a definition; one that is not understood has no effect. -/
def named (name : List Char) : Except IntegerFault Style :=
  match define (((themeTable.lookup (String.ofList name)).map String.toList).getD name) with
  | .ok s => .ok s
  | .error .unknown => .ok none
  | .error (.share fault) => .error fault

/-- The terminal code of a style; empty if it has no effect. -/
def code (s : Style) : String :=
  let attributes := attributeWords.filterMap fun (a, _, code) =>
    if s.switches.lookup a == some true then some code else .none
  ";".intercalate (attributes ++ (s.color.map fun c => c.code false).toList ++
    (s.background.map fun c => c.code true).toList)

end Style

end ParseBench.Console
