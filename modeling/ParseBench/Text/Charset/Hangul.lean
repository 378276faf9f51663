import ParseBench.Text.Charset.Ks

set_option relaxedAutoImplicit false
set_option autoImplicit false

/-!
# Hangul syllables

A syllable is made of an initial letter, a vowel and perhaps a final letter. The syllables are
ordered by these three, so that the number of a syllable follows from the places of its letters.

## Main definitions

* `ParseBench.Text.Charset.syllable` — the syllable of three letters.
* `ParseBench.Text.Charset.otherSyllables` — the syllables that the national standard leaves out.
* `ParseBench.Text.Charset.johabLetters?` — the syllable or letter of three places.
-/

namespace ParseBench.Text.Charset

/-- The letters that begin syllables. -/
def initials : List Char := "ㄱㄲㄴㄷㄸㄹㅁㅂㅃㅅㅆㅇㅈㅉㅊㅋㅌㅍㅎ".toList

/-- The vowels. -/
def vowels : List Char := "ㅏㅐㅑㅒㅓㅔㅕㅖㅗㅘㅙㅚㅛㅜㅝㅞㅟㅠㅡㅢㅣ".toList

/-- The letters that end syllables. -/
def finals : List Char := "ㄱㄲㄳㄴㄵㄶㄷㄹㄺㄻㄼㄽㄾㄿㅀㅁㅂㅄㅅㅆㅇㅈㅊㅋㅌㅍㅎ".toList

/-- The syllable of the places of an initial letter, a vowel and a final letter, which counts from
one and is nought if there is none. -/
def syllable (initial vowel final : Nat) : Char :=
  Char.ofNat (0xAC00 + initial * 588 + vowel * 28 + final)

/-- The syllables that the national standard leaves out, in order. -/
def otherSyllables : Array Char :=
  let standard := ks1001.runs.foldl (fun all run => all ++ run.toList) []
  let present := (standard.filter fun c => 0xAC00 ≤ c.toNat && c.toNat < 0xD7A4).mergeSort (· ≤ ·)
  let rec without : List Nat → List Char → List Char
    | [], _ => []
    | n :: rest, [] => Char.ofNat n :: without rest []
    | n :: rest, c :: cs => if n == c.toNat then without rest cs else Char.ofNat n :: without rest (c :: cs)
  (without (List.range' 0xAC00 11172) present).toArray

/-- A part of a syllable as three groups of five bits write it: a letter by its place, or the sign
that there is none. -/
inductive Part where
  | filler
  | letter (place : Nat)
deriving DecidableEq, Repr

/-- The part that five bits write, given the codes of the filler and of the letters in order. -/
def partOf? (filler : Nat) (codes : List Nat) (bits : Nat) : Option Part :=
  if bits == filler then some .filler
  else (codes.idxOf? bits).map .letter

/-- The codes of the initial letters. -/
def initialCodes : List Nat := List.range' 2 19

/-- The codes of the vowels. -/
def vowelCodes : List Nat :=
  List.range' 3 5 ++ List.range' 10 6 ++ List.range' 18 6 ++ List.range' 26 4

/-- The codes of the final letters. -/
def finalCodes : List Nat := List.range' 2 16 ++ List.range' 19 11

/-- The syllable or single letter that three parts write. Without letters they write a blank. -/
def ofParts? : Part → Part → Part → Option Char
  | .filler, .filler, .filler => some (Char.ofNat 0x3000)
  | .filler, .filler, .letter f => finals[f]?
  | .filler, .letter v, .filler => vowels[v]?
  | .letter i, .filler, .filler => initials[i]?
  | .letter i, .letter v, .filler => some (syllable i v 0)
  | .letter i, .letter v, .letter f => some (syllable i v (f + 1))
  | _, _, _ => none

/-- The syllable or letter that the fifteen low bits of a code write. -/
def johabLetters? (code : Nat) : Option Char := do
  let initial ← partOf? 1 initialCodes (code / 1024 % 32)
  let vowel ← partOf? 2 vowelCodes (code / 32 % 32)
  let final ← partOf? 1 finalCodes (code % 32)
  ofParts? initial vowel final

end ParseBench.Text.Charset
