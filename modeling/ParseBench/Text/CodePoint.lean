set_option relaxedAutoImplicit false
set_option autoImplicit false

/-!
# Code points

Escapes can write a surrogate that has no partner. A text that may hold such surrogates is a list of
code points. Where only the syntax of a text matters, a surrogate is taken for the replacement
character, which no syntax gives a meaning to.

## Main definitions

* `ParseBench.Text.CodePoint`, `ParseBench.Text.Points` — text that may hold lone surrogates.
* `ParseBench.Text.Points.lossy` — the ordinary text with the surrogates replaced.
* `ParseBench.Text.Glyph` — what can be taken for a character.
-/

namespace ParseBench.Text

/-- A code point: a character or a surrogate that stands alone. -/
inductive CodePoint where
  | char (c : Char)
  | surrogate (unit : UInt16)
deriving DecidableEq, Repr, Inhabited

/-- The replacement character. -/
def replacementChar : Char := Char.ofNat 0xFFFD

/-- The number of a code point. -/
def CodePoint.number : CodePoint → Nat
  | .char c => c.toNat
  | .surrogate unit => unit.toNat

/-- The character that a code point is taken for where only syntax matters. -/
def CodePoint.shape : CodePoint → Char
  | .char c => c
  | .surrogate _ => replacementChar

/-- Whether a code point is a surrogate. -/
def CodePoint.isSurrogate : CodePoint → Bool
  | .char _ => false
  | .surrogate _ => true

/-- The code point of a number; a number past the last code point gives the replacement
character. -/
def CodePoint.ofNumber (n : Nat) : CodePoint :=
  if 0xD800 ≤ n && n < 0xE000 then .surrogate n.toUInt16
  else if 0x10FFFF < n then .char replacementChar
  else .char (Char.ofNat n)

/-- A text of code points. -/
abbrev Points := List CodePoint

namespace Points

/-- Characters as code points. -/
def ofChars (s : List Char) : Points := s.map .char

/-- An ordinary text as code points. -/
def ofString (s : String) : Points := ofChars s.toList

/-- The characters that code points are taken for. -/
def shape (s : Points) : List Char := s.map CodePoint.shape

/-- The ordinary text with the surrogates replaced. -/
def lossy (s : Points) : String := String.ofList s.shape

/-- Whether a text is an ordinary one, without surrogates. -/
def isText (s : Points) : Bool := s.all fun p => !p.isSurrogate

end Points

/-- What can be taken for a character. -/
class Glyph (α : Type) where
  /-- The code point that a glyph is. -/
  point : α → CodePoint

instance : Glyph Char := ⟨.char⟩

instance : Glyph CodePoint := ⟨id⟩

/-- The character that a glyph is taken for. -/
def Glyph.shape {α : Type} [Glyph α] (g : α) : Char := (Glyph.point g).shape

/-- The code points of glyphs. -/
def Glyph.points {α : Type} [Glyph α] (s : List α) : Points := s.map Glyph.point

end ParseBench.Text
