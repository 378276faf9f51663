set_option relaxedAutoImplicit false
set_option autoImplicit false

/-!
# Padding

Texts padded with spaces to a number of characters.

## Main definitions

* `ParseBench.Text.padRight`, `ParseBench.Text.padLeft` — the spaces stand after or before the text.
* `ParseBench.Text.spaces` — a run of spaces.
-/

namespace ParseBench.Text

/-- A run of spaces. -/
def spaces (n : Nat) : String :=
  String.ofList (List.replicate n ' ')

/-- `s` followed by the spaces that bring it to `width` characters. -/
def padRight (width : Nat) (s : String) : String :=
  s ++ spaces (width - s.length)

/-- `s` preceded by the spaces that bring it to `width` characters. -/
def padLeft (width : Nat) (s : String) : String :=
  spaces (width - s.length) ++ s

end ParseBench.Text
