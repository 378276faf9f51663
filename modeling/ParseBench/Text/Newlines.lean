set_option relaxedAutoImplicit false
set_option autoImplicit false

/-!
# Line breaks

Text files are read with all three conventions of ending a line: CR LF, CR and LF.

## Main definitions

* `ParseBench.Text.unifyNewlines` — every line break as a single LF.
* `ParseBench.Text.splitOnChar` — the pieces of a text between the occurrences of a character.
-/

namespace ParseBench.Text

/-- Replaces CR LF and a lone CR by LF. -/
def unifyNewlines : List Char → List Char
  | '\r' :: '\n' :: rest => '\n' :: unifyNewlines rest
  | '\r' :: rest => '\n' :: unifyNewlines rest
  | c :: rest => c :: unifyNewlines rest
  | [] => []

/-- The pieces of a text between the occurrences of `sep`; there is always at least one. -/
def splitOnChar {α : Type} [BEq α] (sep : α) : List α → List (List α)
  | [] => [[]]
  | c :: rest =>
    if c == sep then [] :: splitOnChar sep rest
    else match splitOnChar sep rest with
      | [] => [[c]]
      | piece :: pieces => (c :: piece) :: pieces

end ParseBench.Text
