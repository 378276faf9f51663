set_option relaxedAutoImplicit false
set_option autoImplicit false

/-!
# Sets of code points

Unicode properties are given as lists of closed intervals of code points.

## Main definitions

* `ParseBench.Text.Intervals` — a set of code points.
* `ParseBench.Text.Intervals.holds` — membership of a character.
-/

namespace ParseBench.Text

/-- A set of code points, as closed intervals in increasing order. -/
abbrev Intervals := List (Nat × Nat)

/-- Whether a character lies in one of the intervals. -/
def Intervals.holds (set : Intervals) (c : Char) : Bool :=
  set.any fun (low, high) => low ≤ c.toNat && c.toNat ≤ high

end ParseBench.Text
