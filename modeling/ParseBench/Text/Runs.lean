set_option relaxedAutoImplicit false
set_option autoImplicit false

/-!
# Properties of code points

A property of code points is constant on long runs. It is given by the numbers at which the runs
begin, written in hexadecimal with spaces and line breaks between them.

## Main definitions

* `ParseBench.Text.hexNumbers` — the numbers of a table.
* `ParseBench.Text.Toggles` — a property that a code point has or has not.
* `ParseBench.Text.ClassRuns` — a property with several values, named by words.
-/

namespace ParseBench.Text

/-- The words of a text, with spaces and line breaks between them. -/
def spacedWords (s : String) : List String :=
  (s.splitToList (fun c => c == ' ' || c == '\n')).filter (fun w => !w.isEmpty)

/-- The value of a hexadecimal digit; nought for any other character. -/
def hexDigitValue (c : Char) : Nat :=
  if c.isDigit then c.toNat - 0x30
  else if 'A' ≤ c && c ≤ 'F' then c.toNat - 0x37
  else 0

/-- The number that a word writes in hexadecimal. -/
def hexNumber (word : String) : Nat :=
  word.toList.foldl (fun n c => n * 16 + hexDigitValue c) 0

/-- The numbers of a table. -/
def hexNumbers (s : String) : List Nat := (spacedWords s).map hexNumber

/-- A property that code points have or have not: it changes at each of the given numbers, which are
in increasing order, and nothing before the first of them has it. -/
structure Toggles where
  bounds : Array Nat
deriving Repr

namespace Toggles

/-- The property of a table. -/
def ofTable (s : String) : Toggles := ⟨(hexNumbers s).toArray⟩

/-- The number of bounds up to `n`. Of the bounds those before `low` are known to be up to `n` and
those from `high` on to be past it; `fuel` bounds the number of halvings. -/
def countUpTo (bounds : Array Nat) (n : Nat) : Nat → Nat → Nat → Nat
  | 0, low, _ => low
  | fuel + 1, low, high =>
    if low < high then
      let middle := (low + high) / 2
      if bounds.getD middle 0 ≤ n then countUpTo bounds n fuel (middle + 1) high
      else countUpTo bounds n fuel low middle
    else low

/-- Whether a number has the property. -/
def holds (t : Toggles) (n : Nat) : Bool :=
  countUpTo t.bounds n t.bounds.size 0 t.bounds.size % 2 == 1

end Toggles

/-- A property with several values: each run begins at a number and has a value. -/
structure ClassRuns where
  starts : Array Nat
  values : Array String
deriving Repr

namespace ClassRuns

/-- The numbers and words that alternate in a table. -/
def pairsOf : List String → List (Nat × String)
  | n :: w :: rest => (hexNumber n, w) :: pairsOf rest
  | _ => []

/-- The property of a table in which the beginning of a run is followed by its value. -/
def ofTable (s : String) : ClassRuns :=
  let pairs := pairsOf (spacedWords s)
  ⟨(pairs.map (·.1)).toArray, (pairs.map (·.2)).toArray⟩

/-- The value of a number; empty before the first run. -/
def valueAt (t : ClassRuns) (n : Nat) : String :=
  match Toggles.countUpTo t.starts n t.starts.size 0 t.starts.size with
  | 0 => ""
  | k + 1 => t.values.getD k ""

end ClassRuns

end ParseBench.Text
