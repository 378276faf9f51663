import ParseBench.Text.CodePoint
import ParseBench.Text.Runs

set_option relaxedAutoImplicit false
set_option autoImplicit false

/-!
# Tables of codes

The characters of a character set have codes. Neighbouring codes form runs, and a table lists the
runs by their first codes, in increasing order. A place without a character holds the replacement
character.

## Main definitions

* `ParseBench.Text.CodeTable` — a table of codes.
* `ParseBench.Text.CodeTable.ofLines`, `ParseBench.Text.CodeTable.ofRuns` — the two ways to write
  one.
* `ParseBench.Text.CodeTable.find?` — the character of a code.
-/

namespace ParseBench.Text

/-- A table of codes: the first codes of the runs, and their characters. -/
structure CodeTable where
  starts : Array Nat
  runs : Array (Array Char)
deriving Repr

namespace CodeTable

/-- The table of some runs. -/
def ofList (runs : List (Nat × List Char)) : CodeTable :=
  ⟨(runs.map (·.1)).toArray, (runs.map fun (_, cs) => cs.toArray).toArray⟩

/-- A run from a line: the first code in hexadecimal, a space, and the characters. -/
def runOfLine (line : String) : Nat × List Char :=
  let (code, rest) := (line.toList.dropWhile (· == ' ')).span (· != ' ')
  (hexNumber (String.ofList code), rest.drop 1)

/-- The table of which each line gives a run. -/
def ofLines (s : String) : CodeTable := ofList ((s.splitOn "\n").map runOfLine)

/-- The runs of neighbouring characters, given by their first codes, first characters and
lengths. -/
def runsOfNumbers : List Nat → List (Nat × List Char)
  | code :: first :: count :: rest =>
    (code, (List.range' first count).map Char.ofNat) :: runsOfNumbers rest
  | _ => []

/-- The table of runs of neighbouring characters, of which the first code, the first character and
the length are written in hexadecimal. -/
def ofRuns (s : String) : CodeTable := ofList (runsOfNumbers (hexNumbers s))

/-- The character of a code. -/
def find? (t : CodeTable) (code : Nat) : Option Char :=
  match Toggles.countUpTo t.starts code t.starts.size 0 t.starts.size with
  | 0 => none
  | k + 1 =>
    ((t.runs.getD k #[])[code - t.starts.getD k 0]?).filter (· != replacementChar)

end CodeTable

end ParseBench.Text
