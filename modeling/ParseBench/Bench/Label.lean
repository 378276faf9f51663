import ParseBench.Text.Newlines
import ParseBench.Text.Quoted

set_option relaxedAutoImplicit false
set_option autoImplicit false

/-!
# Task labels

A benchmark task is labelled by the name of its fixture in square brackets. The name is recovered
from the last line of the label: it lies between the first opening bracket and the closing bracket
at the end.

## Main definitions

* `ParseBench.Bench.taskLabel` — the label of a fixture.
* `ParseBench.Bench.fixtureOfLabel` — the fixture of a label.
-/

namespace ParseBench.Bench

open ParseBench.Text (splitOnChar quoted)

/-- The label of the task of a fixture. -/
def taskLabel (identifier : String) : String :=
  "parser_py[" ++ identifier ++ "]"

/-- A text without a single LF at its end. -/
def dropFinalNewline (s : List Char) : List Char :=
  if s.getLast? = some '\n' then s.dropLast else s

/-- The last line of a text. -/
def lastLine (s : List Char) : List Char :=
  (splitOnChar '\n' s).getLast?.getD []

/-- The text between the first opening bracket and a closing bracket at the end, if it is not
empty. -/
def bracketed? (line : List Char) : Option (List Char) :=
  match line.dropWhile (· != '[') with
  | _ :: inner =>
    if inner.getLast? = some ']' && 2 ≤ inner.length then some inner.dropLast else none
  | [] => none

/-- A label that names no fixture. -/
structure LabelFault where
  label : String
deriving DecidableEq, Repr

/-- The wording of a fault. -/
def LabelFault.message (f : LabelFault) : String :=
  "task label " ++ quoted f.label ++ " does not name a fixture"

/-- The name of the fixture of a label. -/
def fixtureOfLabel (label : String) : Except LabelFault String :=
  match bracketed? (lastLine (dropFinalNewline label.toList)) with
  | some name => .ok (String.ofList name)
  | none => .error ⟨label⟩

end ParseBench.Bench
