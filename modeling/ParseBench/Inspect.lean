import ParseBench.Bench.Clock
import ParseBench.Binding.Parser
import ParseBench.Decimal.Fixed
import ParseBench.Files.TextFile

set_option relaxedAutoImplicit false
set_option autoImplicit false

/-!
# Inspecting a single file

A file is read, parsed once and its tree decoded.

## Main definitions

* `ParseBench.Inspection` — what was found.
* `ParseBench.inspect` — the inspection of a file.
-/

namespace ParseBench

open ParseBench.Files

/-- What was found in a file. -/
structure Inspection where
  path : Path
  /-- The duration of the parse in milliseconds. -/
  elapsed : Float
  outcome : Binding.Outcome
  tree : Json.Value
deriving Repr

/-- Whether the parser reported no errors. -/
def Inspection.ok (i : Inspection) : Bool := i.outcome.errors.isEmpty

/-- What can end an inspection. -/
inductive InspectAbort where
  | text (fault : TextFault)
  | parse (abort : ParseAbort)
  | clockStopped
  /-- A time leaves the range of floating-point numbers. -/
  | timeOverflow
deriving Repr

/-- A time in nanoseconds as seconds. -/
def seconds (ns : Int) : Except InspectAbort Float :=
  let x := Decimal.nearestInt ns 1
  if Decimal.isFinite x then .ok (x / 1000000000.0) else .error .timeOverflow

/-- Reads a clock in seconds. -/
def readSeconds (clock : Bench.Clock) : Act InspectAbort Float := do
  let now ← Act.mapFailure (fun _ => .clockStopped) clock.read
  Act.ofExcept (seconds now)

/-- Reads, parses and decodes a file. -/
def inspect (p : Parser) (clock : Bench.Clock) (v : Volume) (path : Path) :
    Act InspectAbort Inspection := do
  let source ← Act.ofExcept ((v.readText path).mapError .text)
  let start ← readSeconds clock
  let outcome ← Act.mapFailure .parse (p.parse .blocking source)
  let stop ← readSeconds clock
  let elapsed := (stop - start) * 1000.0
  let tree ← Act.ofExcept ((decodeRoot outcome.root).mapError .parse)
  Act.log .inspector .info
    ("Parsed " ++ path.text ++ " in " ++ Decimal.fixed 2 elapsed ++ "ms with " ++
      outcome.errors.length.repr ++ " error(s)")
  return ⟨path, elapsed, outcome, tree⟩

end ParseBench
