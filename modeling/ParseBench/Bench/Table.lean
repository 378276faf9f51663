import ParseBench.Bench.Margin
import ParseBench.Decimal.Fixed

set_option relaxedAutoImplicit false
set_option autoImplicit false

/-!
# Results of a benchmark

## Main definitions

* `ParseBench.Bench.TaskResult` — the measurements of one task.
* `ParseBench.Bench.tableHeaders`, `ParseBench.Bench.resultsTable` — the table of results.
-/

namespace ParseBench.Bench

open ParseBench.Decimal

/-- The measurements of one task, in microseconds. -/
structure TaskResult where
  label : String
  period : Float
  samples : List Float
deriving Repr

/-- The number of measured runs. -/
def TaskResult.runs (r : TaskResult) : Nat := r.samples.length

/-- The headers of the table of results. -/
def tableHeaders : List String :=
  ["Task Name", "ops/sec", "Average Time (µs)", "Margin", "Samples"]

/-- The number of runs in a second. -/
def operationsPerSecond (period : Float) : Float :=
  if period == 0.0 then nearest false (Nat.pow 2 1024) 1 else 1000000.0 / period

/-- The row of one result. -/
def TaskResult.row (r : TaskResult) : Except MarginFault (List String) := do
  let margin ← marginOfError r.samples
  return [r.label, fixedGrouped 0 (operationsPerSecond r.period), fixedGrouped 2 r.period,
    "±" ++ fixed 2 margin ++ "%", r.runs.repr]

/-- The rows of results, in order. -/
def resultsTable (results : List TaskResult) : Except MarginFault (List (List String)) :=
  results.mapM TaskResult.row

end ParseBench.Bench
