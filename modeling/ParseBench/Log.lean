set_option relaxedAutoImplicit false
set_option autoImplicit false

/-!
# Log records

Every part of the program writes records to a log of its own name. A record is kept if its level
reaches the threshold chosen on the command line.

## Main definitions

* `ParseBench.Log.Level` — the levels, from the least to the most severe.
* `ParseBench.Log.Source` — the parts of the program that write records.
* `ParseBench.Log.Record` — a record, and `ParseBench.Log.Record.line` its line.
-/

namespace ParseBench.Log

/-- The severity of a record. -/
inductive Level where
  | debug
  | info
  | warning
  | error
deriving DecidableEq, Repr

/-- The rank of a level. -/
def Level.rank : Level → Nat
  | .debug => 10
  | .info => 20
  | .warning => 30
  | .error => 40

/-- The name of a level. -/
def Level.name : Level → String
  | .debug => "DEBUG"
  | .info => "INFO"
  | .warning => "WARNING"
  | .error => "ERROR"

/-- The parts of the program that write records. -/
inductive Source where
  | program
  | parser
  | inspector
  | contract
  | runner
  | artifact
  | cache
deriving DecidableEq, Repr

/-- The name under which a part of the program logs. -/
def Source.name : Source → String
  | .program => "ssc_bench"
  | .parser => "ssc_bench.parser.native"
  | .inspector => "ssc_bench.parser.inspector"
  | .contract => "ssc_bench.verify.contract"
  | .runner => "ssc_bench.bench.runner"
  | .artifact => "ssc_bench.bench.artifact"
  | .cache => "ssc_bench.fixtures.cache"

/-- A record. -/
structure Record where
  source : Source
  level : Level
  message : String
deriving DecidableEq, Repr

/-- The line of a record written at a time. -/
def Record.line (time : String) (r : Record) : String :=
  time ++ " " ++ r.source.name ++ " " ++ r.level.name ++ " " ++ r.message ++ "\n"

/-- Whether a record reaches a threshold. -/
def Record.reaches (threshold : Level) (r : Record) : Bool :=
  threshold.rank ≤ r.level.rank

/-- The threshold for a number of requests for more output. -/
def Level.ofVerbosity : Nat → Level
  | 0 => .warning
  | 1 => .info
  | _ => .debug

end ParseBench.Log
