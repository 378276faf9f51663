import ParseBench.Path

set_option relaxedAutoImplicit false
set_option autoImplicit false

/-!
# Configuration of a run

A run is configured by three environment variables and a cache directory. On a build server, or when
asked to be accurate, it warms up and measures longer.

## Main definitions

* `ParseBench.Bench.Profile` — how long a benchmark warms up and measures.
* `ParseBench.Bench.Config` — the configuration, and `ParseBench.Bench.Config.ofEnvironment`.
* `ParseBench.Bench.cacheDirectory`, `ParseBench.Bench.artifactFile` — the fixed file names.
-/

namespace ParseBench.Bench

/-- How long a benchmark warms up and measures. -/
structure Profile where
  name : String
  warmupIterations : Nat
  measuredDurationMs : Nat
  minIterations : Nat
deriving DecidableEq, Repr

/-- The profile for everyday use. -/
def quickProfile : Profile := ⟨"quick", 5, 500, 10⟩

/-- The profile for results that are kept. -/
def accurateProfile : Profile := ⟨"accurate", 20, 5000, 100⟩

/-- The accurate profile on a build server or on request, else the quick one. -/
def selectProfile (isCI accurate : Bool) : Profile :=
  if isCI || accurate then accurateProfile else quickProfile

/-- The cache directory of a project. -/
def cacheDirectory (project : Path) : Path := project.child "target"

/-- The results file in a data directory. -/
def artifactFile (dataDirectory : Path) : Path := dataDirectory.child "results.json"

/-- The configuration of a run. -/
structure Config where
  isCI : Bool
  accurate : Bool
  cache : Path
  dataDirectory : Option Path
deriving DecidableEq, Repr

/-- The profile of a configuration. -/
def Config.profile (c : Config) : Profile := selectProfile c.isCI c.accurate

/-- Environment variables and their values. -/
abbrev Environment := List (String × String)

/-- Whether a variable is set to anything but the empty text. -/
def isSet (env : Environment) (name : String) : Bool :=
  (env.lookup name).any (· != "")

/-- The name of the variable that holds the data directory. -/
def dataDirectoryVariable : String := "DATA_DIR"

/-- The configuration of an environment. An empty data directory counts as none. -/
def Config.ofEnvironment (env : Environment) (cache : Path) : Config :=
  { isCI := isSet env "CI"
    accurate := isSet env "ACCURATE"
    cache := cache
    dataDirectory := ((env.lookup dataDirectoryVariable).filter (· != "")).map Path.ofString }

end ParseBench.Bench
