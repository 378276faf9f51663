import ParseBench.CommandLine.Request
import ParseBench.Program.State

set_option relaxedAutoImplicit false
set_option autoImplicit false

/-!
# The commands

## Main definitions

* `ParseBench.Program.bench` — fetches fixtures, measures the parser on them and writes the
  artifact.
* `ParseBench.Program.verify` — checks both calling modes of the binding.
* `ParseBench.Program.inspectFile` — parses one file and shows what was found.
-/

namespace ParseBench.Program

open ParseBench.CommandLine
open ParseBench.Files
open ParseBench.Text (quoted)

/-- The path of a location. -/
def absolutePath (l : Location) : Path := ⟨"/", l⟩

/-- The cache directory if none is given. -/
def defaultCache (v : Volume) : Path := Bench.cacheDirectory (absolutePath v.current)

/-- The URLs of the fixtures to be measured. -/
def fixtureUrls (v : Volume) : Option Path → Except Fixture.ManifestAbort (List Text.Points)
  | none => .ok Fixture.defaultUrls
  | some path => Fixture.readManifest v path

/-- Resolves the fixtures. -/
def resolveFixtures (s : Surroundings) (c : Bench.Config) (urls : List Text.Points) :
    Doing (List Bench.Fixture) := do
  let (progress, result) := Fixture.resolveBy s.schedule c true s.network (← get).desk urls
  Doing.ofProgress progress
  Doing.ofExcept .cache result

/-- Writes the artifact. -/
def writeResults (c : Bench.Config) (results : List Bench.TaskResult) : Doing (Option Path) := do
  let (steps, written) := Bench.writeArtifact c (← get).volume results
  Doing.take steps
  let path ← Doing.ofExcept .artifact written
  Doing.note [.log (Bench.artifactLog results path)]
  return path

/-- Fetches the fixtures, measures the parser on them and writes the artifact. Whatever can be
checked is checked before the first request. -/
def bench (s : Surroundings) (binding : String) (manifest cache : Option Path) : Doing Unit := do
  let volume := (← get).volume
  let c := Bench.Config.ofEnvironment s.environment (cache.getD (defaultCache volume))
  Doing.ofExcept .artifact (Bench.preflight c volume)
  let urls ← Doing.ofExcept .manifest (fixtureUrls volume manifest)
  let parser ← Doing.ofAct .load (Binding.load s.library binding)
  let fixtures ← resolveFixtures s c urls
  let (_, runner) ← Doing.ofRunning (.ofProfile c.profile) (Bench.addAll fixtures)
  Doing.say (.pairs [("Profile", c.profile.name), ("Fixtures", fixtures.length.repr),
    ("Cache", c.cache.text)] "Run")
  Doing.say (.step "Warming up")
  let (_, runner) ← Doing.ofRunning runner (Bench.warmup parser)
  Doing.say (.step "Running benchmarks")
  let (results, _) ← Doing.ofRunning runner (Bench.run parser s.clock)
  let rows ← Doing.ofExcept .margin (Bench.resultsTable results)
  Doing.say (.table Bench.tableHeaders rows "")
  match ← writeResults c results with
  | some path => Doing.say (.success ("Results written to " ++ path.text))
  | none => return ()

/-- The line of a report. -/
def reportLine (r : Contract.Report) : String :=
  r.mode.name ++ ": " ++ r.counts.nodes.repr ++ " fragment node(s), " ++ r.counts.errors.repr ++
    " error(s), " ++ r.counts.comments.repr ++ " comment(s)"

/-- Checks both calling modes of the binding. -/
def verify (s : Surroundings) (binding : String) : Doing Unit := do
  Doing.say (.info ("Testing on " ++ s.platform))
  let parser ← Doing.ofAct .load (Binding.load s.library binding)
  let reports ← Doing.ofAct .contract (Contract.verify parser Contract.sampleSource)
  reports.forM fun r => Doing.say (.success (reportLine r))

/-- What is said about an inspection: the time, the tree if it is wanted, the comments, the errors
and a verdict. -/
def inspectionMessages (tree : Bool) (i : Inspection) : List Console.Message :=
  [.info (Decimal.fixed 2 i.elapsed ++ "ms.")] ++
    (if tree then [.block (Json.indented i.tree) "AST"] else []) ++
    [.info ("Comments: [" ++
      ", ".intercalate (i.outcome.comments.map fun c => quoted c.value) ++ "]")] ++
    i.outcome.errors.map Console.Message.warning ++
    [if i.ok then .success "Parsed Successfully." else .warning "Parsed with Errors."]

/-- Parses one file and shows what was found; gives the exit status. -/
def inspectFile (s : Surroundings) (binding : String) (file : Path) (tree : Bool) : Doing Nat := do
  let parser ← Doing.ofAct .load (Binding.load s.library binding)
  let state ← get
  match inspect parser s.clock state.volume file state.journal with
  | (.error (.text (.access (.os ..))), j) =>
    set (state.grow j)
    Doing.say (.error ("Missing '" ++ file.text ++ "'"))
    return 1
  | (.error a, j) =>
    set (state.grow j)
    throw (.inspect a)
  | (.ok i, j) =>
    set (state.grow j)
    (inspectionMessages tree i).forM Doing.say
    return 0

/-- Carries out a command; gives the exit status. -/
def carryOut (s : Surroundings) (binding : String) : Command → Doing Nat
  | .bench manifest cache => do
    bench s binding manifest cache
    return 0
  | .verify => do
    verify s binding
    return 0
  | .inspect file tree => inspectFile s binding file tree

end ParseBench.Program
