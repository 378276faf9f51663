import ParseBench.Bench.Config
import ParseBench.Bench.Label
import ParseBench.Bench.Table
import ParseBench.Files.Access
import ParseBench.Journal
import ParseBench.Json.Printer

set_option relaxedAutoImplicit false
set_option autoImplicit false

/-!
# The results artifact

On a build server the results of a run are written, in a single write, to a file in the data
directory: a JSON array with one record per task.

## Main definitions

* `ParseBench.Bench.Record`, `ParseBench.Bench.buildRecords` — the records of results.
* `ParseBench.Bench.artifactText` — the content of the file.
* `ParseBench.Bench.destination`, `ParseBench.Bench.preflight`, `ParseBench.Bench.writeArtifact` —
  the file, the check before a run, and the write. The check looks at the directory of the file
  only.
-/

namespace ParseBench.Bench

open ParseBench.Files

/-- The record of one task: its fixture and its period in seconds. -/
structure Record where
  filename : String
  duration : Float
deriving Repr

/-- The record of a result. -/
def Record.ofResult (r : TaskResult) : Except LabelFault Record := do
  return ⟨← fixtureOfLabel r.label, r.period / 1000000.0⟩

/-- The records of results, in order. -/
def buildRecords (results : List TaskResult) : Except LabelFault (List Record) :=
  results.mapM Record.ofResult

/-- A record as JSON. -/
def Record.toJson (r : Record) : Json.Value :=
  .object [(Text.Points.ofString "filename", .text (Text.Points.ofString r.filename)),
    (Text.Points.ofString "duration", .float r.duration)]

/-- The content of the file. -/
def artifactText (records : List Record) : String :=
  Json.compact (.array (records.map Record.toJson))

/-- Why the artifact cannot be written. -/
inductive ArtifactFailure where
  /-- No data directory is configured. -/
  | noDataDirectory
  /-- The data directory is not a directory. -/
  | notDirectory (path : Path)
  /-- The file cannot be written. -/
  | cannotWrite (path : Path) (fault : AccessFault)
deriving DecidableEq, Repr

/-- The wording of a failure. -/
def ArtifactFailure.message : ArtifactFailure → String
  | .noDataDirectory => dataDirectoryVariable ++ " must be set when running on CI"
  | .notDirectory path => dataDirectoryVariable ++ " " ++ path.text ++ " is not a directory"
  | .cannotWrite path fault => "cannot write " ++ path.text ++ ": " ++ fault.message

/-- What can end a write. -/
inductive ArtifactAbort where
  | failure (f : ArtifactFailure)
  /-- A label names no fixture. -/
  | label (f : LabelFault)
  /-- The data directory cannot even be looked at. -/
  | access (f : AccessFault)
deriving DecidableEq, Repr

/-- The path of the file; the data directory has to be there. -/
def destination (c : Config) (v : Volume) : Except ArtifactAbort Path :=
  match c.dataDirectory with
  | none => .error (.failure .noDataDirectory)
  | some directory =>
    match v.isDirectory directory with
    | .error fault => .error (.access fault)
    | .ok false => .error (.failure (.notDirectory directory))
    | .ok true => .ok (artifactFile directory)

/-- Fails if a run on a build server would be unable to write its artifact. -/
def preflight (c : Config) (v : Volume) : Except ArtifactAbort Unit :=
  if c.isCI then (destination c v).map fun _ => () else .ok ()

/-- The file and the records that are written to it. -/
def artifactOf (c : Config) (v : Volume) (results : List TaskResult) :
    Except ArtifactAbort (Path × List Record) := do
  let path ← destination c v
  let records ← (buildRecords results).mapError .label
  return (path, records)

/-- What a failed write of the file ends a run with. -/
def ArtifactAbort.ofWrite (path : Path) : AccessFault → ArtifactAbort
  | .nul => .access .nul
  | fault => .failure (.cannotWrite path fault)

/-- Writes all results; outside a build server there is nothing to write. The steps taken are given
also when the write fails. -/
def writeArtifact (c : Config) (v : Volume) (results : List TaskResult) :
    List Change × Except ArtifactAbort (Option Path) :=
  if !c.isCI then ([], .ok none)
  else
    match artifactOf c v results with
    | .error a => ([], .error a)
    | .ok (path, records) =>
      let (steps, result) := v.write path (Text.Utf8.encode (artifactText records))
      (steps, (result.mapError (.ofWrite path)).map fun _ => some path)

/-- The log record of a write. -/
def artifactLog (results : List TaskResult) : Option Path → Log.Record
  | none => ⟨.artifact, .debug, "Not on CI, skipping results artifact"⟩
  | some path =>
    ⟨.artifact, .info, "Wrote " ++ results.length.repr ++ " result(s) to " ++ path.text⟩

end ParseBench.Bench
