import ParseBench.Program.Run

set_option relaxedAutoImplicit false
set_option autoImplicit false

/-!
# The program on a real machine

The outer layer: it takes a picture of the files that a command line names, runs the program on it,
and carries the output and the changes back. Bindings are foreign libraries; this build offers those
in `offered`, and has no access to a network.

## Main definitions

* `ParseBench.Machine.capture` — a picture of the files at some paths.
* `ParseBench.Machine.restore` — carries changes back.
* `main` — the program.
-/

namespace ParseBench.Machine

open ParseBench.Files

/-- The bindings that this build offers. -/
def offered : Binding.Library := []

/-- The platform for which this build is made. -/
def platform : String := "linux-x86_64"

/-- The variables that the program looks at. -/
def consulted : List String := ["CI", "ACCURATE", Bench.dataDirectoryVariable]

/-- A network that nothing can be reached over. -/
def unreachable : Http.Network := fun _ => ⟨.after 0, .error (.http "network is unreachable")⟩

/-- The paths that a request names. -/
def namedPaths (env : Bench.Environment) (r : CommandLine.Request) : List Path :=
  let config := Bench.Config.ofEnvironment env (Path.ofString "")
  let command := match r.command with
    | .bench manifest cache => manifest.toList ++ cache.toList ++ config.dataDirectory.toList
    | .verify => []
    | .inspect file _ => [file]
  command ++ r.logFile.toList

/-- The locations on the way to a place, from the outermost on. -/
def wayTo (l : Location) : List Location :=
  (List.range l.length).map fun n => l.take (n + 1)

/-- The text of a location. -/
def textOf (l : Location) : String := (Program.absolutePath l).text

/-- What is at a location of the machine. -/
def look (l : Location) : IO (Option Node) := do
  try
    let content ← IO.FS.readBinFile (textOf l)
    return some (.file content.toList)
  catch
    | .noFileOrDirectory .. => return none
    | _ => return some .directory

/-- Adds the nodes on the way to a place, up to the first that is missing or is a file. -/
def captureWay (v : Volume) : List Location → IO Volume
  | [] => return v
  | l :: rest => do
    match ← look l with
    | none => return v
    | some .directory => captureWay (v.put l .directory) rest
    | some n => return v.put l n

/-- A picture of the files at some paths, seen from the current directory. What the machine refuses
to change shows only when the changes are carried back. -/
def capture (current : Location) (paths : List Path) : IO Volume := do
  let places := current :: paths.map fun p => (Program.normalPath current p).names
  places.foldlM (fun v l => captureWay v (wayTo l)) ⟨[], current, .none⟩

/-- Makes what is at a location of the machine equal to a node. -/
def restoreNode (l : Location) : Node → IO Unit
  | .directory => IO.FS.createDirAll (textOf l)
  | .file content => IO.FS.writeBinFile (textOf l) ⟨content.toArray⟩

/-- Carries back what differs from the picture that was taken. -/
def restore (before after : Volume) : IO Unit :=
  after.nodes.forM fun (l, n) => do
    if before.node? l != some n then restoreNode l n

/-- Runs the program. -/
def runOn (words : List String) : IO UInt32 := do
  let env ← consulted.filterMapM fun name => return (← IO.getEnv name).map (Prod.mk name)
  let current := (Path.ofString (← IO.currentDir).toString).names
  let paths := match CommandLine.Request.ofWords words with
    | .ok r => namedPaths env r
    | .error _ => []
  let before ← capture current paths
  let stdout ← IO.getStdout
  let around : Program.Surroundings :=
    { environment := env
      library := offered
      network := unreachable
      clock := ⟨0, fun _ => 0⟩
      terminal := ← stdout.isTty
      platform := platform }
  let time := (← IO.monoMsNow).repr
  let outcome := Program.run around time before words
  IO.print outcome.out
  IO.eprint outcome.err
  restore before outcome.volume
  return ((outcome.ending.status?.getD 1).toUInt32)

end ParseBench.Machine

/-- The program. -/
def main (words : List String) : IO UInt32 := ParseBench.Machine.runOn words
