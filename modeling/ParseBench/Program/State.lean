import ParseBench.Bench.Artifact
import ParseBench.Bench.Runner
import ParseBench.Binding.Loader
import ParseBench.Contract
import ParseBench.Fixture.Resolution
import ParseBench.Fixture.Manifest
import ParseBench.Inspect

set_option relaxedAutoImplicit false
set_option autoImplicit false

/-!
# Computations of the program

A command works on a volume and writes a journal. It ends with a result or with one of the reasons
that the parts of the program give. Some of these are failures that the program reports itself; the
others end it.

## Main definitions

* `ParseBench.Program.Surroundings` — what the program finds: environment, bindings, network, clock.
* `ParseBench.Program.Abort` — why a command ends early, and `ParseBench.Program.Abort.failure?`.
* `ParseBench.Program.State`, `ParseBench.Program.Doing` — computations of the program.
-/

namespace ParseBench.Program

open ParseBench.Files

/-- What the program finds when it starts. -/
structure Surroundings where
  environment : Bench.Environment
  library : Binding.Library
  network : Http.Network
  clock : Bench.Clock
  /-- Whether the output goes to a terminal. -/
  terminal : Bool
  /-- The name of the platform. -/
  platform : String
  /-- The order in which the tasks of a resolution and their workers take turns; if none is given,
  then operations on files take no time. -/
  schedule : Option (List Fixture.Turn) := none

/-- Why a command ends early. -/
inductive Abort where
  | artifact (a : Bench.ArtifactAbort)
  | manifest (a : Fixture.ManifestAbort)
  | load (a : Binding.LoadAbort)
  | cache (a : Fixture.CacheAbort)
  | run (a : Bench.RunAbort)
  | margin (f : Bench.MarginFault)
  | contract (a : Contract.Abort)
  | inspect (a : InspectAbort)
  /-- The log file cannot be opened. -/
  | log (f : AccessFault)

/-- The wording of what ended a parse, if it is a failure. -/
def parseFailure? : ParseAbort → Option String
  | .failure f => some f.message
  | _ => none

/-- The wording of a failure that the program reports itself; `none` for a reason that ends it. -/
def Abort.failure? : Abort → Option String
  | .artifact (.failure f) => some f.message
  | .manifest (.failure f) => some f.message
  | .load (.unavailable u) => some u.message
  | .cache (.failure f) => some f.message
  | .cache (.fetch url reason) => some (Fixture.fetchMessage url reason).lossy
  | .run (.parse a) => parseFailure? a
  | .contract (.parse a) => parseFailure? a
  | .contract (.violated r) => some r.message
  | .inspect (.parse a) => parseFailure? a
  | _ => none

/-- What a command works on. -/
structure State where
  desk : Log.Desk
  journal : Journal

/-- The volume as it is now. -/
def State.volume (s : State) : Volume := s.desk.volume

/-- The state after a journal has grown: what is new in it is logged. -/
def State.grow (s : State) (j : Journal) : State :=
  let new := (j.events.extract s.journal.events.size j.events.size).toList
  ⟨s.desk.note new, j⟩

/-- A computation of the program. What was done before it ended early stays done. -/
abbrev Doing (α : Type) := ExceptT Abort (StateM State) α

namespace Doing

/-- Runs a computation that only writes the journal. -/
def ofAct {ε α : Type} (f : ε → Abort) (act : Act ε α) : Doing α := fun s =>
  match act s.journal with
  | (.ok a, j) => (.ok a, s.grow j)
  | (.error e, j) => (.error (f e), s.grow j)

/-- Continues with a result that may be a failure. -/
def ofExcept {ε α : Type} (f : ε → Abort) (r : Except ε α) : Doing α :=
  match r with
  | .ok a => pure a
  | .error e => throw (f e)

/-- Notes events. -/
def note (es : List Event) : Doing Unit :=
  modify fun s => s.grow (s.journal.addAll es)

/-- Says something on the console. -/
def say (m : Console.Message) : Doing Unit := note [.message m]

/-- Takes steps on the volume. -/
def take (changes : List Change) : Doing Unit :=
  modify fun s => { s with desk := s.desk.take changes }

/-- Runs a computation on a runner; gives its result and the runner after it. -/
def ofRunning {α : Type} (runner : Bench.Runner) (work : Bench.Running α) :
    Doing (α × Bench.Runner) := fun s =>
  match work ⟨runner, s.journal⟩ with
  | (.ok a, session) => (.ok (a, session.runner), s.grow session.journal)
  | (.error e, session) => (.error (.run e), s.grow session.journal)

/-- Takes over what a resolution of fixtures has done. -/
def ofProgress (p : Fixture.Progress) : Doing Unit :=
  modify fun s => ⟨p.desk, s.journal.addAll p.events⟩

end Doing

end ParseBench.Program
