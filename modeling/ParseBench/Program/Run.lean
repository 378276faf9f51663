import ParseBench.Console.Backend
import ParseBench.Program.Commands

set_option relaxedAutoImplicit false
set_option autoImplicit false

/-!
# A run of the program

The command line is read, the log file is opened, the command is carried out, and what the journal
says is laid out for the two output streams.

## Main definitions

* `ParseBench.Program.Ending` — how a run ends, and `ParseBench.Program.Ending.status?`.
* `ParseBench.Program.Outcome` — a run: its ending, its output and what it leaves behind.
* `ParseBench.Program.run` — the run of a command line.
-/

namespace ParseBench.Program

open ParseBench.CommandLine
open ParseBench.Files

/-- How a run ends. -/
inductive Ending where
  | help
  | usage (program : String) (fault : UsageFault)
  | finished (status : Nat)
  /-- A failure that the program has reported. -/
  | failed (a : Abort)
  /-- A reason that ended the program. -/
  | aborted (a : Abort)

/-- The exit status of a run, if it ends in an orderly way. -/
def Ending.status? : Ending → Option Nat
  | .help => some 0
  | .usage .. => some 2
  | .finished status => some status
  | .failed _ => some 1
  | .aborted _ => none

/-- A run: its ending, its output and what it leaves behind. -/
structure Outcome where
  ending : Ending
  out : String
  err : String
  volume : Volume
  journal : Journal

/-! ## The log file -/

/-- A path from the root without dots. -/
def normalPath (current : Location) (p : Path) : Path :=
  let names := if p.root == "" then current ++ p.names else p.names
  ⟨if p.root == "" then "/" else p.root,
    names.foldl (fun read name => if name == ".." then read.dropLast else read ++ [name]) []⟩

/-- Opens the log file, so that it is there even if nothing is written to it. -/
def openLog (threshold : Log.Level) (time : String) (p : Path) : Doing Unit := do
  let (made, result) := (← get).volume.makeDirectories p.parent
  Doing.take made
  Doing.ofExcept .log result
  let v := (← get).volume
  let file := normalPath v.current p
  let place ← Doing.ofExcept .log (v.writable file)
  let opened ← Doing.ofExcept .log (v.append file [])
  Doing.take [opened]
  modify fun s => { s with desk := { s.desk with sink := ⟨threshold, time, some place⟩ } }

/-! ## Output -/

/-- What an event writes to the output streams. -/
def written (backend : Console.Backend) : Event → Console.Written
  | .message m => backend.written m
  | _ => ⟨"", ""⟩

/-- The standard output of a run. -/
def outText (backend : Console.Backend) (events : List Event) : String :=
  String.join (events.map fun e => (written backend e).out)

/-- The standard error of a run; `logged` is what else goes there, the log if it has no file. -/
def errText (backend : Console.Backend) (logged : Event → String) (events : List Event) : String :=
  String.join (events.map fun e => logged e ++ (written backend e).err)

/-! ## Running -/

/-- Reports a failure and ends the command with it; other reasons end the program. -/
def reportFailure (command : Command) (a : Abort) : Doing Ending :=
  match a.failure? with
  | some message => do
    Doing.note [.log ⟨.program, .debug, command.name ++ " aborted"⟩, .message (.error message)]
    return .failed a
  | none => return .aborted a

/-- Carries out a command and reports its failure. -/
def attempt (s : Surroundings) (r : Request) : Doing Ending := fun state =>
  match carryOut s r.binding r.command state with
  | (.ok status, state) => (.ok (.finished status), state)
  | (.error a, state) => reportFailure r.command a state

/-- Opens the log file, if there is one, and carries out the command. -/
def attemptLogged (s : Surroundings) (time : String) (r : Request) : Doing Ending := do
  match r.logFile with
  | some p => openLog (.ofVerbosity r.verbosity) time p
  | none => pure ()
  attempt s r

/-- The run of a request; `time` is the time that log records show. -/
def runRequest (s : Surroundings) (time : String) (backend : Console.Backend) (v : Volume)
    (r : Request) : Outcome :=
  let (result, state) := attemptLogged s time r ⟨.ofVolume v, .empty⟩
  let ending := match result with
    | .ok ending => ending
    | .error a => .aborted a
  let events := state.journal.events.toList
  let stderr : Log.Sink := ⟨.ofVerbosity r.verbosity, time, none⟩
  { ending := ending
    out := outText backend events
    err := errText backend (if r.logFile.isSome then fun _ => "" else stderr.line) events
    volume := state.volume
    journal := state.journal }

/-- The run of a command line; `time` is the time that log records show. -/
def run (s : Surroundings) (time : String) (v : Volume) (words : List String) : Outcome :=
  let refused (ending : Ending) (err : String) : Outcome := ⟨ending, "", err, v, .empty⟩
  match Request.ofWords words with
  | .error .help => refused .help ""
  | .error (.fault program f) =>
    refused (.usage program f) (program ++ ": error: " ++ f.message ++ "\n")
  | .ok r =>
    let backend := (Console.Backend.select s.terminal r.console).toOption.getD .plain
    runRequest s time backend v r

end ParseBench.Program
