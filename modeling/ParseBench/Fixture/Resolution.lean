import ParseBench.Fixture.Cache

set_option relaxedAutoImplicit false
set_option autoImplicit false

/-!
# Resolving fixtures

All fixtures of a list are resolved at once, each by a task of its own. A task looks for the entry
of its fixture. If the entry is missing, the task fetches the fixture and stores its text. Lookups
and stores are done by workers, while the other tasks go on. The first failure is the result of the
resolution, and the tasks that are left are given up then; but a worker that stores an entry is not
stopped.

## Main definitions

* `ParseBench.Fixture.Stage` — how far a task has come.
* `ParseBench.Fixture.Stage.step` — one step of a task or of its worker.
* `ParseBench.Fixture.Resolution` — the tasks of a resolution and what they have done so far.
* `ParseBench.Fixture.Turn`, `ParseBench.Fixture.Resolution.play` — schedules, and how they are
  followed.
* `ParseBench.Fixture.resolveAlong` — the resolution of a list of URLs along any schedule.
* `ParseBench.Fixture.prompt`, `ParseBench.Fixture.resolve` — the schedule in which files take no
  time, and the resolution along it.
* `ParseBench.Fixture.resolveBy` — the resolution along a schedule, if one is given.

## Implementation notes

A schedule leaves nothing to chance: each turn is one lookup, one operation on the volume, a piece
of a write, one request, or one step of a task between these, so that a resolution that is stopped
after any of them has come to the end of some schedule. A resolution whose schedule ends before its
tasks do has no result yet, which is the failure `CacheAbort.endless`.
-/

namespace ParseBench.Fixture

open ParseBench.Bench (Config)
open ParseBench.Files
open ParseBench.Http (Fetch FetchFault Network)
open ParseBench.Log (Desk)
open ParseBench.Text (Points)

/-! ## One task -/

/-- How far a task has come. -/
inductive Stage where
  | looking
  /-- The worker has looked for the entry. -/
  | looked (found : Look)
  /-- These requests are still to be made, and then the fetch ends, if it does. -/
  | fetching (requests : List String) (ending : Option (Except FetchFault String))
  /-- The worker stores the text. -/
  | storing (content : String) (job : Job)
  /-- The task was given up, but its worker stores the text all the same. -/
  | abandoned (content : String) (job : Job)
  | done (content : String)
  /-- The task has failed or was given up, and no worker is left. -/
  | dropped

namespace Stage

/-- The beginning of a fetch. -/
def ofFetch (f : Fetch) : Stage := .fetching (f.requests.map (·.2)) (f.ending.map (·.2))

/-- What is left of a task that is given up. -/
def giveUp : Stage → Stage
  | .storing content job | .abandoned content job => .abandoned content job
  | .done content => .done content
  | .looking | .looked _ | .fetching _ _ | .dropped => .dropped

/-- One step of the task of a fixture or of its worker. If the worker writes, then a piece of the
text, or all that is left. -/
def step (c : Config) (follow : Bool) (net : Network) (n : Named) (piece : Option Nat) (p : Progress) :
    Stage → Progress × Except CacheAbort Stage
  | .looking => (p, .ok (.looked (look c p.volume n.name)))
  | .looked (.hit content) =>
    let found := "Found cached file: " ++ n.name.lossy
    (p.note (announce c found found), .ok (.done content))
  | .looked (.fault abort) => (p, .error abort)
  | .looked .miss =>
    (p.note (announce c ("Downloading: " ++ n.url.lossy) ("Downloading: " ++ n.name.lossy)),
      .ok (.ofFetch (Http.fetch follow net n.url)))
  | .fetching (url :: rest) ending => (p.note [.request url], .ok (.fetching rest ending))
  | .fetching [] none => (p, .ok (.fetching [] none))
  | .fetching [] (some (.error fault)) => (p, .error (.ofFetch n.url fault))
  | .fetching [] (some (.ok content)) => (p, .ok (.storing content (.start (entryPath c n.name))))
  | .storing content (.ended (.ok ())) =>
    (p.note [.log ⟨.cache, .debug, "Cached " ++ (entryPath c n.name).text ++
      " (" ++ content.length.repr ++ " bytes)"⟩], .ok (.done content))
  | .storing _ (.ended (.error fault)) => (p, .error (.ofStore (entryPath c n.name) fault))
  | .storing content job =>
    let (steps, job) := job.step p.volume (entryPath c n.name) (Text.Utf8.encode content) piece
    (p.take steps, .ok (.storing content job))
  | .abandoned content job =>
    let (steps, job) := job.step p.volume (entryPath c n.name) (Text.Utf8.encode content) piece
    (p.take steps, .ok (.abandoned content job))
  | .done content => (p, .ok (.done content))
  | .dropped => (p, .ok .dropped)

end Stage

/-! ## All tasks -/

/-- A turn of a schedule. -/
inductive Turn where
  /-- The task at a position of the list, or its worker, takes a step. -/
  | task (position : Nat) (piece : Option Nat)
  /-- Once there is a failure, the tasks that are left are given up. -/
  | giveUp
deriving DecidableEq, Repr

/-- The tasks of a resolution, what they have done so far, and the first failure. -/
structure Resolution where
  progress : Progress
  tasks : List (Named × Stage)
  failure : Option CacheAbort

namespace Resolution

/-- The beginning of a resolution. -/
def start (d : Desk) (named : List Named) : Resolution :=
  ⟨.ofDesk d, named.map fun n => (n, .looking), none⟩

/-- Gives up the tasks that are left. -/
def giveUp (r : Resolution) : Resolution :=
  { r with tasks := r.tasks.map fun (n, stage) => (n, stage.giveUp) }

/-- Records the failure of a task. One that stops everything comes before all others. -/
def fail (abort : CacheAbort) (r : Resolution) : Resolution :=
  if abort.stopsAtOnce then { r.giveUp with failure := some abort }
  else { r with failure := r.failure.or (some abort) }

/-- Takes a turn. -/
def turn (c : Config) (follow : Bool) (net : Network) (r : Resolution) : Turn → Resolution
  | .giveUp => if r.failure.isSome then r.giveUp else r
  | .task position piece =>
    match r.tasks[position]? with
    | none => r
    | some (n, stage) =>
      match stage.step c follow net n piece r.progress with
      | (p, .ok next) => { r with progress := p, tasks := r.tasks.set position (n, next) }
      | (p, .error abort) =>
        fail abort { r with progress := p, tasks := r.tasks.set position (n, .dropped) }

/-- Follows a schedule. -/
def play (c : Config) (follow : Bool) (net : Network) (r : Resolution) (turns : List Turn) :
    Resolution :=
  turns.foldl (turn c follow net) r

/-- The fixtures of tasks that are all done, in order. -/
def collect : List (Named × Stage) → Except CacheAbort (List Bench.Fixture)
  | [] => .ok []
  | (n, .done content) :: rest => (collect rest).map (⟨n.name.lossy, content⟩ :: ·)
  | _ :: _ => .error .endless

/-- The result: the first failure, or else the fixtures. -/
def result (r : Resolution) : Except CacheAbort (List Bench.Fixture) :=
  match r.failure with
  | some abort => .error abort
  | none => collect r.tasks

end Resolution

/-- Resolves fixtures whose names differ, along a schedule. -/
def resolveNamedAlong (c : Config) (follow : Bool) (net : Network) (turns : List Turn) (d : Desk)
    (named : List Named) : Progress × Except CacheAbort (List Bench.Fixture) :=
  let r := (Resolution.start d named).play c follow net turns
  (r.progress, r.result)

/-- Resolves a list of URLs, in order, along a schedule. Nothing is done unless all of them name
different fixtures. -/
def resolveAlong (c : Config) (follow : Bool) (net : Network) (turns : List Turn) (d : Desk)
    (urls : List Points) : Progress × Except CacheAbort (List Bench.Fixture) :=
  match checkUrls urls with
  | .error abort => (.ofDesk d, .error abort)
  | .ok named => resolveNamedAlong c follow net turns d named

/-! ## The prompt schedule -/

/-- Turns in a row of the task at a position. -/
def turnsOf (position count : Nat) : List Turn := List.replicate count (.task position none)

/-- How many turns the task of a fixture takes at most from the end of its fetch on. -/
def storeTurns (c : Config) (n : Named) : Nat := (Job.start (entryPath c n.name)).rank + 2

/-- The turns of a task until it is done or awaits an answer: it looks for the entry, makes the
requests that need not be awaited and, if the fetch need not be awaited either, stores the text. -/
def startTurns (c : Config) (follow : Bool) (net : Network) (position : Nat) (n : Named) : List Turn :=
  let f := Http.fetch follow net n.url
  turnsOf position (2 + (f.requests.filter fun (time, _) => time == 0).length) ++
    match f.ending with
    | some (0, _) => turnsOf position (storeTurns c n)
    | _ => []

/-- The turns of a task that awaits an answer, with their times. -/
def laterTurns (c : Config) (follow : Bool) (net : Network) (position : Nat) (n : Named) :
    List (Nat × List Turn) :=
  let f := Http.fetch follow net n.url
  ((f.requests.filter fun (time, _) => time != 0).map fun (time, _) => (time, turnsOf position 1)) ++
    match f.ending with
    | some (time, _) => [(time, turnsOf position (storeTurns c n) ++ [.giveUp])]
    | none => []

/-- The turns of all tasks that await an answer, in the order of time. -/
def awaitedTurns (c : Config) (follow : Bool) (net : Network) (tasks : List (Named × Stage)) :
    List Turn :=
  let all := tasks.zipIdx.flatMap fun ((n, stage), position) =>
    match stage with
    | .fetching _ _ => laterTurns c follow net position n
    | _ => []
  (all.mergeSort fun a b => a.1 ≤ b.1).flatMap (·.2)

/-- The schedule in which operations on files take no time. The tasks start in order, and each goes
on until it is done or awaits an answer. Then the answers arrive, in the order of time, and each is
dealt with at once. -/
def prompt (c : Config) (follow : Bool) (net : Network) (d : Desk) (named : List Named) : List Turn :=
  let first := (named.zipIdx.flatMap fun (n, position) => startTurns c follow net position n) ++
    [.giveUp]
  let r := (Resolution.start d named).play c follow net first
  first ++ awaitedTurns c follow net r.tasks

/-- Resolves fixtures whose names differ, along the prompt schedule. -/
def resolveNamed (c : Config) (follow : Bool) (net : Network) (d : Desk) (named : List Named) :
    Progress × Except CacheAbort (List Bench.Fixture) :=
  resolveNamedAlong c follow net (prompt c follow net d named) d named

/-- Resolves a list of URLs, in order, along the prompt schedule. Nothing is done unless all of them
name different fixtures. -/
def resolve (c : Config) (follow : Bool) (net : Network) (d : Desk) (urls : List Points) :
    Progress × Except CacheAbort (List Bench.Fixture) :=
  match checkUrls urls with
  | .error abort => (.ofDesk d, .error abort)
  | .ok named => resolveNamed c follow net d named

/-- Resolves a list of URLs along a schedule, or along the prompt one if none is given. -/
def resolveBy (schedule : Option (List Turn)) (c : Config) (follow : Bool) (net : Network) (d : Desk)
    (urls : List Points) : Progress × Except CacheAbort (List Bench.Fixture) :=
  match schedule with
  | some turns => resolveAlong c follow net turns d urls
  | none => resolve c follow net d urls

end ParseBench.Fixture
