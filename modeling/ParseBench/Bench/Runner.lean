import ParseBench.Bench.Clock
import ParseBench.Bench.Config
import ParseBench.Bench.Fixture
import ParseBench.Bench.Label
import ParseBench.Bench.Table
import ParseBench.Binding.Parser

set_option relaxedAutoImplicit false
set_option autoImplicit false

/-!
# The benchmark runner

A runner has one task per fixture. It warms up by running every task a fixed number of times, and
then measures one task after the other until enough time has passed and enough runs have been made.

## Main definitions

* `ParseBench.Bench.Task`, `ParseBench.Bench.Runner` — the data.
* `ParseBench.Bench.Session`, `ParseBench.Bench.Running` — computations on a runner.
* `ParseBench.Bench.add`, `ParseBench.Bench.addAll` — registration.
* `ParseBench.Bench.warmup`, `ParseBench.Bench.run` — the two phases.
-/

namespace ParseBench.Bench

/-- A registered unit of timed work: parsing a fixture and decoding the tree. -/
structure Task where
  label : String
  fixture : Fixture
deriving DecidableEq, Repr

/-- The task of a fixture. -/
def Task.ofFixture (f : Fixture) : Task := ⟨taskLabel f.identifier, f⟩

/-- A runner: its profile, its tasks in the order of registration, and whether it has warmed up. -/
structure Runner where
  profile : Profile
  tasks : List Task
  warmedUp : Bool
deriving DecidableEq, Repr

/-- A runner without tasks. -/
def Runner.ofProfile (p : Profile) : Runner := ⟨p, [], false⟩

/-- What can end the work of a runner. -/
inductive RunAbort where
  /-- There is already a task of this label. -/
  | alreadyRegistered (label : String)
  /-- A task ended the parse. -/
  | parse (abort : ParseAbort)
  /-- The clock has stopped. -/
  | clockStopped
  /-- A measured time leaves the range of floating-point numbers. -/
  | timeOverflow
deriving Repr

/-- The wording of a label that is taken. -/
def alreadyRegisteredMessage (label : String) : String :=
  "task " ++ label ++ " is already registered"

/-- A runner and the journal of what it has done. -/
structure Session where
  runner : Runner
  journal : Journal
deriving Repr

/-- A computation on a runner that can fail. What was done before a failure stays done. -/
abbrev Running (α : Type) := ExceptT RunAbort (StateM Session) α

/-- Does something that writes to the journal only. -/
def Running.ofAct {ε α : Type} (f : ε → RunAbort) (act : Act ε α) : Running α := fun s =>
  match act s.journal with
  | (.ok a, j) => (.ok a, { s with journal := j })
  | (.error e, j) => (.error (f e), { s with journal := j })

/-! ## Registration -/

/-- Registers the task of a fixture. -/
def add (f : Fixture) : Running Task := do
  let s ← get
  let task := Task.ofFixture f
  if s.runner.tasks.any fun t => t.label == task.label then throw (.alreadyRegistered task.label)
  else
    set { s with runner := { s.runner with tasks := s.runner.tasks ++ [task] } }
    return task

/-- Registers the tasks of fixtures in order, up to the first that is already registered. -/
def addAll : List Fixture → Running Unit
  | [] => pure ()
  | f :: rest => do
    let _ ← add f
    addAll rest

/-! ## Running tasks -/

/-- What ends a task: every failure of the parse is named by the label of the task. -/
def taskAbort (label : String) : ParseAbort → ParseAbort
  | .uncatchable f => .uncatchable f
  | abort =>
    match abort.text with
    | .ok text => .failure (.task label text)
    | .error fault => .unwritable fault

/-- Runs a task once. -/
def invoke (p : Parser) (task : Task) : Act ParseAbort Unit :=
  Act.mapFailure (taskAbort task.label) do
    let _ ← p.parseTree task.fixture.content
    return ()

/-- Runs a task a number of times. -/
def invokeTimes (p : Parser) (task : Task) : Nat → Act ParseAbort Unit
  | 0 => pure ()
  | n + 1 => do
    invoke p task
    invokeTimes p task n

/-- Runs every task a number of times, one task after the other. -/
def invokeAll (p : Parser) (times : Nat) : List Task → Act ParseAbort Unit
  | [] => pure ()
  | task :: rest => do
    invokeTimes p task times
    invokeAll p times rest

/-- Runs every task as often as the profile says, without measuring. -/
def warmup (p : Parser) : Running Unit := do
  let runner := (← get).runner
  Running.ofAct .parse (invokeAll p runner.profile.warmupIterations runner.tasks)
  modify fun s => { s with runner := { s.runner with warmedUp := true } }
  Running.ofAct .parse (Act.log .runner .info
    ("Warm-up done: " ++ runner.tasks.length.repr ++ " task(s) x " ++
      runner.profile.warmupIterations.repr ++ " iteration(s)"))

/-! ## Measuring -/

/-- A time in nanoseconds as microseconds. -/
def microseconds (ns : Int) : Except RunAbort Float :=
  let x := Decimal.nearestInt ns 1000
  if Decimal.isFinite x then .ok x else .error .timeOverflow

/-- Runs a task once and measures the time in nanoseconds. -/
def timed (p : Parser) (clock : Clock) (task : Task) : Act RunAbort Int := do
  let start ← Act.mapFailure (fun _ => .clockStopped) clock.read
  Act.mapFailure .parse (invoke p task)
  let stop ← Act.mapFailure (fun _ => .clockStopped) clock.read
  return stop - start

/-- Whether enough has been measured: at least one run, the whole time and the least number of
runs. -/
def enough (profile : Profile) (total : Int) (runs : Nat) : Bool :=
  runs != 0 && (profile.measuredDurationMs : Int) * 1000000 ≤ total && profile.minIterations ≤ runs

/-- Measures a task until there is enough. The samples are kept from the last to the first; `fuel`
bounds the number of runs. -/
def measureLoop (p : Parser) (clock : Clock) (profile : Profile) (task : Task) :
    Nat → Int → List Float → Nat → Act RunAbort (Int × List Float)
  | 0, _, _, _ => throw .clockStopped
  | fuel + 1, total, samples, runs =>
    if enough profile total runs then return (total, samples.reverse)
    else do
      let elapsed ← timed p clock task
      let sample ← Act.ofExcept (microseconds elapsed)
      measureLoop p clock profile task fuel (total + elapsed) (sample :: samples) (runs + 1)

/-- Measures a task. A run takes two readings of the clock, so the clock's life bounds the number of
runs. -/
def measure (p : Parser) (clock : Clock) (profile : Profile) (task : Task) :
    Act RunAbort TaskResult := do
  let (total, samples) ← measureLoop p clock profile task (clock.readings + 1) 0 [] 0
  let whole ← Act.ofExcept (microseconds total)
  let period := whole / samples.length.toFloat
  Act.log .runner .info
    (task.label ++ ": " ++ Decimal.fixed 2 period ++ "us over " ++ samples.length.repr ++ " run(s)")
  return ⟨task.label, period, samples⟩

/-- Measures tasks one after the other. -/
def measureAll (p : Parser) (clock : Clock) (profile : Profile) :
    List Task → Act RunAbort (List TaskResult)
  | [] => pure []
  | task :: rest => do
    let result ← measure p clock profile task
    let results ← measureAll p clock profile rest
    return result :: results

/-- Measures every task, after a warm-up if there has been none. -/
def run (p : Parser) (clock : Clock) : Running (List TaskResult) := do
  if !(← get).runner.warmedUp then warmup p
  let runner := (← get).runner
  Running.ofAct id (measureAll p clock runner.profile runner.tasks)

end ParseBench.Bench
