import ParseBench.Proofs.Bench.Runner
import ParseBench.Proofs.Binding.Parser

set_option relaxedAutoImplicit false
set_option autoImplicit false

/-!
# Invocations of tasks

A task is invoked to warm it up, or to record how long it takes. The journal shows the calls of the
parser but not the tasks they are made for, and two tasks may have the same content. So the
invocations are told by following a computation step by step, also one that ends early; and it is
proved that what they show is what the journal gets.

## Main definitions

* `ParseBench.Bench.Invocation` — an invocation, and `ParseBench.Bench.Invocation.events` what it
  shows.
* `ParseBench.Bench.warmupTrace`, `ParseBench.Bench.runTrace` — the invocations of a warm-up and of
  a run.
* `ParseBench.Bench.Makes`, `ParseBench.Bench.MakesAll` — some invocations are those that a
  computation makes, and those that several make one after the other.

## Main results

* `ParseBench.Bench.warmup_makes`, `ParseBench.Bench.run_makes` — the invocations that are told are
  those that are made.
* `ParseBench.Bench.warmupTrace_of_ok`, `ParseBench.Bench.mem_runTrace_of_ok` — the invocations of a
  warm-up and of a run that come to an end.
-/

namespace ParseBench.Bench

open Stateful

/-- An invocation of a task, to record how long it takes or to warm it up. -/
structure Invocation where
  task : Task
  recorded : Bool
deriving DecidableEq, Repr

/-- What an invocation shows if it comes to its end. -/
def Invocation.events (i : Invocation) : List Event :=
  if i.recorded then [.clockRead, callOf i.task.fixture, .clockRead] else [callOf i.task.fixture]

/-! ## Following a computation -/

section AndThen

variable {ε σ α β : Type} {act : ExceptT ε (StateM σ) α} {next : α → σ → List β} {s s' : σ}

/-- What is told of the rest of a computation, which there is if its first part gives a result. -/
def andThen (act : ExceptT ε (StateM σ) α) (next : α → σ → List β) (s : σ) : List β :=
  match act s with
  | (.ok a, s') => next a s'
  | (.error _, _) => []

/-- After an action that succeeds, what comes next tells. -/
lemma andThen_of_ok {a : α} (h : act s = (.ok a, s')) : andThen act next s = next a s' := by
  rw [andThen, h]

/-- After an action that fails, nothing is told. -/
lemma andThen_of_error {e : ε} (h : act s = (.error e, s')) : andThen act next s = [] := by
  rw [andThen, h]

/-- If nothing is told next, nothing is told at all. -/
@[simp] lemma andThen_nil : andThen act (fun _ _ => ([] : List β)) s = [] := by
  rw [andThen]
  split <;> rfl

/-- What is told comes after a success of the action. -/
lemma mem_andThen {b : β} (h : b ∈ andThen act next s) :
    ∃ a s', act s = (.ok a, s') ∧ b ∈ next a s' := by
  rw [andThen] at h
  split at h
  · next a s' hact => exact ⟨a, s', hact, h⟩
  · cases h

end AndThen

section Traces

variable (p : Parser) (clock : Clock) (profile : Profile)

/-- The invocations of `invokeTimes`. -/
def timesTrace (task : Task) : Nat → Journal → List Invocation
  | 0, _ => []
  | n + 1, j => ⟨task, false⟩ :: andThen (invoke p task) (fun _ => timesTrace task n) j

/-- The invocations of `invokeAll`. -/
def allTrace (times : Nat) : List Task → Journal → List Invocation
  | [], _ => []
  | task :: rest, j =>
    timesTrace p task times j ++ andThen (invokeTimes p task times) (fun _ => allTrace times rest) j

/-- The invocations of a warm-up. -/
def warmupTrace (s : Session) : List Invocation :=
  allTrace p s.runner.profile.warmupIterations s.runner.tasks s.journal

/-- The invocations of a warm-up of all tasks of a runner that comes to its end. -/
def wholeWarmup (r : Runner) : List Invocation :=
  r.tasks.flatMap fun task => List.replicate r.profile.warmupIterations ⟨task, false⟩

/-- The invocation of `timed`, which is made after a reading of the clock. -/
def timedTrace (task : Task) (j : Journal) : List Invocation :=
  andThen clock.read (fun _ _ => [⟨task, true⟩]) j

/-- The invocations of `measureLoop`. -/
def loopTrace (task : Task) : Nat → Int → Nat → Journal → List Invocation
  | 0, _, _, _ => []
  | fuel + 1, total, runs, j =>
    if enough profile total runs then []
    else timedTrace clock task j ++
      andThen (timed p clock task) (fun elapsed =>
        andThen (Act.ofExcept (microseconds elapsed)) fun _ =>
          loopTrace task fuel (total + elapsed) (runs + 1)) j

/-- The invocations of `measure`. -/
def measureTrace (task : Task) (j : Journal) : List Invocation :=
  loopTrace p clock profile task (clock.readings + 1) 0 0 j

/-- The invocations of `measureAll`. -/
def measureAllTrace : List Task → Journal → List Invocation
  | [], _ => []
  | task :: rest, j =>
    measureTrace p clock profile task j ++
      andThen (measure p clock profile task) (fun _ => measureAllTrace rest) j

/-- The invocations of a run that finds the runner warmed up. -/
def measuredTrace (s : Session) : List Invocation :=
  measureAllTrace p clock s.runner.profile s.runner.tasks s.journal

/-- The invocations of a run. -/
def runTrace (s : Session) : List Invocation :=
  if s.runner.warmedUp then measuredTrace p clock s
  else warmupTrace p s ++ andThen (warmup p) (fun _ => measuredTrace p clock) s

end Traces

variable {p : Parser} {clock : Clock} {profile : Profile} {task : Task} {tasks : List Task}
  {j j' : Journal} {s s' : Session}

/-- What a run does after its warm-up. -/
def measured (p : Parser) (clock : Clock) : Running (List TaskResult) := fun s =>
  Running.ofAct id (measureAll p clock s.runner.profile s.runner.tasks) s

/-- The measurements of a session leave its runner alone. -/
lemma measured_runner (p : Parser) (clock : Clock) (s : Session) :
    (measured p clock s).2.runner = s.runner := by
  rw [measured, Running.ofAct]
  split <;> rfl

/-- A run is its measurements, after a warm-up if there has been none. -/
lemma run_eq (p : Parser) (clock : Clock) (s : Session) :
    run p clock s = if s.runner.warmedUp then measured p clock s
      else (warmup p >>= fun _ => measured p clock) s := by
  rw [run]
  change (if !s.runner.warmedUp then _ else _ : Running (List TaskResult)) s = _
  cases s.runner.warmedUp <;> rfl

/-! ## The invocations that are made -/

section Makes

variable {ε δ α β : Type} {is is' : List Invocation}

/-- Between two journals, a computation with this outcome makes these invocations, one after the
other. If it gives a result, each of them comes to its end; otherwise the last may be cut off. -/
inductive Makes : List Invocation → Journal → Except ε α → Journal → Prop
  | ended {is : List Invocation} {j j' : Journal} {a : α}
      (h : Worked j (is.flatMap Invocation.events) j') : Makes is j (.ok a) j'
  | failed {is cut : List Invocation} {work : List Event} {j j' : Journal} {e : ε}
      (hcut : cut.length ≤ 1) (hwork : work <+: cut.flatMap Invocation.events)
      (h : Worked j (is.flatMap Invocation.events ++ work) j') : Makes (is ++ cut) j (.error e) j'

namespace Makes

/-- A log record is no invocation. -/
lemma log (r : Log.Record) (a : α) (j : Journal) :
    Makes [] j (.ok a : Except ε α) (j.add (.log r)) :=
  .ended (.log j r)

/-- A single invocation that is cut off. -/
lemma single {i : Invocation} {work : List Event} {e : ε} (hwork : work <+: i.events)
    (h : Worked j work j') : Makes [i] j (.error e : Except ε α) j' := by
  rw [← List.nil_append [i]]
  refine .failed (by simp) ?_ h
  rw [List.flatMap_singleton]
  exact hwork

/-- A result that is there already takes no invocation. -/
lemma ofExcept (r : Except ε α) (j : Journal) : Makes [] j r j := by
  cases r with
  | ok a => exact .ended (.refl j)
  | error e =>
    rw [← List.nil_append []]
    exact .failed (by simp) List.prefix_rfl (.refl j)

/-- What is made after a computation with a result comes after what it made. -/
lemma trans {a : α} {r : Except ε β} {j'' : Journal} (h : Makes is j (.ok a : Except δ α) j')
    (h' : Makes is' j' r j'') : Makes (is ++ is') j r j'' := by
  cases h with
  | ended hfirst =>
    cases h' with
    | ended hrest =>
      refine .ended ?_
      rw [List.flatMap_append]
      exact hfirst.trans hrest
    | failed hcut hwork hrest =>
      rw [← List.append_assoc]
      refine .failed hcut hwork ?_
      rw [List.flatMap_append, List.append_assoc]
      exact hfirst.trans hrest

/-- A failure is one whatever it is called and whatever result there was to be. -/
lemma error {e : ε} {e' : δ} (h : Makes is j (.error e : Except ε α) j') :
    Makes is j (.error e' : Except δ β) j' := by
  cases h with
  | failed hcut hwork h => exact .failed hcut hwork h

/-- What a result becomes does not change what was invoked. -/
lemma map {r : Except ε α} (f : α → β) (h : Makes is j r j') : Makes is j (r.map f) j' := by
  cases r with
  | ok a =>
    cases h with
    | ended h => exact .ended h
  | error e => exact h.error

/-- **Two actions in a row** invoke what the first invokes, and then, if it succeeds, what the
second invokes. -/
lemma bind {act : Act ε α} {next : α → Act ε β} {trace : α → Journal → List Invocation}
    (h : Makes is j (act j).1 (act j).2)
    (hnext : ∀ a j', Makes (trace a j') j' (next a j').1 (next a j').2) :
    Makes (is ++ andThen act trace j) j ((act >>= next) j).1 ((act >>= next) j).2 := by
  rw [bind_eq]
  cases hact : act j with
  | mk r j₁ =>
    rw [hact] at h
    cases r with
    | ok a =>
      rw [andThen_of_ok hact]
      exact h.trans (hnext a j₁)
    | error e =>
      rw [andThen_of_error hact, List.append_nil]
      exact h.error

/-- A computation that goes on without an invocation has made them all. -/
lemma bind_nil {act : Act ε α} {next : α → Act ε β} (h : Makes is j (act j).1 (act j).2)
    (hnext : ∀ a j', Makes [] j' (next a j').1 (next a j').2) :
    Makes is j ((act >>= next) j).1 ((act >>= next) j).2 := by
  have hboth := h.bind hnext
  rwa [andThen_nil, List.append_nil] at hboth

end Makes

/-- Between two journals, computations one after the other make these invocations; each of the
computations may fail, and then its last invocation may be cut off. -/
inductive MakesAll : List Invocation → Journal → Journal → Prop
  | nil (j : Journal) : MakesAll [] j j
  | cons {is is' : List Invocation} {j j' j'' : Journal} (outcome : Except RunAbort Unit)
      (h : Makes is j outcome j') (hrest : MakesAll is' j' j'') : MakesAll (is ++ is') j j''

end Makes

/-! ## Invocations of a warm-up -/

/-- A call shows itself, or nothing if there is no function to call. -/
lemma parseTree_worked (p : Parser) (f : Fixture) (j : Journal) :
    ∃ work, work <+: [callOf f] ∧ Worked j work (p.parseTree f.content j).2 := by
  have hcall : (p.parseTree f.content j).2 = (p.binding.call .blocking f.content j).2 := by
    rw [Parser.parseTree, bind_eq, p.parse_eq]
    cases (p.answer .blocking f.content j).outcome .blocking with
    | ok o =>
      dsimp only
      rw [Act.ofExcept_eq]
    | error e => rfl
  rw [hcall, Binding.call_snd]
  split
  · exact ⟨_, List.prefix_rfl, .call j f⟩
  · exact ⟨_, List.nil_prefix, .refl j⟩

/-- What an invocation shows, also if it fails. -/
lemma invoke_worked (p : Parser) (task : Task) (j : Journal) :
    ∃ work, work <+: [callOf task.fixture] ∧ Worked j work (invoke p task j).2 := by
  have hparse : (invoke p task j).2 = (p.parseTree task.fixture.content j).2 := by
    rw [invoke, Act.mapFailure_eq, bind_eq]
    split
    · next h =>
      rw [h]
      rfl
    · next h => rw [h]
  rw [hparse]
  exact parseTree_worked p task.fixture j

/-- One invocation is told as one that is not recorded. -/
lemma invoke_makes (p : Parser) (task : Task) (j : Journal) :
    Makes [⟨task, false⟩] j (invoke p task j).1 (invoke p task j).2 := by
  cases hinvoke : invoke p task j with
  | mk r j₁ =>
    cases r with
    | ok _ => exact .ended (invoke_eq_ok hinvoke)
    | error e =>
      obtain ⟨work, hwork, h⟩ := invoke_worked p task j
      rw [hinvoke] at h
      exact .single hwork h

/-- Invocations of one task are told as often as they are made. -/
lemma invokeTimes_makes (p : Parser) (task : Task) (n : Nat) (j : Journal) :
    Makes (timesTrace p task n j) j (invokeTimes p task n j).1 (invokeTimes p task n j).2 := by
  induction n generalizing j with
  | zero => exact .ofExcept (.ok ()) j
  | succ n ih => exact (invoke_makes p task j).bind fun _ => ih

/-- The invocations of all tasks in a row are told as they are made. -/
lemma invokeAll_makes (p : Parser) (n : Nat) (tasks : List Task) (j : Journal) :
    Makes (allTrace p n tasks j) j (invokeAll p n tasks j).1 (invokeAll p n tasks j).2 := by
  induction tasks generalizing j with
  | nil => exact .ofExcept (.ok ()) j
  | cons task rest ih => exact (invokeTimes_makes p task n j).bind fun _ => ih

/-- A warm-up that comes to its end says so and is noted. -/
lemma warmup_of_ok
    (h : invokeAll p s.runner.profile.warmupIterations s.runner.tasks s.journal = (.ok (), j)) :
    ∃ r, warmup p s = (.ok (), ⟨{ s.runner with warmedUp := true }, j.add (.log r)⟩) := by
  have hcalls : Running.ofAct .parse
      (invokeAll p s.runner.profile.warmupIterations s.runner.tasks) s =
        (.ok (), { s with journal := j }) := Running.ofAct_eq_ok_iff.2 ⟨j, h, rfl⟩
  rw [warmup, get_bind_eq, bind_eq]
  dsimp only
  rw [hcalls]
  exact ⟨_, rfl⟩

/-- A warm-up that is cut off leaves the runner as it was. -/
lemma warmup_of_error {e : ParseAbort}
    (h : invokeAll p s.runner.profile.warmupIterations s.runner.tasks s.journal = (.error e, j)) :
    warmup p s = (.error (.parse e), { s with journal := j }) := by
  rw [warmup, get_bind_eq, bind_eq]
  dsimp only
  rw [Running.ofAct, h]

/-- **The invocations of a warm-up**, also of one that is cut off. -/
lemma warmup_makes (p : Parser) (s : Session) :
    Makes (warmupTrace p s) s.journal (warmup p s).1 (warmup p s).2.journal := by
  have hcalls := invokeAll_makes p s.runner.profile.warmupIterations s.runner.tasks s.journal
  cases hinvoke : invokeAll p s.runner.profile.warmupIterations s.runner.tasks s.journal with
  | mk r j =>
    rw [hinvoke] at hcalls
    cases r with
    | ok _ =>
      obtain ⟨record, hwarm⟩ := warmup_of_ok hinvoke
      rw [hwarm, ← List.append_nil (warmupTrace p s)]
      exact hcalls.trans (.log record () j)
    | error e =>
      rw [warmup_of_error hinvoke]
      exact hcalls.error

/-! ## Invocations of a run -/

/-- A clock that gives no time leaves the journal alone. -/
lemma Clock.read_of_error {e : Stopped} (h : clock.read j = (.error e, j')) : j' = j := by
  rw [Clock.read, get_bind_eq] at h
  split at h
  · cases h
  · cases h
    rfl

/-- What a recorded invocation shows after its first reading of the clock, also if it fails. -/
lemma timed_worked (p : Parser) (clock : Clock) (task : Task) (start : Int) (j : Journal) :
    ∃ work, work <+: [callOf task.fixture, .clockRead] ∧ Worked j work
      (((invoke p task).mapFailure RunAbort.parse >>= fun _ =>
        clock.read.mapFailure (fun _ => .clockStopped) >>= fun stop =>
          pure (stop - start) : Act RunAbort Int) j).2 := by
  rw [bind_eq, Act.mapFailure_eq]
  cases hinvoke : invoke p task j with
  | mk r j₁ =>
    cases r with
    | error e =>
      obtain ⟨work, hwork, hworked⟩ := invoke_worked p task j
      rw [hinvoke] at hworked
      exact ⟨work, hwork.trans (List.prefix_append [_] _), hworked⟩
    | ok _ =>
      have hcalled := invoke_eq_ok hinvoke
      dsimp only [Except.mapError]
      rw [bind_eq, Act.mapFailure_eq]
      cases hstop : clock.read j₁ with
      | mk stop j₂ =>
        cases stop with
        | error e =>
          rw [Clock.read_of_error hstop]
          exact ⟨_, List.prefix_append [_] _, hcalled⟩
        | ok stop => exact ⟨_, List.prefix_rfl, hcalled.trans (Clock.read_eq_ok hstop)⟩

/-- An invocation between two readings of the clock is told as one that is recorded, if the clock
starts. -/
lemma timed_makes (p : Parser) (clock : Clock) (task : Task) (j : Journal) :
    Makes (timedTrace clock task j) j (timed p clock task j).1 (timed p clock task j).2 := by
  cases htimed : timed p clock task j with
  | mk r j' =>
    have htail := htimed
    rw [timed, bind_eq, Act.mapFailure_eq] at htail
    cases hstart : clock.read j with
    | mk start j₁ =>
      rw [hstart] at htail
      cases start with
      | error _ =>
        cases htail
        rw [timedTrace, andThen_of_error hstart, Clock.read_of_error hstart]
        exact .ofExcept (.error _) j
      | ok start =>
        rw [timedTrace, andThen_of_ok hstart]
        cases r with
        | ok elapsed => exact .ended (timed_eq_ok htimed)
        | error e =>
          obtain ⟨work, hwork, hworked⟩ := timed_worked p clock task start j₁
          have hj' : _ = j' := congrArg Prod.snd htail
          rw [← hj']
          exact .single ((List.prefix_cons_inj _).2 hwork)
            ((Clock.read_eq_ok hstart).trans hworked)

/-- The loop of a measurement is told as it is made. -/
lemma measureLoop_makes (p : Parser) (clock : Clock) (profile : Profile) (task : Task) (fuel : Nat)
    (total : Int) (samples : List Float) (runs : Nat) (j : Journal) :
    Makes (loopTrace p clock profile task fuel total runs j) j
      (measureLoop p clock profile task fuel total samples runs j).1
      (measureLoop p clock profile task fuel total samples runs j).2 := by
  induction fuel generalizing total samples runs j with
  | zero => exact .ofExcept (.error _) j
  | succ fuel ih =>
    rw [measureLoop, loopTrace]
    split
    · exact .ofExcept (.ok _) j
    · refine (timed_makes p clock task j).bind fun elapsed j₁ => ?_
      rw [← List.nil_append (andThen _ _ _)]
      refine Makes.bind ?_ fun sample j₂ => ih _ _ _ _
      rw [Act.ofExcept_eq]
      exact .ofExcept _ _

/-- A measurement is told as it is made. -/
lemma measure_makes (p : Parser) (clock : Clock) (profile : Profile) (task : Task) (j : Journal) :
    Makes (measureTrace p clock profile task j) j (measure p clock profile task j).1
      (measure p clock profile task j).2 := by
  rw [measure, measureTrace]
  refine (measureLoop_makes p clock profile task _ _ _ _ j).bind_nil fun measured j₁ => ?_
  refine Makes.bind_nil ?_ fun whole j₂ => ?_
  · rw [Act.ofExcept_eq]
    exact .ofExcept _ _
  · refine Makes.bind_nil ?_ fun _ j₃ => .ofExcept (.ok _) j₃
    rw [Act.log_eq]
    exact .log _ () j₂

/-- The measurements of all tasks are told as they are made. -/
lemma measureAll_makes (p : Parser) (clock : Clock) (profile : Profile) (tasks : List Task)
    (j : Journal) :
    Makes (measureAllTrace p clock profile tasks j) j (measureAll p clock profile tasks j).1
      (measureAll p clock profile tasks j).2 := by
  induction tasks generalizing j with
  | nil => exact .ofExcept (.ok []) j
  | cons task rest ih =>
    rw [measureAll, measureAllTrace]
    refine (measure_makes p clock profile task j).bind fun result j₁ => ?_
    exact (ih j₁).bind_nil fun results j₂ => .ofExcept (.ok _) j₂

/-- The measurements of a session are told as they are made. -/
lemma measured_makes (p : Parser) (clock : Clock) (s : Session) :
    Makes (measuredTrace p clock s) s.journal (measured p clock s).1
      (measured p clock s).2.journal := by
  have hmeasured := measureAll_makes p clock s.runner.profile s.runner.tasks s.journal
  rw [measured, Running.ofAct, measuredTrace]
  cases hall : measureAll p clock s.runner.profile s.runner.tasks s.journal with
  | mk r j =>
    rw [hall] at hmeasured
    cases r with
    | ok results => exact hmeasured
    | error e => exact hmeasured

/-- **The invocations of a run**, also of one that is cut off. -/
lemma run_makes (p : Parser) (clock : Clock) (s : Session) :
    Makes (runTrace p clock s) s.journal (run p clock s).1 (run p clock s).2.journal := by
  rw [run_eq, runTrace]
  split
  · exact measured_makes p clock s
  · have hwarmup := warmup_makes p s
    rw [bind_eq]
    cases hwarm : warmup p s with
    | mk r s₁ =>
      rw [hwarm] at hwarmup
      cases r with
      | ok _ =>
        rw [andThen_of_ok hwarm]
        exact hwarmup.trans (measured_makes p clock s₁)
      | error e =>
        rw [andThen_of_error hwarm, List.append_nil]
        exact hwarmup.error

/-! ## Which invocations there are -/

/-- Invocations of one task that are told are those of a warm-up of it. -/
lemma mem_timesTrace {n : Nat} {i : Invocation} (h : i ∈ timesTrace p task n j) :
    i = ⟨task, false⟩ := by
  induction n generalizing j with
  | zero => cases h
  | succ n ih =>
    rcases List.mem_cons.1 h with rfl | h
    · rfl
    · obtain ⟨_, j₁, -, h⟩ := mem_andThen h
      exact ih h

/-- What is told of a warm-up are its tasks, without recording. -/
lemma mem_allTrace {n : Nat} {i : Invocation} (h : i ∈ allTrace p n tasks j) :
    i.task ∈ tasks ∧ i.recorded = false := by
  induction tasks generalizing j with
  | nil => cases h
  | cons task rest ih =>
    rcases List.mem_append.1 h with h | h
    · rw [mem_timesTrace h]
      exact ⟨List.mem_cons_self, rfl⟩
    · obtain ⟨_, j₁, -, h⟩ := mem_andThen h
      obtain ⟨htask, hrecorded⟩ := ih h
      exact ⟨List.mem_cons_of_mem _ htask, hrecorded⟩

/-- What is told of the loop of a measurement are recorded invocations of its task. -/
lemma mem_loopTrace {fuel runs : Nat} {total : Int} {i : Invocation}
    (h : i ∈ loopTrace p clock profile task fuel total runs j) : i = ⟨task, true⟩ := by
  induction fuel generalizing total runs j with
  | zero => cases h
  | succ fuel ih =>
    rw [loopTrace] at h
    split at h
    · cases h
    · rcases List.mem_append.1 h with h | h
      · obtain ⟨start, j₁, -, h⟩ := mem_andThen h
        exact List.mem_singleton.1 h
      · obtain ⟨elapsed, j₁, -, h⟩ := mem_andThen h
        obtain ⟨sample, j₂, -, h⟩ := mem_andThen h
        exact ih h

/-- What is told of measurements are recorded invocations of their tasks. -/
lemma mem_measureAllTrace {i : Invocation} (h : i ∈ measureAllTrace p clock profile tasks j) :
    i.task ∈ tasks ∧ i.recorded = true := by
  induction tasks generalizing j with
  | nil => cases h
  | cons task rest ih =>
    rcases List.mem_append.1 h with h | h
    · rw [mem_loopTrace h]
      exact ⟨List.mem_cons_self, rfl⟩
    · obtain ⟨result, j₁, -, h⟩ := mem_andThen h
      obtain ⟨htask, hrecorded⟩ := ih h
      exact ⟨List.mem_cons_of_mem _ htask, hrecorded⟩

/-! ## Phases that come to their end -/

/-- A warm-up of one task that comes to its end has made all of its invocations. -/
lemma timesTrace_of_ok {n : Nat} (h : invokeTimes p task n j = (.ok (), j')) :
    timesTrace p task n j = List.replicate n ⟨task, false⟩ := by
  induction n generalizing j with
  | zero => rfl
  | succ n ih =>
    rw [invokeTimes] at h
    obtain ⟨_, j₁, hinvoke, hrest⟩ := bind_ok_iff.1 h
    rw [timesTrace, andThen_of_ok hinvoke, ih hrest, List.replicate_succ]

/-- A warm-up of all tasks that comes to its end has made all invocations of each, in order. -/
lemma allTrace_of_ok {n : Nat} (h : invokeAll p n tasks j = (.ok (), j')) :
    allTrace p n tasks j = tasks.flatMap fun task => List.replicate n ⟨task, false⟩ := by
  induction tasks generalizing j with
  | nil => rfl
  | cons task rest ih =>
    rw [invokeAll] at h
    obtain ⟨_, j₁, htask, hrest⟩ := bind_ok_iff.1 h
    rw [allTrace, timesTrace_of_ok htask, andThen_of_ok htask, ih hrest, List.flatMap_cons]

/-- **A round that gets past a task** has invoked it as often as was asked, also if it is cut off
later. -/
lemma count_allTrace_of_ok {n : Nat} {before after : List Task}
    (h : (invokeAll p n (before ++ [task]) j).1 = .ok ()) :
    n ≤ (allTrace p n (before ++ task :: after) j).count ⟨task, false⟩ := by
  induction before generalizing j with
  | nil =>
    cases htimes : invokeTimes p task n j with
    | mk r j₁ =>
      cases r with
      | error e =>
        rw [List.nil_append, invokeAll, bind_eq, htimes] at h
        cases h
      | ok _ =>
        rw [List.nil_append, allTrace, timesTrace_of_ok htimes, List.count_append,
          List.count_replicate_self]
        omega
  | cons first before ih =>
    rw [List.cons_append, invokeAll, bind_eq] at h
    cases htimes : invokeTimes p first n j with
    | mk r j₁ =>
      rw [htimes] at h
      cases r with
      | error e => cases h
      | ok _ =>
        rw [List.cons_append, allTrace, andThen_of_ok htimes, List.count_append]
        exact Nat.le_add_left_of_le (ih h)

/-- **A warm-up that comes to its end** invokes each task as often as the profile says. -/
lemma warmupTrace_of_ok (h : warmup p s = (.ok (), s')) :
    warmupTrace p s = wholeWarmup s.runner := by
  cases hinvoke : invokeAll p s.runner.profile.warmupIterations s.runner.tasks s.journal with
  | mk r j =>
    cases r with
    | ok _ => exact allTrace_of_ok hinvoke
    | error e =>
      rw [warmup_of_error hinvoke] at h
      cases h

/-- A measurement that comes to its end has recorded an invocation. -/
lemma mem_measureTrace_of_ok {r : TaskResult} (h : measure p clock profile task j = (.ok r, j')) :
    ⟨task, true⟩ ∈ measureTrace p clock profile task j := by
  rw [measure] at h
  obtain ⟨⟨total, samples⟩, j₁, hloop, -⟩ := bind_ok_iff.1 h
  have hfirst : ¬ enough profile 0 0 := by
    simp [enough]
  rw [measureLoop, if_neg hfirst] at hloop
  obtain ⟨elapsed, j₂, htimed, -⟩ := bind_ok_iff.1 hloop
  rw [timed] at htimed
  obtain ⟨start, j₃, hstart, -⟩ := bind_ok_iff.1 htimed
  rw [Act.mapFailure_eq_ok_iff] at hstart
  rw [measureTrace, loopTrace, if_neg hfirst, timedTrace, andThen_of_ok hstart]
  exact List.mem_append_left _ (List.mem_singleton_self _)

/-- If the measurements of all tasks come to their end, something of each task is recorded. -/
lemma mem_measureAllTrace_of_ok {results : List TaskResult}
    (h : measureAll p clock profile tasks j = (.ok results, j')) (htask : task ∈ tasks) :
    ⟨task, true⟩ ∈ measureAllTrace p clock profile tasks j := by
  induction tasks generalizing j j' results with
  | nil => cases htask
  | cons first rest ih =>
    rw [measureAll] at h
    obtain ⟨r, j₁, hmeasure, h⟩ := bind_ok_iff.1 h
    obtain ⟨rs, j₂, hrest, -⟩ := bind_ok_iff.1 h
    rw [measureAllTrace, andThen_of_ok hmeasure]
    rcases List.mem_cons.1 htask with rfl | htask
    · exact List.mem_append_left _ (mem_measureTrace_of_ok hmeasure)
    · exact List.mem_append_right _ (ih hrest htask)

/-- **A run that comes to its end** has recorded an invocation of each task. -/
lemma mem_runTrace_of_ok {results : List TaskResult} (h : run p clock s = (.ok results, s'))
    (htask : task ∈ s.runner.tasks) : ⟨task, true⟩ ∈ runTrace p clock s := by
  obtain ⟨s₁, hwarm, hmeasure⟩ := run_eq_ok h
  rw [runTrace]
  cases hflag : s.runner.warmedUp with
  | true =>
    rw [hflag, if_pos rfl] at hwarm
    subst hwarm
    exact mem_measureAllTrace_of_ok hmeasure htask
  | false =>
    rw [hflag, if_neg Bool.false_ne_true] at hwarm
    rw [if_neg Bool.false_ne_true, andThen_of_ok hwarm]
    refine List.mem_append_right _ (mem_measureAllTrace_of_ok hmeasure ?_)
    rw [(warmup_eq_ok hwarm).1]
    exact htask

end ParseBench.Bench
