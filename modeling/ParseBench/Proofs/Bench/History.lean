import ParseBench.Proofs.Bench.Invocation
import ParseBench.Proofs.Except

set_option relaxedAutoImplicit false
set_option autoImplicit false

/-!
# What is asked of a runner

A runner can be asked to register fixtures, to warm up and to run, in any order and any number of
times. A run warms up if there has been no warm-up, whatever was registered since. So a task has
been warmed up before it is recorded if it was registered before the first warm-up, or if a warm-up
was asked for after it was registered; and a task that was registered later is recorded without.

## Main definitions

* `ParseBench.Bench.Request` — what can be asked of a runner.
* `ParseBench.Bench.Request.afterAll`, `ParseBench.Bench.Request.traceAll` — what becomes of the
  runner, and which invocations are made.
* `ParseBench.Bench.warmUps` — how often a task was invoked before it was recorded.
* `ParseBench.Bench.WarmedInTime` — the tasks that there has been a warm-up for.

## Main results

* `ParseBench.Bench.Request.does` — what a request does.
* `ParseBench.Bench.Request.makesAll` — the invocations that are told are those that are made.
* `ParseBench.Bench.run_warmed_up` — tasks for which there has been a warm-up were warmed up before
  they were recorded.
* `ParseBench.Bench.warmUps_of_late` — a task that is registered after a warm-up is recorded
  without.
-/

namespace ParseBench.Bench

open Stateful

/-! ## Requests -/

/-- One runner may be what has become of another: it has the same profile and no fewer tasks, and it
has warmed up if the other has. -/
structure Runner.Continues (r' r : Runner) : Prop where
  profile : r'.profile = r.profile
  tasks : r.tasks ⊆ r'.tasks
  warmedUp : r.warmedUp = true → r'.warmedUp = true

namespace Runner.Continues

variable {r r' r'' : Runner}

/-- A runner may be what it is. -/
lemma refl (r : Runner) : r.Continues r := ⟨rfl, List.Subset.refl _, id⟩

/-- What has become of a runner may become another. -/
lemma trans (h' : r''.Continues r') (h : r'.Continues r) : r''.Continues r where
  profile := h'.profile.trans h.profile
  tasks := List.Subset.trans h.tasks h'.tasks
  warmedUp := h'.warmedUp ∘ h.warmedUp

end Runner.Continues

/-- What can be asked of a runner. -/
inductive Request where
  | add (f : Fixture)
  | addAll (fs : List Fixture)
  | warmup
  | run
deriving DecidableEq, Repr

namespace Request

section Histories

variable (p : Parser) (clock : Clock)

/-- The session after a request, also after one that fails. -/
def after : Request → Session → Session
  | .add f, s => (Bench.add f s).2
  | .addAll fs, s => (Bench.addAll fs s).2
  | .warmup, s => (Bench.warmup p s).2
  | .run, s => (Bench.run p clock s).2

/-- The invocations that a request makes. -/
def trace : Request → Session → List Invocation
  | .add _, _ => []
  | .addAll _, _ => []
  | .warmup, s => warmupTrace p s
  | .run, s => runTrace p clock s

/-- The session after several requests, one after the other. -/
def afterAll : List Request → Session → Session
  | [], s => s
  | r :: rest, s => afterAll rest (r.after p clock s)

/-- The invocations that several requests make. -/
def traceAll : List Request → Session → List Invocation
  | [], _ => []
  | r :: rest, s => r.trace p clock s ++ traceAll rest (r.after p clock s)

end Histories

variable {p : Parser} {clock : Clock} {s s' : Session} {r : Request} {history : List Request}

/-- What is left after several requests and then others. -/
lemma afterAll_append (earlier later : List Request) (s : Session) :
    afterAll p clock (earlier ++ later) s = afterAll p clock later (afterAll p clock earlier s) := by
  induction earlier generalizing s with
  | nil => rfl
  | cons r rest ih => rw [List.cons_append, afterAll, afterAll, ih]

/-- What is made on a history is made on its first part, and then on the rest. -/
lemma traceAll_append (earlier later : List Request) (s : Session) :
    traceAll p clock (earlier ++ later) s =
      traceAll p clock earlier s ++ traceAll p clock later (afterAll p clock earlier s) := by
  induction earlier generalizing s with
  | nil => rfl
  | cons r rest ih =>
    rw [List.cons_append, traceAll, traceAll, afterAll, ih, List.append_assoc]

/-- What a request does: the invocations it makes, and the session it leaves behind. -/
inductive Does (s : Session) : Request → List Invocation → Session → Prop
  | registered {r : Request} (hasked : r ≠ .warmup ∧ r ≠ .run) (added : List Task) : Does s r []
      { s with runner := { s.runner with tasks := s.runner.tasks ++ added } }
  /-- A warm-up is cut off, and with it the run that has begun with it. -/
  | cutOff {r : Request} {is : List Invocation} {s' : Session}
      (hasked : r = .warmup ∨ s.runner.warmedUp = false) (hrunner : s'.runner = s.runner)
      (his : ∀ i ∈ is, i.task ∈ s.runner.tasks ∧ i.recorded = false) : Does s r is s'
  /-- A warm-up comes to its end. If it is that of a run, the measurements follow. -/
  | warmed {r : Request} {is : List Invocation} {s' : Session}
      (hasked : r = .warmup ∨ s.runner.warmedUp = false)
      (hrunner : s'.runner = { s.runner with warmedUp := true })
      (his : ∀ i ∈ is, i.task ∈ s.runner.tasks ∧ i.recorded = true) :
      Does s r (wholeWarmup s.runner ++ is) s'
  | measured {is : List Invocation} {s' : Session} (hwarm : s.runner.warmedUp = true)
      (hrunner : s'.runner = s.runner)
      (his : ∀ i ∈ is, i.task ∈ s.runner.tasks ∧ i.recorded = true) : Does s .run is s'

/-- Registering a fixture adds at most one task at the end, and does nothing else. -/
lemma add_registers (f : Fixture) (s : Session) : ∃ added, (Bench.add f s).2 =
    { s with runner := { s.runner with tasks := s.runner.tasks ++ added } } := by
  rw [add_eq]
  split
  · exact ⟨[], by rw [List.append_nil]⟩
  · exact ⟨[.ofFixture f], rfl⟩

/-- Registration adds tasks at the end, and does nothing else. -/
lemma addAll_registers (fs : List Fixture) (s : Session) : ∃ added, (Bench.addAll fs s).2 =
    { s with runner := { s.runner with tasks := s.runner.tasks ++ added } } := by
  induction fs generalizing s with
  | nil => exact ⟨[], by rw [List.append_nil]; rfl⟩
  | cons f rest ih =>
    obtain ⟨first, hfirst⟩ := add_registers f s
    rw [Bench.addAll, bind_eq]
    cases hadd : Bench.add f s with
    | mk result s₁ =>
      rw [hadd] at hfirst
      subst hfirst
      cases result with
      | error e => exact ⟨first, rfl⟩
      | ok _ =>
        obtain ⟨added, hrest⟩ := ih _
        exact ⟨first ++ added, hrest.trans (by rw [List.append_assoc])⟩

/-- A warm-up does one of the things that a request does: it is cut off, or it comes to its end. -/
lemma warmup_does (p : Parser) (s : Session) (r : Request)
    (hasked : r = .warmup ∨ s.runner.warmedUp = false) :
    Does s r (warmupTrace p s) (Bench.warmup p s).2 := by
  cases hinvoke : invokeAll p s.runner.profile.warmupIterations s.runner.tasks s.journal with
  | mk result j =>
    cases result with
    | ok _ =>
      obtain ⟨record, hwarm⟩ := warmup_of_ok hinvoke
      rw [warmupTrace_of_ok hwarm, hwarm, ← List.append_nil (wholeWarmup _)]
      exact .warmed hasked rfl (by simp)
    | error e =>
      rw [warmup_of_error hinvoke]
      exact .cutOff hasked rfl fun i hi => mem_allTrace hi

/-- **What a request does**, whether or not it fails. -/
lemma does (p : Parser) (clock : Clock) (r : Request) (s : Session) :
    Does s r (r.trace p clock s) (r.after p clock s) := by
  cases r with
  | add f =>
    obtain ⟨added, hadd⟩ := add_registers f s
    rw [trace, after, hadd]
    exact .registered (by simp) added
  | addAll fs =>
    obtain ⟨added, hadd⟩ := addAll_registers fs s
    rw [trace, after, hadd]
    exact .registered (by simp) added
  | warmup => exact warmup_does p s .warmup (.inl rfl)
  | run =>
    rw [trace, after, run_eq, runTrace]
    cases hflag : s.runner.warmedUp with
    | true => exact .measured hflag (measured_runner p clock s) fun i hi => mem_measureAllTrace hi
    | false =>
      have hwarmup := warmup_does p s .run (.inr hflag)
      rw [if_neg Bool.false_ne_true, if_neg Bool.false_ne_true, bind_eq]
      cases hwarm : Bench.warmup p s with
      | mk result s₁ =>
        cases result with
        | error e =>
          rw [andThen_of_error hwarm, List.append_nil]
          rw [hwarm] at hwarmup
          exact hwarmup
        | ok _ =>
          -- the tasks that are measured are those of the runner after the warm-up
          have hrunner := (warmup_eq_ok hwarm).1
          rw [andThen_of_ok hwarm, warmupTrace_of_ok hwarm]
          refine .warmed (.inr hflag) ((measured_runner p clock s₁).trans hrunner) fun i hi => ?_
          have hmem := mem_measureAllTrace hi
          rw [hrunner] at hmem
          exact hmem

/-- **The invocations that are told are those that are made**, whether or not the request fails. -/
lemma makes (p : Parser) (clock : Clock) (r : Request) (s : Session) :
    ∃ outcome : Except RunAbort Unit,
      Makes (r.trace p clock s) s.journal outcome (r.after p clock s).journal := by
  cases r with
  | add f =>
    obtain ⟨added, hadd⟩ := add_registers f s
    refine ⟨.ok (), ?_⟩
    rw [trace, after, hadd]
    exact .ofExcept _ _
  | addAll fs =>
    obtain ⟨added, hadd⟩ := addAll_registers fs s
    refine ⟨.ok (), ?_⟩
    rw [trace, after, hadd]
    exact .ofExcept _ _
  | warmup => exact ⟨(Bench.warmup p s).1, warmup_makes p s⟩
  | run => exact ⟨_, (run_makes p clock s).map fun _ => ()⟩

/-- **The invocations that are told of a history are those that are made.** -/
lemma makesAll (p : Parser) (clock : Clock) (history : List Request) (s : Session) :
    MakesAll (traceAll p clock history s) s.journal (afterAll p clock history s).journal := by
  induction history generalizing s with
  | nil => exact .nil _
  | cons r rest ih =>
    obtain ⟨outcome, hmakes⟩ := makes p clock r s
    exact .cons outcome hmakes (ih _)

/-! ## Runners and their histories -/

namespace Does

variable {is : List Invocation}

/-- Whatever a request does, the runner only gets further. -/
lemma continues (h : Does s r is s') : s'.runner.Continues s.runner := by
  cases h with
  | registered _ added => exact ⟨rfl, List.subset_append_left _ _, id⟩
  | cutOff _ hrunner =>
    rw [hrunner]
    exact .refl _
  | warmed _ hrunner =>
    rw [hrunner]
    exact ⟨rfl, List.Subset.refl _, fun _ => rfl⟩
  | measured _ hrunner =>
    rw [hrunner]
    exact .refl _

/-- Whatever a request does, it invokes tasks of the runner only. -/
lemma mem_tasks {i : Invocation} (h : Does s r is s') (hi : i ∈ is) :
    i.task ∈ s.runner.tasks := by
  cases h with
  | registered _ added => cases hi
  | cutOff _ _ his => exact (his i hi).1
  | measured _ _ his => exact (his i hi).1
  | warmed _ _ his =>
    rcases List.mem_append.1 hi with hi | hi
    · obtain ⟨task, htask, hi⟩ := List.mem_flatMap.1 hi
      rw [List.eq_of_mem_replicate hi]
      exact htask
    · exact (his i hi).1

/-- As long as a runner has not warmed up, nothing is recorded. -/
lemma unrecorded (h : Does s r is s') (hcold : s'.runner.warmedUp = false) :
    ∀ i ∈ is, i.recorded = false := by
  cases h with
  | registered _ added => simp
  | cutOff _ _ his => exact fun i hi => (his i hi).2
  | warmed _ hrunner =>
    rw [hrunner] at hcold
    cases hcold
  | measured hwarm hrunner =>
    rw [hrunner, hwarm] at hcold
    cases hcold

/-- A runner that has not warmed up records nothing, or it warms up first. -/
lemma of_cold (h : Does s r is s') (hcold : s.runner.warmedUp = false) :
    (s'.runner.warmedUp = false ∧ ∀ i ∈ is, i.recorded = false) ∨
      ∃ rest, is = wholeWarmup s.runner ++ rest := by
  cases h with
  | registered _ added => exact .inl ⟨hcold, by simp⟩
  | cutOff _ hrunner his => exact .inl ⟨by rw [hrunner]; exact hcold, fun i hi => (his i hi).2⟩
  | @warmed _ rest => exact .inr ⟨rest, rfl⟩
  | measured hwarm =>
    rw [hcold] at hwarm
    cases hwarm

/-- A runner that has warmed up only records, unless it is asked to warm up again. -/
lemma recorded (h : Does s r is s') (hwarm : s.runner.warmedUp = true) (hr : r ≠ .warmup) :
    ∀ i ∈ is, i.recorded = true := by
  have hnever : ¬ (r = .warmup ∨ s.runner.warmedUp = false) := by
    simp [hr, hwarm]
  cases h with
  | registered _ added => simp
  | cutOff hasked => exact absurd hasked hnever
  | warmed hasked => exact absurd hasked hnever
  | measured _ _ his => exact fun i hi => (his i hi).2

end Does

/-- **Requests do not undo what was done** to a runner. -/
lemma afterAll_continues (p : Parser) (clock : Clock) (history : List Request) (s : Session) :
    (afterAll p clock history s).runner.Continues s.runner := by
  induction history generalizing s with
  | nil => exact .refl _
  | cons r rest ih => exact (ih _).trans (does p clock r s).continues

/-- Only registered tasks are invoked. -/
lemma mem_tasks_of_mem_traceAll {i : Invocation} (h : i ∈ traceAll p clock history s) :
    i.task ∈ (afterAll p clock history s).runner.tasks := by
  induction history generalizing s with
  | nil => cases h
  | cons r rest ih =>
    have hdoes := does p clock r s
    rcases List.mem_append.1 h with h | h
    · exact (afterAll_continues p clock (r :: rest) s).tasks (hdoes.mem_tasks h)
    · exact ih h

/-- Nothing has been recorded if there has been no warm-up. -/
lemma unrecorded_of_cold (h : (afterAll p clock history s).runner.warmedUp = false) :
    ∀ i ∈ traceAll p clock history s, i.recorded = false := by
  induction history generalizing s with
  | nil => simp [traceAll]
  | cons r rest ih =>
    -- a runner that warms up in the first request is still warmed up after the last one
    have hcold : (r.after p clock s).runner.warmedUp = false := by
      cases hflag : (r.after p clock s).runner.warmedUp with
      | false => rfl
      | true =>
        have hstays := (afterAll_continues p clock rest _).warmedUp hflag
        rw [afterAll, hstays] at h
        cases h
    intro i hi
    rcases List.mem_append.1 hi with hi | hi
    · exact (does p clock r s).unrecorded hcold i hi
    · exact ih h i hi

/-- Every invocation is recorded if the warm-up was earlier and none is asked for. -/
lemma recorded_of_warm (h : s.runner.warmedUp = true) (hno : Request.warmup ∉ history) :
    ∀ i ∈ traceAll p clock history s, i.recorded = true := by
  induction history generalizing s with
  | nil => simp [traceAll]
  | cons r rest ih =>
    obtain ⟨hr, hrest⟩ := List.ne_and_not_mem_of_not_mem_cons hno
    have hdoes := does p clock r s
    intro i hi
    rcases List.mem_append.1 hi with hi | hi
    · exact hdoes.recorded h hr.symm i hi
    · exact ih (hdoes.continues.warmedUp h) hrest i hi

end Request

/-! ## Warm-ups before a recording -/

/-- How often a task is invoked before it is first recorded. -/
def warmUps (task : Task) (is : List Invocation) : Nat :=
  (is.takeWhile fun i => i ≠ ⟨task, true⟩).count ⟨task, false⟩

section WarmUps

variable {p : Parser} {clock : Clock} {s s' : Session} {task : Task} {is is' : List Invocation}
  {history earlier later : List Request}

/-- Invocations before anything is recorded add to those that follow. -/
lemma warmUps_append (h : ⟨task, true⟩ ∉ is) :
    warmUps task (is ++ is') = is.count ⟨task, false⟩ + warmUps task is' := by
  have hall : ∀ i ∈ is, decide (i ≠ ⟨task, true⟩) = true := by
    intro i hi
    rw [decide_eq_true_eq]
    rintro rfl
    exact h hi
  rw [warmUps, List.takeWhile_append_of_pos hall, List.count_append, warmUps]

/-- A task that is never invoked without being recorded has no warm-ups. -/
lemma warmUps_eq_zero (h : ⟨task, false⟩ ∉ is) : warmUps task is = 0 := by
  rw [warmUps, List.count_eq_zero]
  intro hmem
  exact h (List.takeWhile_subset _ hmem)

/-- A warm-up of all tasks invokes each of them as often as the profile says. -/
lemma count_wholeWarmup {r : Runner} (h : task ∈ r.tasks) :
    r.profile.warmupIterations ≤ (wholeWarmup r).count ⟨task, false⟩ := by
  obtain ⟨before, after, hsplit⟩ := List.append_of_mem h
  rw [wholeWarmup, hsplit, List.flatMap_append, List.flatMap_cons, List.count_append,
    List.count_append, List.count_replicate_self]
  omega

/-- A warm-up of all tasks before anything of this task is recorded is enough. -/
lemma le_warmUps_wholeWarmup {r : Runner} (h : task ∈ r.tasks) (is : List Invocation) :
    r.profile.warmupIterations ≤ warmUps task (wholeWarmup r ++ is) := by
  have hnew : ⟨task, true⟩ ∉ wholeWarmup r := by
    intro hmem
    obtain ⟨other, -, hmem⟩ := List.mem_flatMap.1 hmem
    cases List.eq_of_mem_replicate hmem
  rw [warmUps_append hnew]
  exact Nat.le_add_right_of_le (count_wholeWarmup h)

/-- A task that is registered before the first warm-up has been warmed up when it is recorded.

**Proof sketch.** Induction on the requests. A request that leaves the runner without a warm-up
records nothing. The first one that does not begins with a warm-up of all tasks. -/
lemma le_warmUps_of_cold (hcold : s.runner.warmedUp = false) (htask : task ∈ s.runner.tasks)
    (hrecorded : ⟨task, true⟩ ∈ Request.traceAll p clock history s) :
    s.runner.profile.warmupIterations ≤ warmUps task (Request.traceAll p clock history s) := by
  induction history generalizing s with
  | nil => cases hrecorded
  | cons r rest ih =>
    have hdoes := r.does p clock s
    rw [Request.traceAll] at hrecorded ⊢
    rcases hdoes.of_cold hcold with ⟨hstill, hunrecorded⟩ | ⟨measured, hwarm⟩
    · have hnew : ⟨task, true⟩ ∉ r.trace p clock s := by
        intro hmem
        cases hunrecorded _ hmem
      have hlater := (List.mem_append.1 hrecorded).resolve_left hnew
      have hrest := ih hstill (hdoes.continues.tasks htask) hlater
      rw [hdoes.continues.profile] at hrest
      rw [warmUps_append hnew]
      exact Nat.le_add_left_of_le hrest
    · rw [hwarm, List.append_assoc]
      exact le_warmUps_wholeWarmup htask _

/-- There has been a warm-up for a task after these requests: the task is registered before the
first warm-up, or a warm-up is asked for and gets past the task before anything of it is recorded,
even if it is cut off after that. -/
inductive WarmedInTime (p : Parser) (clock : Clock) (s : Session) (task : Task) :
    List Request → Prop
  | early {earlier later : List Request}
      (htask : task ∈ (Request.afterAll p clock earlier s).runner.tasks)
      (hcold : (Request.afterAll p clock earlier s).runner.warmedUp = false) :
      WarmedInTime p clock s task (earlier ++ later)
  | asked {earlier later : List Request} {before after : List Task}
      (htasks : (Request.afterAll p clock earlier s).runner.tasks = before ++ task :: after)
      (hnew : ⟨task, true⟩ ∉ Request.traceAll p clock earlier s)
      (hwarm : (invokeAll p s.runner.profile.warmupIterations (before ++ [task])
        (Request.afterAll p clock earlier s).journal).1 = .ok ()) :
      WarmedInTime p clock s task (earlier ++ .warmup :: later)

/-- **Tasks that a warm-up came in time for are warmed up** before anything of them is recorded. -/
lemma WarmedInTime.le_warmUps (h : WarmedInTime p clock s task history) (hnext : history <+: later)
    (hrecorded : ⟨task, true⟩ ∈ Request.traceAll p clock later s) :
    s.runner.profile.warmupIterations ≤ warmUps task (Request.traceAll p clock later s) := by
  obtain ⟨last, rfl⟩ := hnext
  cases h with
  | @early earlier between htask hcold =>
    have hnew : ⟨task, true⟩ ∉ Request.traceAll p clock earlier s := by
      intro hmem
      cases Request.unrecorded_of_cold hcold _ hmem
    rw [List.append_assoc, Request.traceAll_append] at hrecorded ⊢
    have hrest := le_warmUps_of_cold hcold htask ((List.mem_append.1 hrecorded).resolve_left hnew)
    rw [(Request.afterAll_continues p clock earlier s).profile] at hrest
    rw [warmUps_append hnew]
    exact Nat.le_add_left_of_le hrest
  | @asked earlier between before after htasks hnew hwarm =>
    -- the warm-up that is asked for invokes the task, also if the runner was warmed up before
    have hcount : s.runner.profile.warmupIterations ≤
        (warmupTrace p (Request.afterAll p clock earlier s)).count ⟨task, false⟩ := by
      rw [warmupTrace, (Request.afterAll_continues p clock earlier s).profile, htasks]
      exact count_allTrace_of_ok hwarm
    have hunrecorded : ⟨task, true⟩ ∉ warmupTrace p (Request.afterAll p clock earlier s) := by
      intro hmem
      cases (mem_allTrace hmem).2
    rw [List.append_assoc, Request.traceAll_append, warmUps_append hnew, List.cons_append,
      Request.traceAll, Request.trace, warmUps_append hunrecorded]
    omega

/-- A run that returns leaves a runner that has warmed up and has the same tasks, and its results
are those of these tasks. -/
lemma runner_of_run {results : List TaskResult} (h : run p clock s = (.ok results, s')) :
    s'.runner = { s.runner with warmedUp := true } ∧
      results.map TaskResult.label = s.runner.tasks.map Task.label := by
  have hphases : ∃ s₁, s₁.runner = { s.runner with warmedUp := true } ∧
      measured p clock s₁ = (.ok results, s') := by
    rw [run_eq] at h
    cases hflag : s.runner.warmedUp with
    | true =>
      rw [hflag, if_pos rfl] at h
      exact ⟨s, by rw [← hflag], h⟩
    | false =>
      rw [hflag, if_neg Bool.false_ne_true] at h
      obtain ⟨_, s₁, hwarm, hmeasured⟩ := bind_ok_iff.1 h
      exact ⟨s₁, (warmup_eq_ok hwarm).1, hmeasured⟩
  obtain ⟨s₁, hrunner, hmeasured⟩ := hphases
  obtain ⟨j, hall, rfl⟩ := Running.ofAct_eq_ok_iff.1 hmeasured
  have hlabels := (measureAll_eq_ok hall).1
  rw [hrunner] at hlabels
  exact ⟨hrunner, hlabels⟩

/-- **Measured tasks and warm-ups.** Whatever is asked of a new runner, a run that then returns has
one result for each task that is registered by then, in order and with its label, and something of
each of these tasks has been recorded. The invocations that are told are those that the journal
shows from the first request to the end of the run. A task is invoked without recording as often as
the profile says before anything of it is recorded, if there has been a warm-up for it in time.

**Proof sketch.** What is told of each request is what it makes (`Request.makesAll`). A warm-up
before anything is recorded counts in full: the first one of a runner goes through all tasks that
are registered by then (`le_warmUps_of_cold`), and one that is asked for later counts for the tasks
that it gets past (`count_allTrace_of_ok`). -/
theorem run_warmed_up (profile : Profile) (p : Parser) (clock : Clock) (j : Journal)
    (history : List Request) {results : List TaskResult} {s' : Session}
    (h : run p clock (Request.afterAll p clock history ⟨.ofProfile profile, j⟩) =
      (.ok results, s')) :
    results.map TaskResult.label = s'.runner.tasks.map Task.label ∧
    MakesAll (Request.traceAll p clock (history ++ [.run]) ⟨.ofProfile profile, j⟩) j s'.journal ∧
    ∀ task ∈ s'.runner.tasks,
      ⟨task, true⟩ ∈ Request.traceAll p clock (history ++ [.run]) ⟨.ofProfile profile, j⟩ ∧
      (WarmedInTime p clock ⟨.ofProfile profile, j⟩ task history → profile.warmupIterations ≤
        warmUps task (Request.traceAll p clock (history ++ [.run]) ⟨.ofProfile profile, j⟩)) := by
  obtain ⟨hrunner, hlabels⟩ := runner_of_run h
  have hmakes := Request.makesAll p clock (history ++ [.run]) ⟨.ofProfile profile, j⟩
  have hafter : Request.afterAll p clock (history ++ [.run]) ⟨.ofProfile profile, j⟩ = s' := by
    rw [Request.afterAll_append, Request.afterAll, Request.afterAll, Request.after, h]
  rw [hafter] at hmakes
  rw [hrunner]
  refine ⟨hlabels, hmakes, fun task htask => ?_⟩
  have hrecorded :
      ⟨task, true⟩ ∈ Request.traceAll p clock (history ++ [.run]) ⟨.ofProfile profile, j⟩ := by
    rw [Request.traceAll_append]
    refine List.mem_append_right _ (List.mem_append_left _ ?_)
    exact mem_runTrace_of_ok h htask
  exact ⟨hrecorded, fun hwarm => hwarm.le_warmUps (List.prefix_append _ _) hrecorded⟩

/-- A new runner that warms up once and measures once. -/
def sampleStart : Session := ⟨.ofProfile ⟨"once", 1, 0, 1⟩, .empty⟩

/-- Two fixtures. Between their registrations there is a run, and after the second a warm-up. -/
def sampleHistory : List Request := [.add ⟨"a", "x"⟩, .run, .add ⟨"b", "y"⟩, .warmup]

/-- Of two fixtures one is registered early, and a warm-up is asked for after the other. -/
theorem run_warmed_up_two :
    ∃ results s', run sampleParser sampleClock
        (Request.afterAll sampleParser sampleClock sampleHistory sampleStart) = (.ok results, s') ∧
      results.map TaskResult.label = ["parser_py[a]", "parser_py[b]"] ∧
      ∀ task ∈ [Task.ofFixture ⟨"a", "x"⟩, .ofFixture ⟨"b", "y"⟩], 1 ≤ warmUps task
        (Request.traceAll sampleParser sampleClock (sampleHistory ++ [.run]) sampleStart) := by
  have hends : (run sampleParser sampleClock (Request.afterAll sampleParser sampleClock
      sampleHistory sampleStart)).1.toOption.isSome = true := by
    decide +kernel
  have htasks : (run sampleParser sampleClock (Request.afterAll sampleParser sampleClock
      sampleHistory sampleStart)).2.runner.tasks =
        [.ofFixture ⟨"a", "x"⟩, .ofFixture ⟨"b", "y"⟩] := by
    decide +kernel
  have hearly : WarmedInTime sampleParser sampleClock sampleStart (.ofFixture ⟨"a", "x"⟩)
      ([.add ⟨"a", "x"⟩] ++ [.run, .add ⟨"b", "y"⟩, .warmup]) :=
    .early (by decide +kernel) (by decide +kernel)
  have hasked : WarmedInTime sampleParser sampleClock sampleStart (.ofFixture ⟨"b", "y"⟩)
      ([.add ⟨"a", "x"⟩, .run, .add ⟨"b", "y"⟩] ++ .warmup :: []) := by
    have htasks : (Request.afterAll sampleParser sampleClock
        [.add ⟨"a", "x"⟩, .run, .add ⟨"b", "y"⟩] sampleStart).runner.tasks =
          [.ofFixture ⟨"a", "x"⟩] ++ .ofFixture ⟨"b", "y"⟩ :: [] := by
      decide +kernel
    have hwarm : (invokeAll sampleParser 1 ([.ofFixture ⟨"a", "x"⟩] ++ [.ofFixture ⟨"b", "y"⟩])
        (Request.afterAll sampleParser sampleClock [.add ⟨"a", "x"⟩, .run, .add ⟨"b", "y"⟩]
          sampleStart).journal).1.toOption = some () := by
      decide +kernel
    exact .asked htasks (by decide +kernel) (eq_ok_of_toOption hwarm)
  obtain ⟨results, hresults⟩ := Option.isSome_iff_exists.1 hends
  obtain ⟨hlabels, -, hwarmed⟩ := run_warmed_up ⟨"once", 1, 0, 1⟩ sampleParser sampleClock .empty
    sampleHistory (Prod.ext (eq_ok_of_toOption hresults) rfl)
  refine ⟨results, _, Prod.ext (eq_ok_of_toOption hresults) rfl, ?_, ?_⟩
  · rw [hlabels]
    exact congrArg (List.map Task.label) htasks
  · intro task htask
    refine (hwarmed task (htasks ▸ htask)).2 ?_
    rcases List.mem_pair.1 htask with rfl | rfl
    · exact hearly
    · exact hasked

/-- **A task that comes after a warm-up** is recorded without one, unless one is asked for. -/
lemma warmUps_of_late (hwarm : (Request.afterAll p clock earlier s).runner.warmedUp = true)
    (hnew : task ∉ (Request.afterAll p clock earlier s).runner.tasks)
    (hno : Request.warmup ∉ later) :
    warmUps task (Request.traceAll p clock (earlier ++ later) s) = 0 := by
  refine warmUps_eq_zero fun hmem => ?_
  rw [Request.traceAll_append] at hmem
  rcases List.mem_append.1 hmem with hmem | hmem
  · exact hnew (Request.mem_tasks_of_mem_traceAll hmem)
  · cases Request.recorded_of_warm hwarm hno _ hmem

/-- A clock that goes on by a tenth of a second with each reading. -/
def slowClock : Clock := ⟨20, fun n => 100000000 * n⟩

/-- A fixture is registered after the warm-up of an empty runner, and measured without one. -/
theorem run_without_warmup :
    ∃ results s', run sampleParser slowClock (Request.afterAll sampleParser slowClock
        [.warmup, .add ⟨"a", "x"⟩] ⟨.ofProfile quickProfile, .empty⟩) = (.ok results, s') ∧
      results.map TaskResult.label = ["parser_py[a]"] ∧
      ⟨.ofFixture ⟨"a", "x"⟩, true⟩ ∈ Request.traceAll sampleParser slowClock
        [.warmup, .add ⟨"a", "x"⟩, .run] ⟨.ofProfile quickProfile, .empty⟩ ∧
      warmUps (.ofFixture ⟨"a", "x"⟩) (Request.traceAll sampleParser slowClock
        [.warmup, .add ⟨"a", "x"⟩, .run] ⟨.ofProfile quickProfile, .empty⟩) <
          quickProfile.warmupIterations := by
  have hlabels : (run sampleParser slowClock (Request.afterAll sampleParser slowClock
      [.warmup, .add ⟨"a", "x"⟩] ⟨.ofProfile quickProfile, .empty⟩)).1.toOption.map
        (List.map TaskResult.label) = some ["parser_py[a]"] := by
    decide +kernel
  have hlate : warmUps (.ofFixture ⟨"a", "x"⟩) (Request.traceAll sampleParser slowClock
      ([.warmup] ++ [.add ⟨"a", "x"⟩, .run]) ⟨.ofProfile quickProfile, .empty⟩) = 0 :=
    warmUps_of_late (by decide +kernel) (by decide +kernel) (by decide)
  obtain ⟨results, hresults, hmap⟩ := Option.map_eq_some_iff.1 hlabels
  refine ⟨results, _, Prod.ext (eq_ok_of_toOption hresults) rfl, hmap, by decide +kernel, ?_⟩
  rw [List.cons_append, List.nil_append] at hlate
  rw [hlate]
  decide

end WarmUps

end ParseBench.Bench
