import ParseBench.Bench.Runner
import ParseBench.Proofs.Journal
import Mathlib.Data.List.Nodup

set_option relaxedAutoImplicit false
set_option autoImplicit false

/-!
# What a runner does

A task that succeeds is one call of the parser. A warm-up makes the same number of calls for each
task and does not look at the clock. A measurement of a task makes as many calls as the result has
samples, each between two readings of the clock.

## Main definitions

* `ParseBench.Bench.Worked` — the calls of the parser and the readings of the clock between two
  journals.
* `ParseBench.Bench.warmupOf`, `ParseBench.Bench.measurementOf` — the events of the two phases.
* `ParseBench.Bench.warmAndRun` — a run with a warm-up that is asked for before it, or not.

## Main results

* `ParseBench.Bench.addAll_of_nodup` — fixtures of different names can be registered.
* `ParseBench.Bench.warmup_eq_ok`, `ParseBench.Bench.measureAll_eq_ok` — the two phases, event by
  event.
* `ParseBench.Bench.run_trace` — the calls, the readings and the results of a run.
-/

namespace ParseBench

open Stateful

/-! ## One call -/

/-- The blocking entry point is called if it is a function; otherwise there is no outcome. -/
lemma Binding.call_blocking (b : Binding) (source : String) (j : Journal) :
    (∃ reply, b.call .blocking source j = (reply, j.add (.call ⟨.blocking, source⟩))) ∨
      ∃ reply, b.call .blocking source j = (reply, j) ∧ ∀ o, reply.outcome .blocking ≠ .ok o := by
  cases hentry : b.blocking with
  | absent =>
    refine .inr ⟨_, by rw [Binding.call, Binding.entry, hentry]; rfl, fun o h => ?_⟩
    cases h
  | constant v =>
    refine .inr ⟨_, by rw [Binding.call, Binding.entry, hentry]; rfl, fun o h => ?_⟩
    cases h
  | function reply => exact .inl ⟨_, by rw [Binding.call, Binding.entry, hentry]; rfl⟩
  | coroutine reply =>
    refine .inr ⟨_, by rw [Binding.call, Binding.entry, hentry]; rfl, fun o h => ?_⟩
    cases h

/-- A parse that succeeds is one call. -/
lemma Parser.parseTree_eq_ok {p : Parser} {source : String} {j j' : Journal} {tree : Json.Value}
    (h : p.parseTree source j = (.ok tree, j')) : j' = j.add (.call ⟨.blocking, source⟩) := by
  rw [Parser.parseTree] at h
  obtain ⟨o, j₁, hparse, htree⟩ := bind_ok_iff.1 h
  rw [Act.ofExcept_eq, Prod.mk.injEq] at htree
  rw [Parser.parse] at hparse
  obtain ⟨reply, j₂, hcall, hreply⟩ := bind_ok_iff.1 hparse
  rw [Act.ofExcept_eq, Prod.mk.injEq] at hreply
  obtain ⟨-, rfl⟩ := htree
  obtain ⟨houtcome, rfl⟩ := hreply
  rw [lift_eq] at hcall
  rcases p.binding.call_blocking source j with ⟨reply', hcall'⟩ | ⟨reply', hcall', hno⟩
  · rw [hcall'] at hcall
    cases hcall
    rfl
  · rw [hcall'] at hcall
    cases hcall
    exact absurd houtcome (hno o)

namespace Bench

/-! ## Registration -/

/-- Registering a fixture fails if its label is taken, and appends the task otherwise. -/
lemma add_eq (f : Fixture) (s : Session) :
    add f s =
      if s.runner.tasks.any fun t => t.label == (Task.ofFixture f).label then
        (.error (.alreadyRegistered (Task.ofFixture f).label), s)
      else (.ok (Task.ofFixture f),
        { s with runner := { s.runner with tasks := s.runner.tasks ++ [Task.ofFixture f] } }) := by
  rw [add]
  change (if _ then _ else _ : Running Task) s = _
  split <;> rfl

/-- The label of a task determines the text that it is made from. -/
lemma taskLabel_injective {x y : String} (h : taskLabel x = taskLabel y) : x = y := by
  have hlist := congrArg String.toList h
  simp only [taskLabel, String.toList_append] at hlist
  exact String.toList_inj.1 (List.append_cancel_left (List.append_cancel_right hlist))

/-- **Fixtures of different names can be registered**, after tasks of other labels. -/
lemma addAll_of_nodup {fixtures : List Fixture} {s : Session}
    (hnodup : (s.runner.tasks.map Task.label ++
      fixtures.map fun f => taskLabel f.identifier).Nodup) :
    addAll fixtures s = (.ok (), { s with runner :=
      { s.runner with tasks := s.runner.tasks ++ fixtures.map Task.ofFixture } }) := by
  induction fixtures generalizing s with
  | nil => simp [addAll, pure_eq]
  | cons f rest ih =>
    have hfree : (s.runner.tasks.any fun t => t.label == (Task.ofFixture f).label) = false := by
      rw [List.any_eq_false]
      intro t ht hlabel
      have hmem : (Task.ofFixture f).label ∈ s.runner.tasks.map Task.label :=
        List.mem_map.2 ⟨t, ht, beq_iff_eq.1 hlabel⟩
      exact (List.nodup_append.1 hnodup).2.2 _ hmem _ List.mem_cons_self rfl
    rw [addAll, bind_eq, add_eq, if_neg (by rw [hfree]; exact Bool.false_ne_true)]
    simp only
    rw [ih]
    · simp [List.append_assoc]
    · rw [List.map_append, List.append_assoc]
      exact hnodup

/-! ## Calls and readings of the clock -/

/-- Whether an event is a call of the parser or a reading of the clock. -/
def isWork : Event → Bool
  | .call _ => true
  | .clockRead => true
  | _ => false

/-- From one journal to another exactly these calls and readings of the clock are added, in this
order. Other events may be added between them. -/
def Worked (j : Journal) (work : List Event) (j' : Journal) : Prop :=
  ∃ es, j' = j.addAll es ∧ es.filter isWork = work

/-- The event of a call with the content of a fixture. -/
def callOf (f : Fixture) : Event := .call ⟨.blocking, f.content⟩

/-- A number of calls without measurement. -/
def warmupOf (n : Nat) (f : Fixture) : List Event := List.replicate n (callOf f)

/-- A number of measured calls, each between two readings of the clock. -/
def measurementOf (f : Fixture) (n : Nat) : List Event :=
  (List.replicate n [.clockRead, callOf f, .clockRead]).flatten

namespace Worked

variable {j j₁ j₂ : Journal} {w w' : List Event}

/-- No work leaves the journal as it is. -/
lemma refl (j : Journal) : Worked j [] j := ⟨[], rfl, rfl⟩

/-- Work after work is the work of both. -/
lemma trans (h : Worked j w j₁) (h' : Worked j₁ w' j₂) : Worked j (w ++ w') j₂ := by
  obtain ⟨es, rfl, rfl⟩ := h
  obtain ⟨es', rfl, rfl⟩ := h'
  exact ⟨es ++ es', (Journal.addAll_append j es es').symm, List.filter_append es es'⟩

/-- A call is the work of that call. -/
lemma call (j : Journal) (f : Fixture) : Worked j [callOf f] (j.add (callOf f)) :=
  ⟨[callOf f], rfl, rfl⟩

/-- A reading of the clock is the work of that reading. -/
lemma clockRead (j : Journal) : Worked j [.clockRead] (j.add .clockRead) :=
  ⟨[.clockRead], rfl, rfl⟩

/-- A log record is no work. -/
lemma log (j : Journal) (r : Log.Record) : Worked j [] (j.add (.log r)) :=
  ⟨[.log r], rfl, rfl⟩

end Worked

/-! ## Running tasks -/

variable {p : Parser} {clock : Clock} {profile : Profile} {task : Task} {tasks : List Task}
  {j j' : Journal}

/-- An invocation that succeeds calls the blocking entry point once, with the fixture of its
task. -/
lemma invoke_eq_ok (h : invoke p task j = (.ok (), j')) :
    Worked j [callOf task.fixture] j' := by
  rw [invoke, Act.mapFailure_eq_ok_iff] at h
  obtain ⟨tree, j₁, hparse, hend⟩ := bind_ok_iff.1 h
  cases hend
  rw [Parser.parseTree_eq_ok hparse]
  exact .call j task.fixture

/-- Invocations of one task that succeed call the blocking entry point as often as they are asked
for. -/
lemma invokeTimes_eq_ok {n : Nat} (h : invokeTimes p task n j = (.ok (), j')) :
    Worked j (warmupOf n task.fixture) j' := by
  induction n generalizing j with
  | zero =>
    cases h
    exact .refl _
  | succ n ih =>
    rw [invokeTimes] at h
    obtain ⟨_, j₁, hcall, hrest⟩ := bind_ok_iff.1 h
    exact (invoke_eq_ok hcall).trans (ih hrest)

/-- A round of all tasks makes the calls of one task after those of the other. -/
lemma invokeAll_eq_ok {n : Nat} (h : invokeAll p n tasks j = (.ok (), j')) :
    Worked j (tasks.flatMap fun task => warmupOf n task.fixture) j' := by
  induction tasks generalizing j with
  | nil =>
    cases h
    exact .refl _
  | cons task rest ih =>
    rw [invokeAll] at h
    obtain ⟨_, j₁, htask, hrest⟩ := bind_ok_iff.1 h
    exact (invokeTimes_eq_ok htask).trans (ih hrest)

/-! ## Warming up -/

/-- An act on the journal succeeds in a session as it does alone, and leaves the runner. -/
lemma Running.ofAct_eq_ok_iff {ε α : Type} {f : ε → RunAbort} {act : Act ε α} {a : α}
    {s s' : Session} :
    Running.ofAct f act s = (.ok a, s') ↔
      ∃ j, act s.journal = (.ok a, j) ∧ s' = { s with journal := j } := by
  rw [Running.ofAct]
  obtain ⟨r, j⟩ := act s.journal
  cases r with
  | ok a =>
    constructor
    · intro h
      cases h
      exact ⟨j, rfl, rfl⟩
    · rintro ⟨j', h, rfl⟩
      cases h
      rfl
  | error e =>
    constructor
    · intro h
      cases h
    · rintro ⟨j', h, -⟩
      cases h

/-- **A warm-up**: the same number of calls for each task, and no reading of the clock. -/
lemma warmup_eq_ok {s s' : Session} (h : warmup p s = (.ok (), s')) :
    s'.runner = { s.runner with warmedUp := true } ∧
      Worked s.journal (s.runner.tasks.flatMap fun task =>
        warmupOf s.runner.profile.warmupIterations task.fixture) s'.journal := by
  rw [warmup] at h
  obtain ⟨s₀, s₁, hget, h⟩ := bind_ok_iff.1 h
  cases hget
  obtain ⟨_, s₂, hcalls, h⟩ := bind_ok_iff.1 h
  obtain ⟨_, s₃, hset, hlog⟩ := bind_ok_iff.1 h
  cases hset
  obtain ⟨j₁, hinvoke, rfl⟩ := Running.ofAct_eq_ok_iff.1 hcalls
  obtain ⟨j₂, hnote, rfl⟩ := Running.ofAct_eq_ok_iff.1 hlog
  cases hnote
  refine ⟨rfl, ?_⟩
  rw [← List.append_nil (List.flatMap _ _)]
  exact (invokeAll_eq_ok hinvoke).trans (.log j₁ _)

/-! ## Measuring -/

/-- A reading of the clock that succeeds is one event. -/
lemma Clock.read_eq_ok {time : Int} (h : clock.read j = (.ok time, j')) :
    Worked j [.clockRead] j' := by
  rw [Clock.read] at h
  obtain ⟨j₀, j₁, hget, h⟩ := bind_ok_iff.1 h
  cases hget
  split at h
  · cases h
    exact .clockRead j
  · cases h

/-- A measured call lies between two readings of the clock. -/
lemma timed_eq_ok {elapsed : Int} (h : timed p clock task j = (.ok elapsed, j')) :
    Worked j [.clockRead, callOf task.fixture, .clockRead] j' := by
  rw [timed] at h
  obtain ⟨start, j₁, hstart, h⟩ := bind_ok_iff.1 h
  obtain ⟨_, j₂, hcall, h⟩ := bind_ok_iff.1 h
  obtain ⟨stop, j₃, hstop, hend⟩ := bind_ok_iff.1 h
  cases hend
  rw [Act.mapFailure_eq_ok_iff] at hstart hcall hstop
  exact (Clock.read_eq_ok hstart).trans ((invoke_eq_ok hcall).trans (Clock.read_eq_ok hstop))

/-- Each round of a measurement adds one sample. -/
lemma measureLoop_eq_ok {fuel runs : Nat} {total total' : Int} {samples samples' : List Float}
    (h : measureLoop p clock profile task fuel total samples runs j =
      (.ok (total', samples'), j')) :
    ∃ n, samples'.length = samples.length + n ∧ Worked j (measurementOf task.fixture n) j' := by
  induction fuel generalizing total samples runs j with
  | zero => cases h
  | succ fuel ih =>
    rw [measureLoop] at h
    split at h
    · cases h
      exact ⟨0, List.length_reverse, .refl _⟩
    · obtain ⟨elapsed, j₁, htimed, h⟩ := bind_ok_iff.1 h
      obtain ⟨sample, j₂, hsample, hrest⟩ := bind_ok_iff.1 h
      rw [Act.ofExcept_eq, Prod.mk.injEq] at hsample
      obtain ⟨-, rfl⟩ := hsample
      obtain ⟨n, hlength, hwork⟩ := ih hrest
      refine ⟨n + 1, ?_, (timed_eq_ok htimed).trans hwork⟩
      rw [hlength, List.length_cons]
      omega

/-- **A measurement** makes as many calls as its result has samples. -/
lemma measure_eq_ok {r : TaskResult} (h : measure p clock profile task j = (.ok r, j')) :
    r.label = task.label ∧ Worked j (measurementOf task.fixture r.runs) j' := by
  rw [measure] at h
  obtain ⟨⟨total, samples⟩, j₁, hloop, h⟩ := bind_ok_iff.1 h
  obtain ⟨whole, j₂, hwhole, h⟩ := bind_ok_iff.1 h
  rw [Act.ofExcept_eq, Prod.mk.injEq] at hwhole
  obtain ⟨-, rfl⟩ := hwhole
  obtain ⟨_, j₃, hlog, hend⟩ := bind_ok_iff.1 h
  cases hlog
  cases hend
  obtain ⟨n, hlength, hwork⟩ := measureLoop_eq_ok hloop
  rw [List.length_nil, Nat.zero_add] at hlength
  refine ⟨rfl, ?_⟩
  rw [TaskResult.runs, hlength, ← List.append_nil (measurementOf _ _)]
  exact hwork.trans (.log j₁ _)

/-- The measurements of tasks are made one after the other. -/
lemma measureAll_eq_ok {results : List TaskResult}
    (h : measureAll p clock profile tasks j = (.ok results, j')) :
    results.map TaskResult.label = tasks.map Task.label ∧
      Worked j (List.zipWith (fun task r => measurementOf task.fixture r.runs)
        tasks results).flatten j' := by
  induction tasks generalizing j results with
  | nil =>
    cases h
    exact ⟨rfl, .refl _⟩
  | cons task rest ih =>
    rw [measureAll] at h
    obtain ⟨r, j₁, hmeasure, h⟩ := bind_ok_iff.1 h
    obtain ⟨rs, j₂, hrest, hend⟩ := bind_ok_iff.1 h
    cases hend
    obtain ⟨hlabel, hwork⟩ := measure_eq_ok hmeasure
    obtain ⟨hlabels, hworks⟩ := ih hrest
    refine ⟨?_, hwork.trans hworks⟩
    rw [List.map_cons, List.map_cons, hlabel, hlabels]

/-! ## A whole run -/

/-- A run measures its tasks, after a warm-up if there has been none. -/
lemma run_eq_ok {s s' : Session} {results : List TaskResult}
    (h : run p clock s = (.ok results, s')) :
    ∃ s₁, (if s.runner.warmedUp then s₁ = s else warmup p s = (.ok (), s₁)) ∧
      measureAll p clock s₁.runner.profile s₁.runner.tasks s₁.journal =
        (.ok results, s'.journal) := by
  rw [run] at h
  obtain ⟨s₀, s₁, hget, h⟩ := bind_ok_iff.1 h
  cases hget
  cases hwarm : s.runner.warmedUp with
  | true =>
    rw [hwarm] at h
    obtain ⟨j, hmeasure, rfl⟩ := Running.ofAct_eq_ok_iff.1 h
    exact ⟨s, rfl, hmeasure⟩
  | false =>
    rw [hwarm] at h
    obtain ⟨_, s₁, hwarmup, h⟩ := bind_ok_iff.1 h
    obtain ⟨j, hmeasure, rfl⟩ := Running.ofAct_eq_ok_iff.1 h
    exact ⟨s₁, hwarmup, hmeasure⟩

/-- The work of a runner that has not warmed up: a warm-up, asked for or not, and a run. -/
def warmAndRun (p : Parser) (clock : Clock) (explicit : Bool) : Running (List TaskResult) := do
  if explicit then warmup p
  run p clock

/-- Whether the warm-up is asked for or not, there is one before the measurements. -/
lemma warmAndRun_eq_ok {explicit : Bool} {s s' : Session} {results : List TaskResult}
    (hcold : s.runner.warmedUp = false) (h : warmAndRun p clock explicit s = (.ok results, s')) :
    results.map TaskResult.label = s.runner.tasks.map Task.label ∧
      Worked s.journal ((s.runner.tasks.flatMap fun task =>
          warmupOf s.runner.profile.warmupIterations task.fixture) ++
        (List.zipWith (fun task r => measurementOf task.fixture r.runs)
          s.runner.tasks results).flatten) s'.journal := by
  have hphases : ∃ s₁, warmup p s = (.ok (), s₁) ∧
      measureAll p clock s₁.runner.profile s₁.runner.tasks s₁.journal =
        (.ok results, s'.journal) := by
    cases explicit with
    | false =>
      obtain ⟨s₁, hwarm, hmeasure⟩ := run_eq_ok h
      rw [hcold, if_neg Bool.false_ne_true] at hwarm
      exact ⟨s₁, hwarm, hmeasure⟩
    | true =>
      obtain ⟨_, s₁, hwarm, hrun⟩ := bind_ok_iff.1 h
      obtain ⟨s₂, hsame, hmeasure⟩ := run_eq_ok hrun
      rw [(warmup_eq_ok hwarm).1, if_pos rfl] at hsame
      exact ⟨s₁, hwarm, hsame ▸ hmeasure⟩
  obtain ⟨s₁, hwarm, hmeasure⟩ := hphases
  obtain ⟨hrunner, hwork⟩ := warmup_eq_ok hwarm
  obtain ⟨hlabels, hmeasured⟩ := measureAll_eq_ok hmeasure
  rw [hrunner] at hlabels hmeasured
  exact ⟨hlabels, hwork.trans hmeasured⟩

/-- **The trace of a run.** Fixtures of different names can be registered with a new runner. If the
run then returns, with a warm-up asked for before it or not, the calls of the parser and the
readings of the clock are exactly these: for each fixture in order the calls of the warm-up, and
then, for each fixture in order, as many measured calls as its result has samples, each between two
readings. There is one result per fixture, in order and with its label. -/
theorem run_trace (profile : Profile) (p : Parser) (clock : Clock) (explicit : Bool) (j : Journal)
    (fixtures : List Fixture) (hnodup : (fixtures.map Fixture.identifier).Nodup) :
    ∃ s, addAll fixtures ⟨.ofProfile profile, j⟩ = (.ok (), s) ∧ s.journal = j ∧
      ∀ results s', warmAndRun p clock explicit s = (.ok results, s') →
        results.map TaskResult.label = fixtures.map (fun f => taskLabel f.identifier) ∧
        Worked j (fixtures.flatMap (warmupOf profile.warmupIterations) ++
          (List.zipWith (fun f r => measurementOf f r.runs) fixtures results).flatten)
            s'.journal := by
  have hlabels : (fixtures.map fun f => taskLabel f.identifier).Nodup := by
    have hmap := List.Nodup.map (fun _ _ => taskLabel_injective) hnodup
    rwa [List.map_map] at hmap
  refine ⟨_, addAll_of_nodup hlabels, rfl, fun results s' h => ?_⟩
  obtain ⟨hresults, hwork⟩ := warmAndRun_eq_ok rfl h
  simp only [Runner.ofProfile, List.nil_append, List.map_map, List.flatMap_map,
    List.zipWith_map_left] at hresults hwork
  exact ⟨hresults, hwork⟩

/-- A parser that answers with a tree whenever it is called at once. -/
def sampleParser : Parser where
  binding := ⟨"m", .function fun _ _ => .value (.record [("root", .text "{}"),
    ("errors", .list []), ("comments", .list [])]), .constant .none⟩
  complete := by decide

/-- A clock that goes on by a microsecond with each reading. -/
def sampleClock : Clock := ⟨10, fun n => 1000 * n⟩

/-- Two fixtures, to be called once each and then measured once. -/
def sampleSession : Session :=
  ⟨⟨⟨"once", 1, 0, 1⟩, [.ofFixture ⟨"a", "x"⟩, .ofFixture ⟨"b", "y"⟩], false⟩, .empty⟩

/-- Two calls to warm up, and a measured one for each of the two fixtures. -/
theorem run_trace_two :
    ∃ results s', warmAndRun sampleParser sampleClock false sampleSession = (.ok results, s') ∧
      results.map TaskResult.label = ["parser_py[a]", "parser_py[b]"] ∧
      Worked .empty [.call ⟨.blocking, "x"⟩, .call ⟨.blocking, "y"⟩,
        .clockRead, .call ⟨.blocking, "x"⟩, .clockRead,
        .clockRead, .call ⟨.blocking, "y"⟩, .clockRead] s'.journal := by
  obtain ⟨s, hadd, -, htrace⟩ := run_trace ⟨"once", 1, 0, 1⟩ sampleParser sampleClock false .empty
    [⟨"a", "x"⟩, ⟨"b", "y"⟩] (by decide)
  have hregistered : addAll [⟨"a", "x"⟩, ⟨"b", "y"⟩] ⟨.ofProfile ⟨"once", 1, 0, 1⟩, .empty⟩ =
      (.ok (), sampleSession) := addAll_of_nodup (by decide)
  cases hregistered.symm.trans hadd
  have hruns : (warmAndRun sampleParser sampleClock false sampleSession).1.toOption.map
      (List.map TaskResult.runs) = some [1, 1] := by
    decide +kernel
  generalize warmAndRun sampleParser sampleClock false sampleSession = ended at hruns htrace
  obtain ⟨result, s'⟩ := ended
  cases result with
  | error abort => cases hruns
  | ok results =>
    obtain ⟨hlabels, hwork⟩ := htrace results s' rfl
    have hcounts := Option.some.inj hruns
    obtain ⟨r, rest, rfl, hr, hrest⟩ := List.map_eq_cons_iff.1 hcounts
    obtain ⟨r', rest', rfl, hr', hrest'⟩ := List.map_eq_cons_iff.1 hrest
    cases List.map_eq_nil_iff.1 hrest'
    refine ⟨[r, r'], s', rfl, hlabels, ?_⟩
    simp only [List.zipWith_cons_cons, hr, hr'] at hwork
    exact hwork

end Bench

end ParseBench
