import ParseBench.Proofs.Bench.Runner
import ParseBench.Proofs.Decimal.Binary64
import Mathlib.Algebra.BigOperators.Group.Finset.Basic
import Mathlib.Algebra.Order.BigOperators.Group.Finset
import Mathlib.Order.Bounds.Basic

set_option relaxedAutoImplicit false
set_option autoImplicit false

/-!
# When a measurement stops

A measurement runs its task until it has run often enough and long enough, whatever the clock shows;
the clock may stand still or go back. So the number of runs is the least that is enough. A time
beyond the range of floating-point numbers ends the measurement early.

## Main definitions

* `ParseBench.Bench.elapsed`, `ParseBench.Bench.totalTime` — the time of a run and of the first
  runs.
* `ParseBench.Bench.EnoughAfter` — a number of runs is enough.
* `ParseBench.Bench.InRange` — a time is a finite number of microseconds.

## Main results

* `ParseBench.Bench.timed_of_le` — one measured run.
* `ParseBench.Bench.measureLoop_reaches` — the first runs of a measurement.
* `ParseBench.Bench.measure_stops` — where a measurement stops, and with which result.
-/

namespace ParseBench

/-! ## Readings of the clock -/

namespace Journal

/-- One event more may be one reading of the clock more. -/
lemma clockReads_add (j : Journal) (e : Event) :
    (j.add e).clockReads = j.clockReads + [e].count .clockRead := by
  unfold add
  split <;> simp_all

/-- The readings of the clock add up. -/
lemma clockReads_addAll (j : Journal) (es : List Event) :
    (j.addAll es).clockReads = j.clockReads + es.count .clockRead := by
  induction es generalizing j with
  | nil => rfl
  | cons e es ih =>
    rw [addAll_cons, ih, clockReads_add, Nat.add_assoc, ← List.count_append, List.singleton_append]

end Journal

namespace Bench

open Stateful

/-- The readings of the clock after work are those before and those of the work. -/
lemma Worked.clockReads {j j' : Journal} {work : List Event} (h : Worked j work j') :
    j'.clockReads = j.clockReads + work.count .clockRead := by
  obtain ⟨es, rfl, rfl⟩ := h
  rw [Journal.clockReads_addAll, List.count_filter rfl]

/-- A measurement reads the clock twice for each invocation. -/
lemma count_measurementOf (f : Fixture) (n : Nat) :
    (measurementOf f n).count .clockRead = 2 * n := by
  have hrun : [Event.clockRead, callOf f, .clockRead].count .clockRead = 2 := rfl
  rw [measurementOf, List.count_flatten, List.map_replicate, hrun, List.sum_replicate_nat,
    Nat.mul_comm]

/-- One invocation more comes at the end, between two readings of the clock. -/
lemma measurementOf_succ (f : Fixture) (n : Nat) :
    measurementOf f (n + 1) = measurementOf f n ++ [.clockRead, callOf f, .clockRead] := by
  simp [measurementOf, List.replicate_succ']

variable {p : Parser} {profile : Profile} {task : Task} {time : Nat → Int} {readings : Nat}
  {j j' : Journal}

/-- A clock that has readings left gives the next one. -/
lemma Clock.read_of_lt (clock : Clock) (h : j.clockReads < clock.readings) :
    clock.read j = (.ok (clock.time j.clockReads), j.add .clockRead) := by
  unfold Clock.read
  rw [get_bind_eq, if_pos h]
  rfl

/-- A clock that has no readings left stops. -/
lemma Clock.read_of_le (clock : Clock) (h : clock.readings ≤ j.clockReads) :
    clock.read j = (.error .stopped, j) := by
  unfold Clock.read
  rw [get_bind_eq, if_neg (Nat.not_lt.2 h)]
  rfl

/-! ## One run -/

/-- Every invocation of a task from a journal on succeeds. -/
def Succeeds (p : Parser) (task : Task) (j : Journal) : Prop :=
  ∀ es, (invoke p task (j.addAll es)).1 = .ok ()

/-- A task that succeeds still does so after work. -/
lemma Succeeds.worked {work : List Event} (h : Succeeds p task j) (hwork : Worked j work j') :
    Succeeds p task j' := by
  obtain ⟨es, rfl, -⟩ := hwork
  intro es'
  rw [← Journal.addAll_append]
  exact h (es ++ es')

/-- An invocation that succeeds is one call. -/
lemma Succeeds.invoke (h : Succeeds p task j) :
    ∃ j', Bench.invoke p task j = (.ok (), j') ∧ Worked j [callOf task.fixture] j' := by
  have hok := h []
  rw [Journal.addAll_nil] at hok
  cases hinvoke : Bench.invoke p task j with
  | mk r j' =>
    rw [hinvoke] at hok
    obtain rfl : r = .ok () := hok
    exact ⟨j', rfl, invoke_eq_ok hinvoke⟩

/-- **One measured run** takes the difference of two readings. -/
lemma timed_of_le (time : Nat → Int) (hsucceeds : Succeeds p task j)
    (hreadings : j.clockReads + 2 ≤ readings) :
    ∃ j', timed p ⟨readings, time⟩ task j =
        (.ok (time (j.clockReads + 1) - time j.clockReads), j') ∧
      Worked j [.clockRead, callOf task.fixture, .clockRead] j' := by
  have hstart := Clock.read_of_lt ⟨readings, time⟩ (j := j) (by simp only; omega)
  have hstarted := Worked.clockRead j
  obtain ⟨j₁, hinvoke, hcalled⟩ := (hsucceeds.worked hstarted).invoke
  have hreads : j₁.clockReads = j.clockReads + 1 := by
    rw [(hstarted.trans hcalled).clockReads]
    rfl
  have hstop := Clock.read_of_lt ⟨readings, time⟩ (j := j₁) (by simp only; omega)
  refine ⟨j₁.add .clockRead, ?_, (hstarted.trans hcalled).trans (.clockRead j₁)⟩
  rw [timed, bind_eq, Act.mapFailure_eq, hstart]
  dsimp only [Except.mapError]
  rw [bind_eq, Act.mapFailure_eq, hinvoke]
  dsimp only [Except.mapError]
  rw [bind_eq, Act.mapFailure_eq, hstop, hreads]
  rfl

/-- There is no run without two readings. -/
lemma timed_of_lt (time : Nat → Int) (hsucceeds : Succeeds p task j)
    (hreadings : readings < j.clockReads + 2) :
    (timed p ⟨readings, time⟩ task j).1 = .error .clockStopped := by
  rw [timed, bind_eq, Act.mapFailure_eq]
  by_cases hfirst : j.clockReads < readings
  · rw [Clock.read_of_lt ⟨readings, time⟩ hfirst]
    obtain ⟨j₁, hinvoke, hcalled⟩ := (hsucceeds.worked (.clockRead j)).invoke
    have hreads : j₁.clockReads = j.clockReads + 1 := by
      rw [((Worked.clockRead j).trans hcalled).clockReads]
      rfl
    dsimp only [Except.mapError]
    rw [bind_eq, Act.mapFailure_eq, hinvoke]
    dsimp only [Except.mapError]
    rw [bind_eq, Act.mapFailure_eq,
      Clock.read_of_le ⟨readings, time⟩ (j := j₁) (by simp only; omega)]
    rfl
  · rw [Clock.read_of_le ⟨readings, time⟩ (Nat.not_lt.1 hfirst)]
    rfl

/-! ## The runs one after the other -/

/-- The time of the `k`-th run, where `first` readings were made before the measurement. -/
def elapsed (time : Nat → Int) (first k : Nat) : Int :=
  time (first + 2 * k + 1) - time (first + 2 * k)

/-- The time of the first `n` runs. -/
def totalTime (time : Nat → Int) (first n : Nat) : Int :=
  ∑ k ∈ Finset.range n, elapsed time first k

/-- A number of runs is enough: there is one, there are as many as the profile asks for, and they
took as long as it asks for. -/
def EnoughAfter (profile : Profile) (time : Nat → Int) (first n : Nat) : Prop :=
  1 ≤ n ∧ profile.minIterations ≤ n ∧
    (profile.measuredDurationMs : Int) * 1000000 ≤ totalTime time first n

/-- A time in nanoseconds is a finite number of microseconds. -/
def InRange (ns : Int) : Prop := ns.natAbs < Decimal.overflow * 1000

instance (profile : Profile) (time : Nat → Int) (first n : Nat) :
    Decidable (EnoughAfter profile time first n) :=
  inferInstanceAs (Decidable (_ ∧ _ ∧ _))

instance (ns : Int) : Decidable (InRange ns) :=
  inferInstanceAs (Decidable (_ < _))

/-- The samples of the first `n` runs. -/
def samplesOf (time : Nat → Int) (first n : Nat) : List Float :=
  (List.range n).map fun k => Decimal.nearestInt (elapsed time first k) 1000

variable {first n : Nat}

/-- One invocation more adds the time that it takes. -/
lemma totalTime_succ (time : Nat → Int) (first n : Nat) :
    totalTime time first (n + 1) = totalTime time first n + elapsed time first n :=
  Finset.sum_range_succ _ n

/-- One invocation more adds its sample at the end. -/
lemma samplesOf_succ (time : Nat → Int) (first n : Nat) :
    samplesOf time first (n + 1) =
      samplesOf time first n ++ [Decimal.nearestInt (elapsed time first n) 1000] := by
  rw [samplesOf, List.range_succ, List.map_append]
  rfl

/-- There is a sample for each invocation. -/
lemma length_samplesOf (time : Nat → Int) (first n : Nat) :
    (samplesOf time first n).length = n := by
  rw [samplesOf, List.length_map, List.length_range]

/-- What the loop checks is whether there are enough invocations. -/
lemma enough_iff :
    enough profile (totalTime time first n) n = true ↔ EnoughAfter profile time first n := by
  simp [enough, EnoughAfter, Nat.one_le_iff_ne_zero, and_comm, and_left_comm]

/-- Nanoseconds in range have a number of microseconds. -/
lemma microseconds_of_inRange {ns : Int} (h : InRange ns) :
    microseconds ns = .ok (Decimal.nearestInt ns 1000) :=
  if_pos ((Decimal.isFinite_nearestInt_iff ns (by decide)).2 h)

/-- Nanoseconds out of range have none. -/
lemma microseconds_of_not_inRange {ns : Int} (h : ¬ InRange ns) :
    microseconds ns = .error .timeOverflow :=
  if_neg fun hfinite => h ((Decimal.isFinite_nearestInt_iff ns (by decide)).1 hfinite)

/-- Nothing has ended a measurement before its `n`-th run. -/
def GoesOn (profile : Profile) (time : Nat → Int) (first n : Nat) : Prop :=
  ∀ k < n, ¬ EnoughAfter profile time first k ∧ InRange (elapsed time first k)

/-- One round of the loop where the runs so far are not enough. -/
lemma measureLoop_step {fuel : Nat} {samples : List Float}
    (henough : ¬ EnoughAfter profile time first n) :
    measureLoop p ⟨readings, time⟩ profile task (fuel + 1) (totalTime time first n) samples n j =
      (timed p ⟨readings, time⟩ task >>= fun e => Act.ofExcept (microseconds e) >>= fun sample =>
        measureLoop p ⟨readings, time⟩ profile task fuel (totalTime time first n + e)
          (sample :: samples) (n + 1)) j := by
  rw [measureLoop, if_neg (enough_iff.not.2 henough)]

/-- **The first runs of a measurement** that nothing ends leave their times and samples. -/
lemma measureLoop_reaches (hsucceeds : Succeeds p task j)
    (hgoes : GoesOn profile time j.clockReads n)
    (hreadings : ∀ k < n, j.clockReads + 2 * k + 2 ≤ readings) (fuel : Nat) :
    ∃ j', Worked j (measurementOf task.fixture n) j' ∧
      measureLoop p ⟨readings, time⟩ profile task (fuel + n) 0 [] 0 j =
        measureLoop p ⟨readings, time⟩ profile task fuel (totalTime time j.clockReads n)
          (samplesOf time j.clockReads n).reverse n j' := by
  induction n generalizing fuel with
  | zero => exact ⟨j, .refl j, rfl⟩
  | succ n ih =>
    obtain ⟨j₁, hworked, hloop⟩ :=
      ih (fun k hk => hgoes k (by omega)) (fun k hk => hreadings k (by omega)) (fuel + 1)
    obtain ⟨henough, hrange⟩ := hgoes n (Nat.lt_succ_self n)
    have hlast := hreadings n (Nat.lt_succ_self n)
    have hreads : j₁.clockReads = j.clockReads + 2 * n := by
      rw [hworked.clockReads, count_measurementOf]
    rw [← hreads] at hlast
    obtain ⟨j₂, htimed, hrun⟩ := timed_of_le time (hsucceeds.worked hworked) hlast
    rw [hreads] at htimed
    refine ⟨j₂, ?_, ?_⟩
    · rw [measurementOf_succ]
      exact hworked.trans hrun
    · rw [show fuel + (n + 1) = fuel + 1 + n by omega, hloop, measureLoop_step henough, bind_eq,
        htimed]
      dsimp only
      rw [bind_eq, Act.ofExcept_eq, ← elapsed, microseconds_of_inRange hrange, totalTime_succ,
        samplesOf_succ, List.reverse_append]
      rfl

/-! ## The end of a measurement -/

/-- The result of `n` runs. -/
def resultOf (task : Task) (time : Nat → Int) (first n : Nat) : TaskResult :=
  ⟨task.label, Decimal.nearestInt (totalTime time first n) 1000 / n.toFloat, samplesOf time first n⟩

/-- What a measurement does after its loop. -/
def conclude (task : Task) (measured : Int × List Float) : Act RunAbort TaskResult := do
  let whole ← Act.ofExcept (microseconds measured.1)
  let period := whole / measured.2.length.toFloat
  Act.log .runner .info (task.label ++ ": " ++ Decimal.fixed 2 period ++ "us over " ++
    measured.2.length.repr ++ " run(s)")
  return ⟨task.label, period, measured.2⟩

/-- A measurement is its loop and then its conclusion. -/
lemma measure_eq (p : Parser) (clock : Clock) (profile : Profile) (task : Task) :
    measure p clock profile task =
      measureLoop p clock profile task (clock.readings + 1) 0 [] 0 >>= conclude task := rfl

/-- A total time in range leads to a result. -/
lemma conclude_of_inRange (task : Task) (hrange : InRange (totalTime time first n)) (j : Journal) :
    ∃ j', conclude task (totalTime time first n, samplesOf time first n) j =
        (.ok (resultOf task time first n), j') ∧ Worked j [] j' := by
  rw [conclude, bind_eq, Act.ofExcept_eq, microseconds_of_inRange hrange]
  dsimp only
  rw [length_samplesOf]
  exact ⟨_, rfl, .log j _⟩

/-- A total time out of range leads to a failure, and nothing else happens. -/
lemma conclude_of_not_inRange (hrange : ¬ InRange (totalTime time first n)) (j : Journal) :
    conclude task (totalTime time first n, samplesOf time first n) j =
      (.error .timeOverflow, j) := by
  rw [conclude, bind_eq, Act.ofExcept_eq, microseconds_of_not_inRange hrange]

/-- A measurement that goes on for some runs is these runs and then the rest of its loop. -/
lemma measure_reaches (hsucceeds : Succeeds p task j)
    (hgoes : GoesOn profile time j.clockReads n)
    (hreadings : ∀ k < n, j.clockReads + 2 * k + 2 ≤ readings) :
    ∃ j' fuel, Worked j (measurementOf task.fixture n) j' ∧
      measure p ⟨readings, time⟩ profile task j =
        (measureLoop p ⟨readings, time⟩ profile task (fuel + 1) (totalTime time j.clockReads n)
          (samplesOf time j.clockReads n).reverse n >>= conclude task) j' := by
  have hfuel : n ≤ readings := by
    rcases Nat.eq_zero_or_pos n with rfl | hpos
    · exact Nat.zero_le _
    · have hlast := hreadings (n - 1) (by omega)
      omega
  obtain ⟨j', hworked, hloop⟩ := measureLoop_reaches hsucceeds hgoes hreadings (readings - n + 1)
  rw [show readings - n + 1 + n = readings + 1 by omega] at hloop
  refine ⟨j', readings - n, hworked, ?_⟩
  rw [measure_eq, bind_eq, hloop, bind_eq]

/-- After enough runs the measurement comes to its conclusion. -/
lemma measure_of_enough (hsucceeds : Succeeds p task j)
    (hgoes : GoesOn profile time j.clockReads n) (henough : EnoughAfter profile time j.clockReads n)
    (hreadings : ∀ k < n, j.clockReads + 2 * k + 2 ≤ readings) :
    ∃ j', Worked j (measurementOf task.fixture n) j' ∧
      measure p ⟨readings, time⟩ profile task j =
        conclude task (totalTime time j.clockReads n, samplesOf time j.clockReads n) j' := by
  obtain ⟨j', fuel, hworked, hmeasure⟩ := measure_reaches hsucceeds hgoes hreadings
  refine ⟨j', hworked, ?_⟩
  rw [hmeasure, bind_eq, measureLoop, if_pos (enough_iff.2 henough), List.reverse_reverse, pure_eq]

/-- A run whose time is out of the range ends a measurement. -/
lemma measure_of_overflow (hsucceeds : Succeeds p task j)
    (hgoes : GoesOn profile time j.clockReads n)
    (henough : ¬ EnoughAfter profile time j.clockReads n)
    (hrange : ¬ InRange (elapsed time j.clockReads n))
    (hreadings : j.clockReads + 2 * n + 2 ≤ readings) :
    ∃ j', Worked j (measurementOf task.fixture (n + 1)) j' ∧
      measure p ⟨readings, time⟩ profile task j = (.error .timeOverflow, j') := by
  have hbefore : ∀ k < n, j.clockReads + 2 * k + 2 ≤ readings := fun k hk => by omega
  obtain ⟨j₁, fuel, hworked, hmeasure⟩ := measure_reaches hsucceeds hgoes hbefore
  have hreads : j₁.clockReads = j.clockReads + 2 * n := by
    rw [hworked.clockReads, count_measurementOf]
  rw [← hreads] at hreadings
  obtain ⟨j₂, htimed, hrun⟩ := timed_of_le time (hsucceeds.worked hworked) hreadings
  rw [hreads, ← elapsed] at htimed
  refine ⟨j₂, ?_, ?_⟩
  · rw [measurementOf_succ]
    exact hworked.trans hrun
  · rw [hmeasure, bind_eq, measureLoop_step henough, bind_eq, htimed]
    dsimp only
    rw [bind_eq, Act.ofExcept_eq, microseconds_of_not_inRange hrange]

/-- **A time out of the range ends a measurement** at the first run that takes such a time, unless
the runs before it are enough. -/
lemma measure_of_out (hsucceeds : Succeeds p task j) {k : Nat}
    (hnever : ∀ m ≤ k, ¬ EnoughAfter profile time j.clockReads m)
    (hrange : ¬ InRange (elapsed time j.clockReads k))
    (hreadings : j.clockReads + 2 * k + 2 ≤ readings) :
    (measure p ⟨readings, time⟩ profile task j).1 = .error .timeOverflow := by
  have hexists : ∃ m, ¬ InRange (elapsed time j.clockReads m) := ⟨k, hrange⟩
  have hle : Nat.find hexists ≤ k := Nat.find_min' hexists hrange
  have hgoes : GoesOn profile time j.clockReads (Nat.find hexists) := fun m hm =>
    ⟨hnever m (hm.le.trans hle), not_not.1 (Nat.find_min hexists hm)⟩
  have hfirst : j.clockReads + 2 * Nat.find hexists + 2 ≤ readings := by omega
  obtain ⟨j', -, hmeasure⟩ :=
    measure_of_overflow hsucceeds hgoes (hnever _ hle) (Nat.find_spec hexists) hfirst
  rw [hmeasure]

/-- A clock that stops ends a measurement. -/
lemma measure_of_stopped (hsucceeds : Succeeds p task j)
    (hgoes : GoesOn profile time j.clockReads n)
    (henough : ¬ EnoughAfter profile time j.clockReads n)
    (hreadings : ∀ k < n, j.clockReads + 2 * k + 2 ≤ readings)
    (hstopped : readings < j.clockReads + 2 * n + 2) :
    (measure p ⟨readings, time⟩ profile task j).1 = .error .clockStopped := by
  obtain ⟨j₁, fuel, hworked, hmeasure⟩ := measure_reaches hsucceeds hgoes hreadings
  have hreads : j₁.clockReads = j.clockReads + 2 * n := by
    rw [hworked.clockReads, count_measurementOf]
  rw [← hreads] at hstopped
  have htimed := timed_of_lt time (hsucceeds.worked hworked) hstopped
  rw [hmeasure, bind_eq, measureLoop_step henough, bind_eq]
  generalize timed p ⟨readings, time⟩ task j₁ = ended at htimed
  obtain ⟨r, j₂⟩ := ended
  cases htimed
  rfl

/-- A run at which something happens: the runs before are enough, or the clock stops, or the time of
the run is out of the range. -/
def Halts (profile : Profile) (time : Nat → Int) (first readings n : Nat) : Prop :=
  EnoughAfter profile time first n ∨ readings < first + 2 * n + 2 ∨ ¬ InRange (elapsed time first n)

instance (profile : Profile) (time : Nat → Int) (first readings n : Nat) :
    Decidable (Halts profile time first readings n) :=
  inferInstanceAs (Decidable (_ ∨ _ ∨ _))

/-- **The first run at which something happens.** -/
lemma exists_halt (profile : Profile) (time : Nat → Int) (first readings : Nat) :
    ∃ n, GoesOn profile time first n ∧ (∀ k < n, first + 2 * k + 2 ≤ readings) ∧
      (EnoughAfter profile time first n ∨
        ¬ EnoughAfter profile time first n ∧
          (readings < first + 2 * n + 2 ∨
            first + 2 * n + 2 ≤ readings ∧ ¬ InRange (elapsed time first n))) := by
  have hexists : ∃ n, Halts profile time first readings n := ⟨readings, .inr (.inl (by omega))⟩
  have hbefore : ∀ k < Nat.find hexists, ¬ Halts profile time first readings k :=
    fun k hk => Nat.find_min hexists hk
  refine ⟨Nat.find hexists, fun k hk => ?_, fun k hk => ?_, ?_⟩
  · have hnot := hbefore k hk
    exact ⟨fun h => hnot (.inl h), not_not.1 fun h => hnot (.inr (.inr h))⟩
  · exact Nat.not_lt.1 fun h => hbefore k hk (.inr (.inl h))
  · by_cases henough : EnoughAfter profile time first (Nat.find hexists)
    · exact .inl henough
    · refine .inr ⟨henough, ?_⟩
      rcases Nat.find_spec hexists with h | h | h
      · exact absurd h henough
      · exact .inl h
      · exact (Nat.lt_or_ge _ _).imp_right fun hle => ⟨hle, h⟩

/-- Before the least number that is enough, the loop goes on. -/
lemma goesOn_of_isLeast (hleast : IsLeast {n | EnoughAfter profile time first n} n)
    (hrange : ∀ k < n, InRange (elapsed time first k)) : GoesOn profile time first n :=
  fun k hk => ⟨fun henough => (hleast.2 henough).not_gt hk, hrange k hk⟩

/-- A clock that goes on by a unit at least with each run makes some number of runs enough. -/
lemma exists_isLeast_enough (profile : Profile)
    (hforward : ∀ k, 1 ≤ elapsed time first k) :
    ∃ n, IsLeast {n | EnoughAfter profile time first n} n ∧
      n ≤ max 1 (max profile.minIterations (profile.measuredDurationMs * 1000000)) := by
  have htotal : ∀ n : Nat, (n : Int) ≤ totalTime time first n := by
    intro n
    induction n with
    | zero => exact le_refl _
    | succ n ih =>
      have hrun := hforward n
      rw [totalTime_succ]
      omega
  have henough : EnoughAfter profile time first
      (max 1 (max profile.minIterations (profile.measuredDurationMs * 1000000))) := by
    have hbound := htotal (max 1 (max profile.minIterations (profile.measuredDurationMs * 1000000)))
    exact ⟨by omega, by omega, by omega⟩
  have hexists : ∃ n, EnoughAfter profile time first n := ⟨_, henough⟩
  exact ⟨Nat.find hexists, ⟨Nat.find_spec hexists, fun n hn => Nat.find_min' hexists hn⟩,
    Nat.find_min' hexists henough⟩

/-- **Where a measurement stops.** The clock may show anything. If there is a number of runs that is
enough, and the times of the runs up to the least one and their sum are in the range, the
measurement makes exactly these runs, each between two readings, and its result has their times and
the mean of their exact sum. If one of these times is out of the range, the measurement ends with an
overflow instead, and it does so as well if no number is enough and the time of some run is out of
the range. It returns in no other case; if no number is enough and all times are in the range, it
goes on as long as the clock. If each run takes some time, the number of runs is bounded by the
profile.

**Proof sketch.** Up to the least number that is enough the measurement goes on run by run
(`measure_reaches`), unless a time is out of the range on the way (`measure_of_out`); there only the
sum is left to be converted. In each case the result is known, and a result is one of success in the
first case alone. -/
theorem measure_stops (p : Parser) (profile : Profile) (task : Task) (time : Nat → Int)
    (j : Journal) (hsucceeds : Succeeds p task j) :
    (∀ n, IsLeast {n | EnoughAfter profile time j.clockReads n} n →
      (∀ k < n, InRange (elapsed time j.clockReads k)) →
      InRange (totalTime time j.clockReads n) →
      ∀ readings, j.clockReads + 2 * n ≤ readings →
        ∃ j', measure p ⟨readings, time⟩ profile task j =
            (.ok (resultOf task time j.clockReads n), j') ∧
          Worked j (measurementOf task.fixture n) j') ∧
    (∀ n, IsLeast {n | EnoughAfter profile time j.clockReads n} n →
      ¬ ((∀ k < n, InRange (elapsed time j.clockReads k)) ∧
        InRange (totalTime time j.clockReads n)) →
      ∀ readings, j.clockReads + 2 * n ≤ readings →
        (measure p ⟨readings, time⟩ profile task j).1 = .error .timeOverflow) ∧
    ((∀ n, ¬ EnoughAfter profile time j.clockReads n) →
      ∀ k, ¬ InRange (elapsed time j.clockReads k) →
      ∀ readings, j.clockReads + 2 * k + 2 ≤ readings →
        (measure p ⟨readings, time⟩ profile task j).1 = .error .timeOverflow) ∧
    ((∃ readings r j', measure p ⟨readings, time⟩ profile task j = (.ok r, j')) ↔
      ∃ n, IsLeast {n | EnoughAfter profile time j.clockReads n} n ∧
        (∀ k < n, InRange (elapsed time j.clockReads k)) ∧
        InRange (totalTime time j.clockReads n)) ∧
    ((∀ n, ¬ EnoughAfter profile time j.clockReads n) →
      (∀ k, InRange (elapsed time j.clockReads k)) →
      ∀ readings, (measure p ⟨readings, time⟩ profile task j).1 = .error .clockStopped) ∧
    ((∀ k, 1 ≤ elapsed time j.clockReads k) →
      ∃ n, IsLeast {n | EnoughAfter profile time j.clockReads n} n ∧
        n ≤ max 1 (max profile.minIterations (profile.measuredDurationMs * 1000000))) := by
  have hreturns : ∀ n, IsLeast {n | EnoughAfter profile time j.clockReads n} n →
      (∀ k < n, InRange (elapsed time j.clockReads k)) →
      InRange (totalTime time j.clockReads n) →
      ∀ readings, j.clockReads + 2 * n ≤ readings →
        ∃ j', measure p ⟨readings, time⟩ profile task j =
            (.ok (resultOf task time j.clockReads n), j') ∧
          Worked j (measurementOf task.fixture n) j' := by
    intro n hleast hrange htotal readings hreadings
    have hbefore : ∀ k < n, j.clockReads + 2 * k + 2 ≤ readings := fun k hk => by omega
    obtain ⟨j₁, hworked, hmeasure⟩ :=
      measure_of_enough hsucceeds (goesOn_of_isLeast hleast hrange) hleast.1 hbefore
    obtain ⟨j', hconclude, hlogged⟩ := conclude_of_inRange task htotal j₁
    refine ⟨j', hmeasure.trans hconclude, ?_⟩
    rw [← List.append_nil (measurementOf _ _)]
    exact hworked.trans hlogged
  refine ⟨hreturns, ?_, ?_, ⟨?_, ?_⟩, ?_, exists_isLeast_enough profile⟩
  · intro n hleast hout readings hreadings
    by_cases hrange : ∀ k < n, InRange (elapsed time j.clockReads k)
    · have htotal : ¬ InRange (totalTime time j.clockReads n) := fun h => hout ⟨hrange, h⟩
      have hbefore : ∀ k < n, j.clockReads + 2 * k + 2 ≤ readings := fun k hk => by omega
      obtain ⟨j₁, -, hmeasure⟩ :=
        measure_of_enough hsucceeds (goesOn_of_isLeast hleast hrange) hleast.1 hbefore
      rw [hmeasure, conclude_of_not_inRange htotal]
    · obtain ⟨k, hk, hlong⟩ : ∃ k, k < n ∧ ¬ InRange (elapsed time j.clockReads k) := by
        simpa using hrange
      have hnever : ∀ m ≤ k, ¬ EnoughAfter profile time j.clockReads m := fun m hm henough =>
        absurd (hleast.2 henough) (by omega)
      exact measure_of_out hsucceeds hnever hlong (by omega)
  · intro hnever k hout readings hreadings
    exact measure_of_out hsucceeds (fun m _ => hnever m) hout hreadings
  · rintro ⟨readings, r, j', hok⟩
    obtain ⟨n, hgoes, hreadings, henough | ⟨henough, hstopped | ⟨hle, hrange⟩⟩⟩ :=
      exists_halt profile time j.clockReads readings
    · have hleast : IsLeast {n | EnoughAfter profile time j.clockReads n} n :=
        ⟨henough, fun k hk => Nat.not_lt.1 fun hlt => (hgoes k hlt).1 hk⟩
      refine ⟨n, hleast, fun k hk => (hgoes k hk).2, not_not.1 fun htotal => ?_⟩
      obtain ⟨j₁, -, hmeasure⟩ := measure_of_enough hsucceeds hgoes henough hreadings
      rw [hmeasure, conclude_of_not_inRange htotal] at hok
      cases hok
    · have hmeasure := measure_of_stopped hsucceeds hgoes henough hreadings hstopped
      rw [hok] at hmeasure
      cases hmeasure
    · obtain ⟨j₁, -, hmeasure⟩ := measure_of_overflow hsucceeds hgoes henough hrange hle
      rw [hok] at hmeasure
      cases hmeasure
  · rintro ⟨n, hleast, hrange, htotal⟩
    obtain ⟨j', hmeasure, -⟩ := hreturns n hleast hrange htotal _ (Nat.le_refl _)
    exact ⟨_, _, _, hmeasure⟩
  · intro hnever hrange readings
    obtain ⟨n, hgoes, hreadings, henough | ⟨henough, hstopped | ⟨-, hout⟩⟩⟩ :=
      exists_halt profile time j.clockReads readings
    · exact absurd henough (hnever n)
    · exact measure_of_stopped hsucceeds hgoes henough hreadings hstopped
    · exact absurd (hrange n) hout

/-- The sample parser succeeds on every task. -/
lemma sampleParser_succeeds (task : Task) (j : Journal) : Succeeds sampleParser task j :=
  fun _ => rfl

/-- A clock that goes back in the first run: it takes a second run to have measured for no time at
all. -/
def backwardTime (k : Nat) : Int := [5, 3, 3, 1003].getD k 0

/-- Two runs where the first one takes less than no time. -/
theorem measure_stops_backward :
    ∃ j', measure sampleParser ⟨4, backwardTime⟩ ⟨"once", 0, 0, 1⟩ (.ofFixture ⟨"a", "x"⟩) .empty =
        (.ok (resultOf (.ofFixture ⟨"a", "x"⟩) backwardTime 0 2), j') ∧
      Worked .empty (measurementOf ⟨"a", "x"⟩ 2) j' := by
  have hleast : IsLeast {n | EnoughAfter ⟨"once", 0, 0, 1⟩ backwardTime 0 n} 2 := by
    refine ⟨by decide, fun n hn => Nat.not_lt.1 fun hlt => ?_⟩
    have hnot : ∀ n < 2, ¬ EnoughAfter ⟨"once", 0, 0, 1⟩ backwardTime 0 n := by decide
    exact hnot n hlt hn
  exact (measure_stops sampleParser ⟨"once", 0, 0, 1⟩ (.ofFixture ⟨"a", "x"⟩) backwardTime .empty
    (sampleParser_succeeds _ _)).1 2 hleast (by decide +kernel) (by decide +kernel) 4 (by decide)

/-- A clock that goes on by a time out of the range with each reading. -/
def hugeTime (k : Nat) : Int := (10 : Int) ^ 400 * k

/-- Ten runs would be enough, but the time of the first one is out of the range: the measurement
fails after it, however long the clock goes on. -/
theorem measure_out_of_range :
    Succeeds sampleParser (.ofFixture ⟨"a", "x"⟩) .empty ∧
      EnoughAfter quickProfile hugeTime 0 10 ∧
      ∀ readings, 2 ≤ readings →
        ∃ j', Worked .empty (measurementOf ⟨"a", "x"⟩ 1) j' ∧
          measure sampleParser ⟨readings, hugeTime⟩ quickProfile (.ofFixture ⟨"a", "x"⟩) .empty =
            (.error .timeOverflow, j') := by
  refine ⟨sampleParser_succeeds _ _, by decide +kernel, fun readings hreadings => ?_⟩
  have henough : ¬ EnoughAfter quickProfile hugeTime 0 0 := by decide
  have hrange : ¬ InRange (elapsed hugeTime 0 0) := by decide +kernel
  exact measure_of_overflow (n := 0) (sampleParser_succeeds (.ofFixture ⟨"a", "x"⟩) .empty)
    (fun k hk => absurd hk (Nat.not_lt_zero k)) henough hrange hreadings

end Bench

end ParseBench
