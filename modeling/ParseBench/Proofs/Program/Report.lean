import ParseBench.Program.Run
import ParseBench.Proofs.Fixture.Reasons
import ParseBench.Proofs.Program.Bench

set_option relaxedAutoImplicit false
set_option autoImplicit false

/-!
# What the program reports

A benchmark whose fixtures cannot be resolved ends with the reason. If the resolution was made to
give it, the program reports it and ends with the status 1. The other reasons end the program.

## Main results

* `ParseBench.Program.attempt_bench` — how a benchmark ends that cannot resolve its fixtures.
* `ParseBench.Program.resolution_failures` — which failures of a resolution are reported.
-/

namespace ParseBench.Program

open ParseBench.CommandLine
open ParseBench.Files
open ParseBench.Text (Points)
open Stateful

/-! ## Failures of commands -/

section Report

variable {s : Surroundings} {r : Request} {a : Abort} {message : String}

/-- A failure is reported as a message on the console. -/
lemma reportFailure_of_some (h : a.failure? = some message) (command : Command) (v : Volume)
    (j : Journal) :
    ∃ j', reportFailure command a (quiet v j) = (.ok (.failed a), quiet v j') ∧
      .message (.error message) ∈ j'.events.toList := by
  rw [reportFailure, h]
  refine ⟨j.addAll [.log ⟨.program, .debug, command.name ++ " aborted"⟩, .message (.error message)],
    rfl, ?_⟩
  simp [Journal.addAll, Journal.add]

/-- Other reasons end the command. -/
lemma reportFailure_of_none (h : a.failure? = none) (command : Command) (st : State) :
    reportFailure command a st = (.ok (.aborted a), st) := by
  rw [reportFailure, h]
  rfl

variable {manifest cache : Option Path} {c : Bench.Config} {v : Volume} {j j₁ : Journal}
  {urls : List Points} {parser : Parser} {p : Fixture.Progress} {abort : Fixture.CacheAbort}

/-- A benchmark whose fixtures cannot be resolved ends with the reason. -/
lemma bench_of_resolve (hv : v.WellFormed)
    (hc : Bench.Config.ofEnvironment s.environment (cache.getD (defaultCache v)) = c)
    (hready : Ready s r.binding manifest c v j urls parser j₁)
    (hresolve : Fixture.resolveBy s.schedule c true s.network (.ofVolume v) urls = (p, .error abort)) :
    bench s r.binding manifest cache (quiet v j) =
      (.error (.cache abort), quiet p.volume (j₁.addAll p.events)) := by
  rw [bench_eq, hc]
  dsimp only
  rw [bind_eq, Doing.ofExcept_eq, hready.preflight]
  dsimp only [Except.mapError]
  rw [bind_eq, Doing.ofExcept_eq, hready.urls]
  dsimp only [Except.mapError]
  rw [bind_eq, Doing.ofAct_quiet, hready.parser]
  dsimp only [Except.mapError]
  rw [bind_eq, resolveFixtures_quiet hv hresolve]
  rfl

/-- **A benchmark that cannot resolve its fixtures** reports why, or it ends the program. -/
lemma attempt_bench (hv : v.WellFormed) (hcommand : r.command = .bench manifest cache)
    (hc : Bench.Config.ofEnvironment s.environment (cache.getD (defaultCache v)) = c)
    (hready : Ready s r.binding manifest c v j urls parser j₁)
    (hresolve : Fixture.resolveBy s.schedule c true s.network (.ofVolume v) urls = (p, .error abort)) :
    attempt s r (quiet v j) =
      reportFailure r.command (.cache abort) (quiet p.volume (j₁.addAll p.events)) := by
  have hcarry : carryOut s r.binding r.command (quiet v j) =
      (.error (.cache abort), quiet p.volume (j₁.addAll p.events)) := by
    rw [hcommand, carryOut, bind_eq, bench_of_resolve hv hc hready hresolve]
  rw [attempt, hcarry]

end Report

/-! ## Failures of resolutions -/

section Failures

variable {c : Bench.Config} {follow : Bool} {net : Http.Network} {v : Volume}
  {urls : List Points} {p : Fixture.Progress} {abort : Fixture.CacheAbort}

/-- What a resolution is made to give is a failure that is reported. -/
lemma failure?_of_expected (h : Fixture.Expected c follow net urls abort) :
    ∃ message, (Abort.cache abort).failure? = some message := by
  cases h with
  | undecodable => exact ⟨_, rfl⟩
  | unstorable => exact ⟨_, rfl⟩
  | fetch => exact ⟨_, rfl⟩

/-- A failure that nobody expects is not one that is reported. -/
lemma failure?_of_unexpected (h : Fixture.Unexpected c follow net urls abort) :
    (Abort.cache abort).failure? = none := by
  cases h with
  | client => rfl
  | path => rfl
  | surrogate => rfl
  | nameless => rfl

/-- A benchmark that comes to the resolution of these URLs; what was checked before has led to the
second journal. -/
inductive Resolves (s : Surroundings) (r : Request) (c : Bench.Config) (v : Volume)
    (j : Journal) (urls : List Points) (j₁ : Journal) : Prop where
  | intro {manifest cache : Option Path} {parser : Parser}
    (hcommand : r.command = .bench manifest cache)
    (hc : Bench.Config.ofEnvironment s.environment (cache.getD (defaultCache v)) = c)
    (hready : Ready s r.binding manifest c v j urls parser j₁)

/-- **Failures of a resolution.** A resolution of URLs that were accepted can fail in two ways,
along every schedule. It gives a failure to read or store the entry of one of the URLs or to fetch
it: then a benchmark reports it as an error and ends with the status 1. Or it lets through that a
fetch fails, but not as a failure of HTTP, that a path holds what no path can hold, or that an entry
has no name: then a benchmark ends without a status of its own. If it gives neither, it is not over
yet, because the schedule has come to its end; along the prompt schedule this is only so if an
answer is awaited that never comes. -/
theorem resolution_failures {named : List Fixture.Named} {schedule : Option (List Fixture.Turn)}
    (hv : v.WellFormed) (hcheck : Fixture.checkUrls urls = .ok named)
    (h : Fixture.resolveBy schedule c follow net (.ofVolume v) urls = (p, .error abort)) :
    (Fixture.Expected c follow net urls abort ∧
      ∃ message, (Abort.cache abort).failure? = some message ∧
        ∀ s r j j₁, follow = true → s.network = net → s.schedule = schedule →
          Resolves s r c v j urls j₁ →
            ∃ ending j', attempt s r (quiet v j) = (.ok ending, quiet p.volume j') ∧
              ending = .failed (.cache abort) ∧ ending.status? = some 1 ∧
              .message (.error message) ∈ j'.events.toList) ∨
    (Fixture.Unexpected c follow net urls abort ∧ (Abort.cache abort).failure? = none ∧
        ∀ s r j j₁, follow = true → s.network = net → s.schedule = schedule →
          Resolves s r c v j urls j₁ →
            ∃ ending j', attempt s r (quiet v j) = (.ok ending, quiet p.volume j') ∧
              ending = .aborted (.cache abort) ∧ ending.status? = none) ∨
    abort = .endless ∧
      (schedule = none → ∃ url ∈ urls, (Http.fetch follow net url).ending = none) := by
  obtain ⟨turns, halong⟩ := Fixture.resolveBy_along schedule c follow net (.ofVolume v) urls
  rcases Fixture.resolveAlong_failed hv hcheck (halong.symm.trans h) with
    hexpected | hunexpected | rfl
  · obtain ⟨message, hmessage⟩ := failure?_of_expected hexpected
    refine .inl ⟨hexpected, message, hmessage, ?_⟩
    rintro s r j j₁ rfl rfl rfl ⟨hcommand, hc, hready⟩
    obtain ⟨j', hreport, hmem⟩ := reportFailure_of_some hmessage r.command p.volume
      (j₁.addAll p.events)
    exact ⟨_, j', (attempt_bench hv hcommand hc hready h).trans hreport, rfl, rfl, hmem⟩
  · have hnone := failure?_of_unexpected hunexpected
    refine .inr (.inl ⟨hunexpected, hnone, ?_⟩)
    rintro s r j j₁ rfl rfl rfl ⟨hcommand, hc, hready⟩
    exact ⟨_, _, (attempt_bench hv hcommand hc hready h).trans (reportFailure_of_none hnone _ _),
      rfl, rfl⟩
  · refine .inr (.inr ⟨rfl, ?_⟩)
    rintro rfl
    exact Fixture.resolve_endless hcheck h

end Failures

/-- The benchmark of `b`. -/
def sampleRequest : Request := ⟨"plain", 0, none, "m", .bench (some ⟨"", ["b.yaml"]⟩) none⟩

/-- The sample request comes to the resolution of its URLs. -/
lemma resolves_sampleRequest : ∃ j₁,
    Resolves sampleSurroundings sampleRequest sampleConfig sampleVolume .empty
      [.ofString "http://h/b"] j₁ := by
  have hpreflight : Bench.preflight sampleConfig sampleVolume = .ok () :=
    eq_ok_of_toOption (by decide +kernel)
  have hload : (Binding.load sampleSurroundings.library "m" .empty).1 = .ok Bench.sampleParser :=
    rfl
  exact ⟨_, .intro rfl ofEnvironment_sample ⟨hpreflight, fixtureUrls_b, Prod.ext hload rfl⟩⟩

/-- The wording of the failure that ends a resolution, if it is reported. -/
def wording? (r : Except Fixture.CacheAbort (List Bench.Fixture)) : Option String :=
  match r with
  | .error abort => (Abort.cache abort).failure?
  | .ok _ => none

/-- On a network on which nothing is found, the benchmark of `b` says so and ends with the
status 1. -/
theorem resolution_failures_missing :
    ∃ p abort, Fixture.resolve sampleConfig true sampleSurroundings.network
        (.ofVolume sampleVolume) [.ofString "http://h/b"] = (p, .error abort) ∧
      Fixture.Expected sampleConfig true sampleSurroundings.network [.ofString "http://h/b"] abort ∧
      ∃ ending st message, attempt sampleSurroundings sampleRequest (quiet sampleVolume .empty) =
          (.ok ending, st) ∧
        ending.status? = some 1 ∧ .message (.error message) ∈ st.journal.events.toList := by
  have hcheck : Fixture.checkUrls [.ofString "http://h/b"] =
      .ok [⟨.ofString "http://h/b", .ofString "b"⟩] := by
    rfl
  have hworded : (wording? (Fixture.resolve sampleConfig true sampleSurroundings.network
      (.ofVolume sampleVolume) [.ofString "http://h/b"]).2).isSome = true := by
    decide +kernel
  generalize hrun : Fixture.resolve sampleConfig true sampleSurroundings.network
    (.ofVolume sampleVolume) [.ofString "http://h/b"] = run at hworded
  obtain ⟨p, r⟩ := run
  cases r with
  | ok fs => cases hworded
  | error abort =>
    obtain ⟨j₁, hresolves⟩ := resolves_sampleRequest
    have hprompt : Fixture.resolveBy none sampleConfig true sampleSurroundings.network
        (.ofVolume sampleVolume) [.ofString "http://h/b"] = (p, .error abort) := hrun
    rcases resolution_failures sampleVolume_wellFormed hcheck hprompt with
      ⟨hexpected, message, -, hreport⟩ | ⟨-, hnone, -⟩ | ⟨rfl, -⟩
    · obtain ⟨ending, j', hattempt, -, hstatus, hmem⟩ := hreport _ _ _ _ rfl rfl rfl hresolves
      exact ⟨p, abort, rfl, hexpected, ending, _, message, hattempt, hstatus, hmem⟩
    · simp [wording?, hnone] at hworded
    · cases hworded

/-- A URL whose name is the control character BEL. -/
def bellUrl : Points := .ofString "http://h/\x07"

/-- Why a URL cannot be requested, if a resolution ends with it. -/
def unrequestable? : Except Fixture.CacheAbort (List Bench.Fixture) → Option Url.TargetFault
  | .error (.foreign (.target fault)) => some fault
  | _ => none

/-- A result that says why a URL cannot be requested ends with that fault. -/
lemma eq_of_unrequestable? {r : Except Fixture.CacheAbort (List Bench.Fixture)}
    {fault : Url.TargetFault} (h : unrequestable? r = some fault) :
    r = .error (.foreign (.target fault)) := by
  rw [unrequestable?.eq_def] at h
  split at h
  · cases h
    rfl
  · cases h

/-- A URL with a control character is accepted, but it cannot be requested, and this is not
reported. -/
theorem resolution_failure_unreported :
    Fixture.checkUrls [bellUrl] = .ok [⟨bellUrl, .ofString "\x07"⟩] ∧
      ∃ p fault, Fixture.resolve sampleConfig true sampleSurroundings.network
          (.ofVolume sampleVolume) [bellUrl] = (p, .error (.foreign (.target fault))) ∧
        (Abort.cache (.foreign (.target fault))).failure? = none ∧
        fault.message =
          "Invalid non-printable ASCII character in URL, '\\x07' at position 9." := by
  have hfault : unrequestable? (Fixture.resolve sampleConfig true sampleSurroundings.network
      (.ofVolume sampleVolume) [bellUrl]).2 = some (.control none '\x07' 9) := by
    decide +kernel
  generalize Fixture.resolve sampleConfig true sampleSurroundings.network
    (.ofVolume sampleVolume) [bellUrl] = run at hfault ⊢
  obtain ⟨p, r⟩ := run
  obtain rfl := eq_of_unrequestable? hfault
  exact ⟨rfl, p, _, rfl, rfl, by decide⟩

end ParseBench.Program
