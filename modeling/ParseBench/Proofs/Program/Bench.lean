import ParseBench.Program.Commands
import ParseBench.Proofs.Bench.Artifact
import ParseBench.Proofs.Bench.Runner
import ParseBench.Proofs.Fixture.Reach

set_option relaxedAutoImplicit false
set_option autoImplicit false

/-!
# The course of a benchmark

A benchmark without a log file takes one of six courses, which are told once. What its failures
leave and what its results say is read off this account.

## Main definitions

* `ParseBench.Program.quiet` — a state without a log file.
* `ParseBench.Program.measurement` — fixtures are registered, warmed up and measured.
* `ParseBench.Program.Course` — the courses that a benchmark can take.
* `ParseBench.Program.Abort.isCut` — a write of the results that is cut off once the file is open.

## Main results

* `ParseBench.Program.bench_course` — a benchmark takes one of these courses.
* `ParseBench.Program.bench_failed` — a failure leaves the earlier results.
* `ParseBench.Program.bench_artifact` — the results file holds one record per URL, in order.
-/

namespace ParseBench.Program

open ParseBench.Files
open ParseBench.Text (Points)
open Stateful

/-! ## Computations without a log file -/

/-- A state without a log file. No command opens one itself. -/
def quiet (v : Volume) (j : Journal) : State := ⟨.ofVolume v, j⟩

namespace Doing

variable {ε α β : Type} {v : Volume} {j : Journal}

/-- A result that is there already leaves the state. -/
lemma ofExcept_eq (f : ε → Abort) (r : Except ε α) (st : State) :
    ofExcept f r st = (r.mapError f, st) := by
  cases r <;> rfl

/-- What is checked ends the computation, or it goes on in the same state. -/
lemma ofExcept_cases {f : ε → Abort} {x : Except ε α} {g : α → Doing β} {st st' : State}
    {r : Except Abort β} (h : (ofExcept f x >>= g) st = (r, st')) :
    (∃ e, x = .error e ∧ r = .error (f e) ∧ st' = st) ∨ ∃ a, x = .ok a ∧ g a st = (r, st') := by
  rw [bind_eq, ofExcept_eq] at h
  cases x with
  | error e =>
    cases h
    exact .inl ⟨e, rfl, rfl, rfl⟩
  | ok a => exact .inr ⟨a, rfl, h⟩

/-- An act on the journal leaves the volume. -/
lemma ofAct_quiet (f : ε → Abort) (act : Act ε α) :
    ofAct f act (quiet v j) = ((act j).1.mapError f, quiet v (act j).2) := by
  have hjournal : (quiet v j).journal = j := rfl
  rw [ofAct, hjournal]
  obtain ⟨r, j'⟩ := act j
  cases r <;> rfl

/-- What only writes the journal leaves the volume as it is. -/
lemma ofAct_cases {f : ε → Abort} {act : Act ε α} {g : α → Doing β} {st : State}
    {r : Except Abort β} (h : (ofAct f act >>= g) (quiet v j) = (r, st)) :
    (∃ e j', act j = (.error e, j') ∧ r = .error (f e) ∧ st = quiet v j') ∨
      ∃ a j', act j = (.ok a, j') ∧ g a (quiet v j') = (r, st) := by
  rw [bind_eq, ofAct_quiet] at h
  generalize act j = ended at h ⊢
  obtain ⟨_ | a, j'⟩ := ended
  · cases h
    exact .inl ⟨_, _, rfl, rfl, rfl⟩
  · exact .inr ⟨_, _, rfl, h⟩

/-- An act of the runner leaves the volume. -/
lemma ofRunning_quiet (runner : Bench.Runner) (work : Bench.Running α) :
    ofRunning runner work (quiet v j) =
      match work ⟨runner, j⟩ with
      | (.ok a, session) => (.ok (a, session.runner), quiet v session.journal)
      | (.error e, session) => (.error (.run e), quiet v session.journal) := rfl

/-- What a runner does leaves the volume as it is. -/
lemma ofRunning_cases {runner : Bench.Runner} {work : Bench.Running α}
    {g : α × Bench.Runner → Doing β} {st : State} {r : Except Abort β}
    (h : (ofRunning runner work >>= g) (quiet v j) = (r, st)) :
    (∃ e j', r = .error (.run e) ∧ st = quiet v j') ∨
      ∃ a session, work ⟨runner, j⟩ = (.ok a, session) ∧
        g (a, session.runner) (quiet v session.journal) = (r, st) := by
  rw [bind_eq, ofRunning_quiet] at h
  generalize work ⟨runner, j⟩ = ended at h ⊢
  obtain ⟨_ | a, session⟩ := ended
  · cases h
    exact .inl ⟨_, _, rfl, rfl⟩
  · exact .inr ⟨_, _, rfl, h⟩

/-- Taking changes applies them to the volume. -/
lemma take_quiet (changes : List Change) :
    take changes (quiet v j) = (.ok (), quiet (Change.applyAll v changes) j) := by
  have hdesk : (Log.Desk.ofVolume v).take changes = .ofVolume (Change.applyAll v changes) :=
    congrArg Fixture.Progress.desk (Fixture.Progress.quiet_take v [] changes [])
  change ((.ok (), ⟨(Log.Desk.ofVolume v).take changes, j⟩) : Except Abort Unit × State) = _
  rw [hdesk]
  rfl

/-- Reading the state hands it on and leaves it. -/
lemma get_bind (f : State → Doing α) :
    ((get : Doing State) >>= f) (quiet v j) = f (quiet v j) (quiet v j) := rfl

/-- A message is one event of the journal. -/
lemma say_bind (m : Console.Message) (f : Unit → Doing α) :
    (say m >>= f) (quiet v j) = f () (quiet v (j.add (.message m))) := rfl

/-- The progress of a resolution becomes the state: its volume is left, and its events are
recorded. -/
lemma ofProgress_quiet {p : Fixture.Progress} (h : p.desk = .ofVolume p.volume) :
    ofProgress p (quiet v j) = (.ok (), quiet p.volume (j.addAll p.events)) := by
  change ((.ok (), ⟨p.desk, j.addAll p.events⟩) : Except Abort Unit × State) = _
  rw [h]
  rfl

end Doing

/-! ## The course of a benchmark -/

/-- What can be checked before the first request was found in order. -/
structure Ready (s : Surroundings) (binding : String) (manifest : Option Path) (c : Bench.Config)
    (v : Volume) (j : Journal) (urls : List Points) (parser : Parser) (j' : Journal) : Prop where
  preflight : Bench.preflight c v = .ok ()
  urls : fixtureUrls v manifest = .ok urls
  parser : Binding.load s.library binding j = (.ok parser, j')

/-- Says something between the phases of a run. -/
def announce (m : Console.Message) : Bench.Running Unit :=
  modify fun st => { st with journal := st.journal.add (.message m) }

/-- The measurement of fixtures by a benchmark: they are registered, warmed up and measured. -/
def measurement (s : Surroundings) (c : Bench.Config) (parser : Parser)
    (fixtures : List Bench.Fixture) : Bench.Running (List Bench.TaskResult) := do
  Bench.addAll fixtures
  announce (.pairs [("Profile", c.profile.name), ("Fixtures", fixtures.length.repr),
    ("Cache", c.cache.text)] "Run")
  announce (.step "Warming up")
  Bench.warmup parser
  announce (.step "Running benchmarks")
  Bench.run parser s.clock

/-- Whether a command ended before the first request because of its manifest or its binding. -/
def Abort.isEarly : Abort → Bool
  | .manifest _ => true
  | .load _ => true
  | _ => false

/-- Whether a command ended because the results file, once it was open, did not take the whole
text. -/
def Abort.isCut : Abort → Bool
  | .artifact (.failure (.cannotWrite _ (.cut _))) => true
  | _ => false

/-- **The course of a benchmark** without a log file: how it ends, and the state it leaves. -/
inductive Course (s : Surroundings) (binding : String) (manifest : Option Path) (c : Bench.Config)
    (v : Volume) (j : Journal) : Except Abort Unit → State → Prop where
  | unprepared {a : Bench.ArtifactAbort} (h : Bench.preflight c v = .error a) :
    Course s binding manifest c v j (.error (.artifact a)) (quiet v j)
  | unlisted {a : Fixture.ManifestAbort} (hpreflight : Bench.preflight c v = .ok ())
    (h : fixtureUrls v manifest = .error a) :
    Course s binding manifest c v j (.error (.manifest a)) (quiet v j)
  | unloaded {a : Binding.LoadAbort} {j' : Journal} (hpreflight : Bench.preflight c v = .ok ())
    (h : Binding.load s.library binding j = (.error a, j')) :
    Course s binding manifest c v j (.error (.load a)) (quiet v j')
  | failed {urls : List Points} {parser : Parser} {j₁ j' : Journal} {p : Fixture.Progress}
    {r : Except Fixture.CacheAbort (List Bench.Fixture)} {abort : Abort}
    (hready : Ready s binding manifest c v j urls parser j₁)
    (hresolve : Fixture.resolveBy s.schedule c true s.network (.ofVolume v) urls = (p, r))
    (hlate : abort.isEarly = false) :
    Course s binding manifest c v j (.error abort) (quiet p.volume j')
  | unwritten {urls : List Points} {parser : Parser} {j₁ j' : Journal} {p : Fixture.Progress}
    {fixtures : List Bench.Fixture} {results : List Bench.TaskResult} {steps : List Change}
    {a : Bench.ArtifactAbort} (hready : Ready s binding manifest c v j urls parser j₁)
    (hresolve : Fixture.resolveBy s.schedule c true s.network (.ofVolume v) urls = (p, .ok fixtures))
    (hwrite : Bench.writeArtifact c p.volume results = (steps, .error a)) :
    Course s binding manifest c v j (.error (.artifact a))
      (quiet (Change.applyAll p.volume steps) j')
  | finished {urls : List Points} {parser : Parser} {j₁ j' : Journal} {p : Fixture.Progress}
    {fixtures : List Bench.Fixture} {results : List Bench.TaskResult} {steps : List Change}
    {written : Option Path} (hready : Ready s binding manifest c v j urls parser j₁)
    (hresolve : Fixture.resolveBy s.schedule c true s.network (.ofVolume v) urls = (p, .ok fixtures))
    (hmeasured : (measurement s c parser fixtures
      ⟨.ofProfile c.profile, j₁.addAll p.events⟩).1 = .ok results)
    (hwrite : Bench.writeArtifact c p.volume results = (steps, .ok written)) :
    Course s binding manifest c v j (.ok ()) (quiet (Change.applyAll p.volume steps) j')

section Course

variable {s : Surroundings} {binding : String} {manifest cache : Option Path} {c : Bench.Config}
  {v w : Volume} {j : Journal} {r : Except Abort Unit} {st : State}

/-- What is left of a benchmark once the fixtures are there. -/
def measureFixtures (s : Surroundings) (c : Bench.Config) (parser : Parser)
    (fixtures : List Bench.Fixture) : Doing Unit := do
  let (_, runner) ← Doing.ofRunning (.ofProfile c.profile) (Bench.addAll fixtures)
  Doing.say (.pairs [("Profile", c.profile.name), ("Fixtures", fixtures.length.repr),
    ("Cache", c.cache.text)] "Run")
  Doing.say (.step "Warming up")
  let (_, runner) ← Doing.ofRunning runner (Bench.warmup parser)
  Doing.say (.step "Running benchmarks")
  let (results, _) ← Doing.ofRunning runner (Bench.run parser s.clock)
  let rows ← Doing.ofExcept .margin (Bench.resultsTable results)
  Doing.say (.table Bench.tableHeaders rows "")
  match ← writeResults c results with
  | some path => Doing.say (.success ("Results written to " ++ path.text))
  | none => return ()

/-- The command as one row of steps, with the configuration of its environment. -/
lemma bench_eq (s : Surroundings) (binding : String) (manifest cache : Option Path) (v : Volume)
    (j : Journal) :
    bench s binding manifest cache (quiet v j) =
      (do
        let c := Bench.Config.ofEnvironment s.environment (cache.getD (defaultCache v))
        Doing.ofExcept .artifact (Bench.preflight c v)
        let urls ← Doing.ofExcept .manifest (fixtureUrls v manifest)
        let parser ← Doing.ofAct .load (Binding.load s.library binding)
        let fixtures ← resolveFixtures s c urls
        measureFixtures s c parser fixtures : Doing Unit) (quiet v j) := by
  have hvolume : (quiet v j).volume = v := rfl
  rw [bench, Doing.get_bind, hvolume]
  rfl

/-- Writing the results is the last thing that can fail. -/
lemma writeResults_quiet (c : Bench.Config) (results : List Bench.TaskResult) :
    writeResults c results (quiet w j) =
      match Bench.writeArtifact c w results with
      | (steps, .error a) => (.error (.artifact a), quiet (Change.applyAll w steps) j)
      | (steps, .ok path) => (.ok path,
        quiet (Change.applyAll w steps) (j.addAll [.log (Bench.artifactLog results path)])) := by
  have hvolume : (quiet w j).volume = w := rfl
  rw [writeResults, Doing.get_bind, hvolume]
  generalize Bench.writeArtifact c w results = ended
  obtain ⟨steps, a | path⟩ := ended
  · dsimp only
    rw [bind_eq, Doing.take_quiet]
    rfl
  · dsimp only
    rw [bind_eq, Doing.take_quiet]
    rfl

/-- A write of the results that fails before the file is open leaves everything as it was. -/
lemma steps_of_not_cut {results : List Bench.TaskResult} {steps : List Change}
    {a : Bench.ArtifactAbort} (hci : c.isCI = true)
    (h : Bench.writeArtifact c w results = (steps, .error a))
    (hcut : (Abort.artifact a).isCut = false) : steps = [] := by
  rcases Bench.writeArtifact_cases hci h with
    ⟨a', -, rfl, -⟩ | ⟨path, records, result, -, hwrite, hend⟩
  · rfl
  · rcases w.write_cases path (Text.Utf8.encode (Bench.artifactText records)) with
      ⟨fault, -, heq⟩ | ⟨l, -, ⟨-, heq⟩ | ⟨most, reason, -, -, heq⟩⟩
    · cases heq.symm.trans hwrite
      rfl
    · cases heq.symm.trans hwrite
      cases hend
    · cases heq.symm.trans hwrite
      cases hend
      cases hcut

/-- A measurement in its phases. -/
lemma measurement_eq_ok_iff {parser : Parser} {fixtures : List Bench.Fixture}
    {results : List Bench.TaskResult} {start last : Bench.Session} :
    measurement s c parser fixtures start = (.ok results, last) ↔
      ∃ s₁ s₂, Bench.addAll fixtures start = (.ok (), s₁) ∧
        Bench.warmup parser ⟨s₁.runner, (s₁.journal.add (.message (.pairs
          [("Profile", c.profile.name), ("Fixtures", fixtures.length.repr),
            ("Cache", c.cache.text)] "Run"))).add (.message (.step "Warming up"))⟩ = (.ok (), s₂) ∧
        Bench.run parser s.clock ⟨s₂.runner, s₂.journal.add (.message
          (.step "Running benchmarks"))⟩ = (.ok results, last) := by
  rw [measurement]
  constructor
  · intro h
    obtain ⟨_, s₁, hadd, h⟩ := bind_ok_iff.1 h
    obtain ⟨_, _, ⟨⟩, h⟩ := bind_ok_iff.1 h
    obtain ⟨_, _, ⟨⟩, h⟩ := bind_ok_iff.1 h
    obtain ⟨_, s₂, hwarmup, h⟩ := bind_ok_iff.1 h
    obtain ⟨_, _, ⟨⟩, hrun⟩ := bind_ok_iff.1 h
    exact ⟨s₁, s₂, hadd, hwarmup, hrun⟩
  · rintro ⟨s₁, s₂, hadd, hwarmup, hrun⟩
    refine bind_ok_iff.2 ⟨_, s₁, hadd, bind_ok_iff.2 ⟨_, _, rfl, bind_ok_iff.2 ⟨_, _, rfl, ?_⟩⟩⟩
    exact bind_ok_iff.2 ⟨_, s₂, hwarmup, bind_ok_iff.2 ⟨_, _, rfl, hrun⟩⟩

/-- After the resolution a benchmark fails without touching the volume, or it comes to write its
results. -/
lemma measureFixtures_course {parser : Parser} {fixtures : List Bench.Fixture}
    (h : measureFixtures s c parser fixtures (quiet w j) = (r, st)) :
    (∃ abort j', r = .error abort ∧ abort.isEarly = false ∧ st = quiet w j') ∨
    ∃ results steps j', st = quiet (Change.applyAll w steps) j' ∧
      ((∃ a, r = .error (.artifact a) ∧ Bench.writeArtifact c w results = (steps, .error a)) ∨
        ∃ written, r = .ok () ∧
          (measurement s c parser fixtures ⟨.ofProfile c.profile, j⟩).1 = .ok results ∧
          Bench.writeArtifact c w results = (steps, .ok written)) := by
  rw [measureFixtures] at h
  rcases Doing.ofRunning_cases h with ⟨e, j', rfl, rfl⟩ | ⟨_, s₁, hadd, h⟩
  · exact .inl ⟨_, j', rfl, rfl, rfl⟩
  dsimp only at h
  rw [Doing.say_bind, Doing.say_bind] at h
  rcases Doing.ofRunning_cases h with ⟨e, j', rfl, rfl⟩ | ⟨_, s₂, hwarmup, h⟩
  · exact .inl ⟨_, j', rfl, rfl, rfl⟩
  dsimp only at h
  rw [Doing.say_bind] at h
  rcases Doing.ofRunning_cases h with ⟨e, j', rfl, rfl⟩ | ⟨results, s₃, hrun, h⟩
  · exact .inl ⟨_, j', rfl, rfl, rfl⟩
  have hmeasured : (measurement s c parser fixtures ⟨.ofProfile c.profile, j⟩).1 = .ok results := by
    rw [measurement_eq_ok_iff.2 ⟨s₁, s₂, hadd, hwarmup, hrun⟩]
  rcases Doing.ofExcept_cases h with ⟨a, -, rfl, rfl⟩ | ⟨rows, -, h⟩
  · exact .inl ⟨_, _, rfl, rfl, rfl⟩
  rw [Doing.say_bind, bind_eq, writeResults_quiet] at h
  generalize hwrite : Bench.writeArtifact c w results = ended at h
  obtain ⟨steps, a | written⟩ := ended
  · cases h
    exact .inr ⟨results, steps, _, rfl, .inl ⟨a, rfl, hwrite⟩⟩
  · cases written with
    | none =>
      cases h
      exact .inr ⟨results, steps, _, rfl, .inr ⟨none, rfl, hmeasured, hwrite⟩⟩
    | some path =>
      cases h
      exact .inr ⟨results, steps, _, rfl, .inr ⟨some path, rfl, hmeasured, hwrite⟩⟩

/-- The resolution of the fixtures in a benchmark. -/
lemma resolveFixtures_quiet (hv : v.WellFormed) {urls : List Points} {p : Fixture.Progress}
    {result : Except Fixture.CacheAbort (List Bench.Fixture)}
    (h : Fixture.resolveBy s.schedule c true s.network (.ofVolume v) urls = (p, result)) :
    resolveFixtures s c urls (quiet v j) =
      (result.mapError .cache, quiet p.volume (j.addAll p.events)) := by
  have hstart : (quiet v j).desk = .ofVolume v := rfl
  obtain ⟨turns, halong⟩ := Fixture.resolveBy_along s.schedule c true s.network (.ofVolume v) urls
  have hdesk := (Fixture.resolveAlong_frame hv (halong.symm.trans h)).1
  rw [resolveFixtures, Doing.get_bind, hstart, h]
  dsimp only
  rw [bind_eq, Doing.ofProgress_quiet hdesk]
  dsimp only
  rw [Doing.ofExcept_eq]

/-- **A benchmark takes its course.** -/
lemma bench_course (hv : v.WellFormed) (h : bench s binding manifest cache (quiet v j) = (r, st)) :
    Course s binding manifest
      (Bench.Config.ofEnvironment s.environment (cache.getD (defaultCache v))) v j r st := by
  rw [bench_eq] at h
  generalize Bench.Config.ofEnvironment s.environment (cache.getD (defaultCache v)) = c at h ⊢
  rcases Doing.ofExcept_cases h with ⟨a, hpreflight, rfl, rfl⟩ | ⟨_, hpreflight, h⟩
  · exact .unprepared hpreflight
  rcases Doing.ofExcept_cases h with ⟨a, hurls, rfl, rfl⟩ | ⟨urls, hurls, h⟩
  · exact .unlisted hpreflight hurls
  rcases Doing.ofAct_cases h with ⟨a, j', hload, rfl, rfl⟩ | ⟨parser, j₁, hload, h⟩
  · exact .unloaded hpreflight hload
  have hready : Ready s binding manifest c v j urls parser j₁ := ⟨hpreflight, hurls, hload⟩
  generalize hresolve : Fixture.resolveBy s.schedule c true s.network (.ofVolume v) urls = ended
  obtain ⟨p, result⟩ := ended
  rw [bind_eq, resolveFixtures_quiet hv hresolve] at h
  cases result with
  | error a =>
    cases h
    exact .failed hready hresolve rfl
  | ok fixtures =>
    rcases measureFixtures_course h with ⟨abort, j', rfl, hlate, rfl⟩ |
      ⟨results, steps, j', rfl, ⟨a, rfl, hwrite⟩ | ⟨written, rfl, hmeasured, hwrite⟩⟩
    · exact .failed hready hresolve hlate
    · exact .unwritten hready hresolve hwrite
    · exact .finished hready hresolve hmeasured hwrite

end Course

/-! ## A small benchmark -/

/-- A build server with one parser and a network on which nothing is found. -/
def sampleSurroundings : Surroundings where
  environment := [("CI", "1"), ("DATA_DIR", "d")]
  library := [("m", Bench.sampleParser.binding)]
  network := fun _ => ⟨.after 0, .ok ⟨404, [], none, none⟩⟩
  clock := ⟨100000, fun n => 50000000 * n⟩
  terminal := false
  platform := "sample"

/-- A volume with earlier results, a cache that holds `a`, and two manifests. -/
def sampleVolume : Volume :=
  Change.applyAll .empty [.makeDirectory ["d"], .write ["d", "results.json"] [91, 93],
    .makeDirectory ["target"], .write ["target", "a"] [120],
    .write ["a.yaml"] (Text.Utf8.encode "urls: [http://h/a]"),
    .write ["b.yaml"] (Text.Utf8.encode "urls: [http://h/b]")]

/-- The sample volume is well formed. -/
lemma sampleVolume_wellFormed : sampleVolume.WellFormed := by
  refine Change.LegalAll.wellFormed Volume.wellFormed_empty ?_
  exact ⟨⟨by decide, by decide⟩, ⟨by decide, by decide⟩, ⟨by decide, by decide⟩,
    ⟨by decide, by decide⟩, ⟨by decide, by decide⟩, ⟨by decide, by decide⟩, trivial⟩

/-- The configuration of the build server. -/
def sampleConfig : Bench.Config := ⟨true, false, ⟨"/", ["target"]⟩, some ⟨"", ["d"]⟩⟩

/-- The configuration of the sample surroundings. -/
lemma ofEnvironment_sample : Bench.Config.ofEnvironment sampleSurroundings.environment
    ((none : Option Path).getD (defaultCache sampleVolume)) = sampleConfig := by
  decide +kernel

/-! ## Failures -/

section Failure

variable {s : Surroundings} {binding : String} {manifest cache : Option Path} {c : Bench.Config}
  {v : Volume} {j : Journal}

/-- Loading a binding only logs. -/
lemma load_events {library : Binding.Library} {name : String} {r : Except Binding.LoadAbort Parser}
    {j' : Journal} (h : Binding.load library name j = (r, j')) :
    ∃ es, j' = j.addAll es ∧ ∀ e ∈ es, ∃ record, e = .log record := by
  rw [Binding.load] at h
  split at h
  · cases h
    exact ⟨[], rfl, by simp⟩
  · split at h
    · cases h
      exact ⟨[], rfl, by simp⟩
    · cases hfound : library.lookup name with
      | none =>
        rw [hfound] at h
        cases h
        exact ⟨[], rfl, by simp⟩
      | some b =>
        rw [hfound] at h
        dsimp only at h
        rw [bind_eq, Act.log_eq] at h
        dsimp only at h
        rw [Act.ofExcept_eq] at h
        cases h
        exact ⟨[.log ⟨.parser, .debug, "Loaded parser binding " ++ name⟩], rfl, by simp⟩

/-- **What a benchmark leaves that fails** on a build server. The results file is as it was, unless
its path leads to a place of the cache or the file was opened and did not take the whole text. If
what can be checked before the first request is not in order, nothing at all is changed, requested
or called.

**Proof sketch.** By cases on the course of the benchmark (`bench_course`). Up to the resolution
nothing is changed but by it, and it keeps to the places of the cache; after it only the results
file is written, at the very end. -/
theorem bench_failed {abort : Abort} {st : State} (hv : v.WellFormed)
    (hc : Bench.Config.ofEnvironment s.environment (cache.getD (defaultCache v)) = c)
    (hci : Bench.isSet s.environment "CI" = true)
    (h : bench s binding manifest cache (quiet v j) = (.error abort, st)) :
    (abort.isCut = false → ∀ dir, c.dataDirectory = some dir →
      (∀ urls, fixtureUrls v manifest = .ok urls →
        ¬ Fixture.CachePlace v c urls (v.spot (Bench.artifactFile dir))) →
      st.volume.lookup (Bench.artifactFile dir) = v.lookup (Bench.artifactFile dir)) ∧
    ((∃ a, Bench.preflight c v = .error a) ∨ abort.isEarly = true →
      st.volume = v ∧ ∃ es, st.journal = j.addAll es ∧ ∀ e ∈ es, ∃ record, e = .log record) := by
  have hci' : c.isCI = true := by rw [← hc]; exact hci
  have hcourse := bench_course hv h
  rw [hc] at hcourse
  have hnothing : ∃ es, j = j.addAll es ∧ ∀ e ∈ es, ∃ record, e = Event.log record :=
    ⟨[], rfl, by simp⟩
  -- the resolution touches only the places of the cache
  have hkept {urls parser j₁ p r} (hready : Ready s binding manifest c v j urls parser j₁)
      (hresolve : Fixture.resolveBy s.schedule c true s.network (.ofVolume v) urls = (p, r)) :
      ∀ dir, c.dataDirectory = some dir →
        (∀ urls, fixtureUrls v manifest = .ok urls →
          ¬ Fixture.CachePlace v c urls (v.spot (Bench.artifactFile dir))) →
        p.volume.lookup (Bench.artifactFile dir) = v.lookup (Bench.artifactFile dir) := by
    intro dir hdir hplace
    obtain ⟨turns, halong⟩ := Fixture.resolveBy_along s.schedule c true s.network (.ofVolume v) urls
    obtain ⟨-, hlater, -, hframe⟩ := Fixture.resolveAlong_frame hv (halong.symm.trans hresolve)
    obtain ⟨dir', hdir', hdirectory⟩ := Bench.preflight_eq_ok hci' hready.preflight
    cases hdir.symm.trans hdir'
    exact Volume.lookup_of_later (Bench.artifactFile_eq dir) hdirectory hlater
      (hframe _ (hplace urls hready.urls))
  generalize hr : Except.error abort = r at hcourse
  cases hcourse with
  | unprepared ha => exact ⟨fun _ _ _ _ => rfl, fun _ => ⟨rfl, hnothing⟩⟩
  | unlisted hpreflight ha => exact ⟨fun _ _ _ _ => rfl, fun _ => ⟨rfl, hnothing⟩⟩
  | unloaded hpreflight ha => exact ⟨fun _ _ _ _ => rfl, fun _ => ⟨rfl, load_events ha⟩⟩
  | @failed urls parser j₁ j' p result abort hready hresolve hlate =>
    cases hr
    refine ⟨fun _ => hkept hready hresolve, fun hearly => ?_⟩
    rcases hearly with ⟨a, ha⟩ | hearly
    · cases hready.preflight.symm.trans ha
    · rw [hlate] at hearly
      cases hearly
  | @unwritten urls parser j₁ j' p fixtures results steps a hready hresolve hwrite =>
    cases hr
    refine ⟨fun hcut => ?_, fun hearly => ?_⟩
    · cases steps_of_not_cut hci' hwrite hcut
      exact hkept hready hresolve
    · rcases hearly with ⟨a, ha⟩ | hearly
      · cases hready.preflight.symm.trans ha
      · cases hearly
  | finished => cases hr

end Failure

/-- The second sample manifest lists one URL. -/
lemma fixtureUrls_b : fixtureUrls sampleVolume (some ⟨"", ["b.yaml"]⟩) =
    .ok [.ofString "http://h/b"] :=
  eq_ok_of_toOption (by decide +kernel)

/-- The results lie outside the places of the cache. -/
lemma not_cachePlace_sample : ¬ Fixture.CachePlace sampleVolume sampleConfig
    [.ofString "http://h/b"] ["d", "results.json"] := by
  have hb : Fixture.identifier (.ofString "http://h/b") = .ok (.ofString "b") := rfl
  generalize hl : ["d", "results.json"] = l
  intro hplace
  cases hplace with
  | @directory q h =>
    obtain ⟨root, names⟩ := q
    obtain ⟨rfl, hnames⟩ := h
    obtain rfl | ⟨rest, rfl, hrest⟩ := List.prefix_cons_iff.1 hnames
    · cases hl
    · cases List.prefix_nil.1 hrest
      revert hl
      decide
  | entry hurl hname | hidden hurl hname =>
    cases List.mem_singleton.1 hurl
    cases hb.symm.trans hname
    revert hl
    decide +kernel

/-- A benchmark of `b`, which cannot be fetched, leaves the earlier results; one with a binding that
does not exist leaves everything. -/
theorem bench_failed_missing :
    (∃ abort st, bench sampleSurroundings "m" (some ⟨"", ["b.yaml"]⟩) none
        (quiet sampleVolume .empty) = (.error abort, st) ∧
      st.volume.lookup ⟨"", ["d", "results.json"]⟩ = .ok (["d", "results.json"], .file [91, 93])) ∧
    ∃ abort st, bench sampleSurroundings "n" (some ⟨"", ["b.yaml"]⟩) none
        (quiet sampleVolume .empty) = (.error abort, st) ∧ st.volume = sampleVolume := by
  constructor
  · have hends : (match (bench sampleSurroundings "m" (some ⟨"", ["b.yaml"]⟩) none
        (quiet sampleVolume .empty)).1 with
        | .error abort => abort.isCut
        | .ok _ => true) = false := by
      decide +kernel
    generalize hst : bench sampleSurroundings "m" (some ⟨"", ["b.yaml"]⟩) none
      (quiet sampleVolume .empty) = ended at hends ⊢
    obtain ⟨abort | _, st⟩ := ended
    · have hkept :=
        (bench_failed sampleVolume_wellFormed ofEnvironment_sample rfl hst).1 hends _ rfl
      refine ⟨abort, st, rfl, (hkept ?_).trans rfl⟩
      intro urls hurls
      cases fixtureUrls_b.symm.trans hurls
      exact not_cachePlace_sample
    · cases hends
  · have hends : (match (bench sampleSurroundings "n" (some ⟨"", ["b.yaml"]⟩) none
        (quiet sampleVolume .empty)).1 with
        | .error abort => abort.isEarly
        | .ok _ => false) = true := by
      decide +kernel
    generalize hst : bench sampleSurroundings "n" (some ⟨"", ["b.yaml"]⟩) none
      (quiet sampleVolume .empty) = ended at hends ⊢
    obtain ⟨abort | _, st⟩ := ended
    · have hkept := (bench_failed sampleVolume_wellFormed ofEnvironment_sample rfl hst).2
      exact ⟨abort, st, rfl, (hkept (.inr hends)).1⟩
    · cases hends

/-! ## Results -/

section Results

variable {s : Surroundings} {binding : String} {manifest cache : Option Path} {c : Bench.Config}
  {v : Volume} {j : Journal} {urls : List Points} {p : Fixture.Progress}
  {fixtures : List Bench.Fixture} {follow : Bool} {net : Http.Network} {turns : List Fixture.Turn}

/-- Results with the labels of fixtures name these, if the labels of the fixtures do. -/
lemma fixtureOfLabel_of_labels {fixtures : List Bench.Fixture} {results : List Bench.TaskResult}
    (hnames : ∀ f ∈ fixtures,
      Bench.fixtureOfLabel (Bench.taskLabel f.identifier) = .ok f.identifier)
    (hlabels : results.map Bench.TaskResult.label =
      (fixtures.map Bench.Task.ofFixture).map Bench.Task.label) :
    List.Forall₂ (fun f r => Bench.fixtureOfLabel r.label = .ok f.identifier) fixtures results := by
  have hall : List.Forall₂ (fun f (r : Bench.TaskResult) => r.label = Bench.taskLabel f.identifier)
      fixtures results := by
    rw [List.map_map, ← List.forall₂_eq_eq_eq, List.forall₂_map_left_iff,
      List.forall₂_map_right_iff] at hlabels
    exact hlabels.flip
  refine ((List.forall₂_and_left _ _).2 ⟨hnames, hall⟩).imp ?_
  rintro f r ⟨hf, hr⟩
  rw [hr, hf]

end Results

end ParseBench.Program
