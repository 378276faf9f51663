import ParseBench.Proofs.Fixture.Schedule

set_option relaxedAutoImplicit false
set_option autoImplicit false

/-!
# Resolutions do not depend on timing

Which fixtures a resolution returns, what it leaves on the volume and what it requests does not
depend on how long the answers take, nor on how the tasks and their workers take turns. A fixture is
what can be read in its place, or else what its URL gives.

## Main definitions

* `ParseBench.Fixture.FixtureOf` — the fixture of a URL.
* `ParseBench.Fixture.requestsFor` — the requests for the fixture of a URL.

## Main results

* `ParseBench.Fixture.resolve_timing_independent` — resolutions do not depend on timing.
-/

namespace ParseBench.Fixture

open ParseBench.Bench (Config)
open ParseBench.Files
open ParseBench.Http (Answers Network SameReplies)
open ParseBench.Text (Points)

/-- The fixture of a URL: it is named by the URL, and its content is that of the file by its name in
the cache, or the text that the URL gives if there is no such file to be read. -/
structure FixtureOf (c : Config) (follow : Bool) (net : Network) (v : Volume) (url : Points)
    (f : Bench.Fixture) : Prop where
  identifier : identifier url = .ok (.ofString f.identifier)
  content : match v.read (c.cache.child f.identifier) with
    | .ok bytes => Text.Utf8.decode bytes = .ok f.content
    | .error _ => (Http.fetch follow net url).result? = some (.ok f.content)

/-- The requests for the fixture of a URL: none if there is a file to be read, else those of a
fetch. -/
def requestsFor (c : Config) (follow : Bool) (net : Network) (v : Volume) (url : Points) :
    List String :=
  match identifier url with
  | .error _ => []
  | .ok name =>
    match v.read (entryPath c name) with
    | .ok _ => []
    | .error _ => (Http.fetch follow net url).urls

variable {c : Config} {follow : Bool} {net net' : Network} {v : Volume} {named : List Named}
  {fs fs' : List Bench.Fixture} {p p' : Progress} {turns : List Turn}

/-! ## Fixtures by their URLs -/

/-- What a fixture has to be, and what is asked for it, in terms of its URL and of its file. -/
lemma fixtureOf_of_isFixture {n : Named} {f : Bench.Fixture} (hid : identifier n.url = .ok n.name)
    (h : IsFixture c follow net v n f) :
    FixtureOf c follow net v n.url f ∧
      requestsFor c follow net v n.url = askedFor c follow net v n := by
  have htext : n.name.isText = true := by
    rcases h.content with hhit | ⟨-, hfetch⟩
    · obtain ⟨b, hb, -⟩ := look_eq_hit_iff.1 hhit
      exact isText_of_readEntry hb
    · exact isText_of_fetch hid hfetch
  have hname : n.name = .ofString f.identifier := by
    rw [h.identifier, Points.ofString_lossy htext]
  have hpath : entryPath c n.name = c.cache.child f.identifier := by
    rw [entryPath, h.identifier]
  rw [requestsFor, hid, askedFor]
  dsimp only
  rcases h.content with hhit | ⟨hmiss, hfetch⟩
  · obtain ⟨b, hb, hdecode⟩ := look_eq_hit_iff.1 hhit
    rw [readEntry_of_isText c v htext] at hb
    rw [hhit, hb]
    rw [hpath] at hb
    refine ⟨⟨by rw [hid, hname], ?_⟩, rfl⟩
    rw [hb]
    exact hdecode
  · have hnone := content?_of_miss hmiss
    rw [content?, readEntry_of_isText c v htext] at hnone
    cases hread : v.read (entryPath c n.name) with
    | ok b => simp [hread, Except.toOption] at hnone
    | error e =>
      rw [hmiss]
      rw [hpath] at hread
      refine ⟨⟨by rw [hid, hname], ?_⟩, rfl⟩
      rw [hread]
      exact hfetch

/-- The fixtures of a resolution and its requests, by the URLs. -/
lemma Finished.urls (haccepted : Accepted named) (h : Finished c follow net v named fs p) :
    List.Forall₂ (FixtureOf c follow net v) (named.map Named.url) fs ∧
      (requested p.events).Perm ((named.map Named.url).flatMap (requestsFor c follow net v)) := by
  have hall := (List.forall₂_and_left _ _).2 ⟨haccepted.identifier, h.fixtures⟩
  refine ⟨?_, ?_⟩
  · rw [List.forall₂_map_left_iff]
    exact hall.imp fun n f hn => (fixtureOf_of_isFixture hn.1 hn.2).1
  · have hsame : ∀ n ∈ named, requestsFor c follow net v n.url = askedFor c follow net v n := by
      intro n hn
      obtain ⟨i, hi, rfl⟩ := List.getElem_of_mem hn
      obtain ⟨hid, hf⟩ := hall.get hi (hall.length_eq ▸ hi)
      exact (fixtureOf_of_isFixture hid hf).2
    rw [List.flatMap_map, List.flatMap_congr hsame]
    exact h.requests

/-! ## Two networks that differ in their delays -/

section Same

variable (hsame : SameReplies net net') (hnet : Answers net) (hnet' : Answers net')
include hsame hnet hnet'

/-- What is asked for a fixture does not depend on delays. -/
lemma askedFor_same (n : Named) : askedFor c follow net' v n = askedFor c follow net v n := by
  rw [askedFor, askedFor, (Http.fetch_same follow hsame hnet hnet' n.url).1]

/-- Delays do not keep fixtures from being resolved. -/
lemma Resolvable.same (h : Resolvable c follow net v named) : Resolvable c follow net' v named := by
  refine ⟨fun n hn => ?_, h.alone⟩
  rw [← (Http.fetch_same follow hsame hnet hnet' n.url).2]
  exact h.each n hn

/-- What a fixture has to be does not depend on delays. -/
lemma IsFixture.same {n : Named} {f : Bench.Fixture} (h : IsFixture c follow net' v n f) :
    IsFixture c follow net v n f := by
  refine ⟨h.identifier, ?_⟩
  rw [(Http.fetch_same follow hsame hnet hnet' n.url).2]
  exact h.content

/-- The texts that are to be stored do not depend on delays. -/
lemma mem_wanted_same (a : Attempt) :
    a ∈ wanted c follow net' v named ↔ a ∈ wanted c follow net v named := by
  have hfetch := (Http.fetch_same follow hsame hnet hnet' a.named.url).2
  rw [mem_wanted_iff, mem_wanted_iff]
  constructor
  · exact fun h => ⟨h.mem, h.missing, hfetch.trans h.fetched, h.result⟩
  · exact fun h => ⟨h.mem, h.missing, hfetch.symm.trans h.fetched, h.result⟩

/-- **All schedules come to the same**, whatever the delays. -/
lemma Finished.unique (h : Finished c follow net v named fs p)
    (h' : Finished c follow net' v named fs' p') :
    fs' = fs ∧ p'.volume.Same p.volume ∧ (requested p'.events).Perm (requested p.events) := by
  refine ⟨?_, h'.overlay.same h.overlay (mem_wanted_same hsame hnet hnet'), ?_⟩
  · refine fixtures_unique ?_ h.fixtures
    exact h'.fixtures.imp fun n f hf => hf.same hsame hnet hnet'
  · refine h'.requests.trans ?_
    rw [funext (askedFor_same hsame hnet hnet')]
    exact h.requests.symm

end Same

/-! ## Lists of URLs -/

/-- **Resolutions do not depend on timing.** Of two networks that give the same replies, after
whatever finite delays, if a resolution returns with the one along some schedule, then with the
other it does so along every schedule in which each task has enough turns. Along no schedule does it
fail, and wherever it comes to the end, it returns the same fixtures, leaves the same on the volume
and makes the same requests up to their order. The fixtures are those of the URLs, one for each and
in order, and there are no requests for what can be read in the cache.

**Proof sketch.** That a resolution returns tells that nothing keeps its fixtures from being
resolved (`finished_of_resolveNamedAlong`), which has nothing to do with schedules and delays. So no
step of any task fails (`resolveNamedAlong_of_resolvable`), each turn in which a task gets on brings
it nearer to its end (`resolveNamedAlong_returns`), and what is there in the end is determined
(`Finished.unique`). -/
theorem resolve_timing_independent {urls : List Points} (hv : v.WellFormed)
    (hdots : ".." ∉ c.cache.names) (hhidden : Unhidden urls) (hsame : SameReplies net net')
    (hnet : Answers net) (hnet' : Answers net')
    (h : resolveAlong c follow net turns (.ofVolume v) urls = (p, .ok fs)) :
    (∃ enough, ∀ turns', (∀ i < urls.length, enough ≤ turns'.countP (Turn.advances i)) →
      ∃ p', resolveAlong c follow net' turns' (.ofVolume v) urls = (p', .ok fs)) ∧
    (∀ turns' p' result, resolveAlong c follow net' turns' (.ofVolume v) urls = (p', result) →
      result ≠ .error .endless → result = .ok fs ∧ p'.volume.Same p.volume ∧
        (requested p'.events).Perm (requested p.events)) ∧
    (∃ p', resolve c follow net' (.ofVolume v) urls = (p', .ok fs)) ∧
    List.Forall₂ (FixtureOf c follow net v) urls fs ∧
    (requested p.events).Perm (urls.flatMap (requestsFor c follow net v)) := by
  obtain ⟨named, hcheck⟩ := checkUrls_of_resolveAlong h
  have hc := compatible_of_checkUrls hdots hcheck hhidden
  rw [resolveAlong_of_checkUrls hcheck] at h
  have hfinished := finished_of_resolveNamedAlong hc hv h
  have hresolvable := hfinished.resolvable.same hsame hnet hnet'
  have hend : ∀ {turns' p' result},
      resolveAlong c follow net' turns' (.ofVolume v) urls = (p', result) →
        result ≠ .error .endless → result = .ok fs ∧ p'.volume.Same p.volume ∧
          (requested p'.events).Perm (requested p.events) := by
    intro turns' p' result h' hresult
    rw [resolveAlong_of_checkUrls hcheck] at h'
    obtain ⟨fs', rfl⟩ :=
      (resolveNamedAlong_of_resolvable hc hv hresolvable h').resolve_left hresult
    obtain ⟨rfl, hrest⟩ :=
      hfinished.unique hsame hnet hnet' (finished_of_resolveNamedAlong hc hv h')
    exact ⟨rfl, hrest⟩
  refine ⟨⟨enoughTurns c follow net' named, fun turns' hturns => ?_⟩,
    fun turns' p' result h' hresult => hend h' hresult, ?_, ?_⟩
  · rw [← length_of_checkUrls hcheck] at hturns
    obtain ⟨p', fs', h'⟩ := resolveNamedAlong_returns hc hv hresolvable hturns
    rw [← resolveAlong_of_checkUrls hcheck] at h'
    obtain ⟨hok, -⟩ := hend h' nofun
    exact ⟨p', hok ▸ h'⟩
  · obtain ⟨p', fs', h'⟩ := (resolveNamed_returns_iff hc hv).2 hresolvable
    rw [← resolve_of_checkUrls hcheck] at h'
    have halong := h'
    rw [resolve_eq_resolveAlong hcheck] at halong
    obtain ⟨hok, -⟩ := hend halong nofun
    exact ⟨p', hok ▸ h'⟩
  · rw [← (checkUrls_eq_ok_iff.1 hcheck).1]
    exact hfinished.urls hc.accepted

/-- Beside a fixture that is there, two are fetched and stored in turn; the other way round, the
answer to the first request comes last. -/
theorem resolve_timing_independent_reversed :
    ∃ p, resolve sampleConfig false (sampleNetwork fun url => if url = "http://h/b" then 2 else 1)
        (.ofVolume sampleVolume) sampleUrls = (p, .ok [⟨"a", "x"⟩, ⟨"b", "hi"⟩, ⟨"c", "hi"⟩]) := by
  have hresult : (resolveAlong sampleConfig false (sampleNetwork fun _ => 0) alternating
      (.ofVolume sampleVolume) sampleUrls).2.toOption =
        some [⟨"a", "x"⟩, ⟨"b", "hi"⟩, ⟨"c", "hi"⟩] := by
    decide +kernel
  have hdots : ".." ∉ sampleConfig.cache.names := by decide
  have hsame : SameReplies (sampleNetwork fun _ => 0)
      (sampleNetwork fun url => if url = "http://h/b" then 2 else 1) := fun _ => rfl
  have hnet : ∀ delay, Answers (sampleNetwork delay) := by simp [Answers, sampleNetwork]
  obtain ⟨-, -, hreturns, -⟩ := resolve_timing_independent sampleVolume_wellFormed hdots
    unhidden_sampleUrls hsame (hnet _) (hnet _) (eq_of_toOption hresult)
  exact hreturns

end ParseBench.Fixture
