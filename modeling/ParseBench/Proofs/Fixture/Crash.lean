import ParseBench.Proofs.Fixture.Schedule

set_option relaxedAutoImplicit false
set_option autoImplicit false

/-!
# Resolutions that are stopped

A resolution may be stopped between any two of its steps, or in the middle of writing a file, while
several of its workers store entries. No entry is there in part then, and a resolution that would
have returned does so when it is tried again.

## Main results

* `ParseBench.Fixture.content?_of_stopped` — what is left of the entries.
* `ParseBench.Fixture.Finished.resumed` — a resolution that is tried again.
* `ParseBench.Fixture.resolve_crash_consistent` — both for lists of URLs.
-/

namespace ParseBench.Fixture

open ParseBench.Bench (Config)
open ParseBench.Files
open ParseBench.Http (Network)
open ParseBench.Text (Points)

variable {c : Config} {follow : Bool} {net : Network} {v u : Volume} {named : List Named}
  {fs : List Bench.Fixture} {p q : Progress} {turns : List Turn}
  {result : Except CacheAbort (List Bench.Fixture)}

/-- What is where at any point of a resolution that is stopped. -/
lemma between_of_stopped (hc : Compatible c named) (hv : v.WellFormed)
    (h : resolveNamedAlong c follow net turns (.ofVolume v) named = (p, result))
    (hu : Stopped v p.changes u) :
    p.volume = Change.applyAll v p.changes ∧ Between c follow net v named u := by
  obtain ⟨rfl, -⟩ := Prod.mk.inj h
  have hsound := sound_play follow net hc hv turns
  exact ⟨hsound.volume_eq, hsound.between hc hv hu⟩

/-- What a stop leaves of an entry: its content before, or the text of its fixture. -/
lemma content?_of_stopped (hc : Compatible c named) (hv : v.WellFormed)
    (h : Between c follow net v named u) {n : Named} (hn : n ∈ named) :
    content? c u n.name = content? c v n.name ∨
      ∃ text, (Http.fetch follow net n.url).result? = some (.ok text) ∧
        content? c u n.name = some (Text.Utf8.encode text) := by
  rcases h.content?_eq hc hv hn with heq | ⟨a, ha, rfl, hstored⟩
  · exact .inl heq
  · exact .inr ⟨a.content, ha.fetched,
      hstored.content?_eq hc h.wellFormed h.later (ha.for_named hc)⟩

/-! ## Trying again -/

/-- **A resolution that is tried again** after it was stopped comes to the same.

**Proof sketch.** What has to be returned is the same on the way as before (`Between.isFixture`),
and the texts that were in place when it was stopped and those that are stored by the second go
together are those that are stored in one go (`Between.overlay`). -/
lemma Finished.resumed (hc : Compatible c named) (hv : v.WellFormed)
    (h : Finished c follow net v named fs p) (hu : Between c follow net v named u)
    {fs' : List Bench.Fixture} (hagain : Finished c follow net u named fs' q) :
    fs' = fs ∧ q.volume.Same p.volume := by
  refine ⟨fixtures_unique hagain.fixtures ?_,
    (hu.overlay hc hv h.resolvable.alone hagain.overlay).same h.overlay fun _ => .rfl⟩
  have hmem : ∀ n ∈ named, n ∈ named := fun _ hn => hn
  have hall := (List.forall₂_and_left _ _).2 ⟨hmem, h.fixtures⟩
  exact hall.imp fun n f hf => hu.isFixture hc hv hf.1 hf.2

/-! ## Lists of URLs -/

/-- A hidden file of a fixture that is there was there before. -/
def NoneHidden (c : Config) (v w : Volume) (urls : List Points) : Prop :=
  ∀ url ∈ urls, ∀ name, identifier url = .ok name → ∀ content,
    w.node? (v.locate (hiddenPath (entryPath c name))) = some (.file content) →
      v.node? (v.locate (hiddenPath (entryPath c name))) = some (.file content)

/-- **Resolutions that are stopped.** The steps of a resolution along any schedule, in order, are
all that it does to the volume. If they are stopped at any point, perhaps in the middle of writing a
file, each entry holds what it held before or the complete text of its URL. If the resolution would
have returned along some schedule, then a new one does so along every schedule in which each task
has enough turns. Along no schedule does the new one fail, and wherever it comes to the end, it
returns the same and leaves the same on the volume as if the first had not been stopped; no hidden
file is there then that was not there before.

**Proof sketch.** The volume at the stop is between the one before and the one with all texts stored
(`between_of_stopped`). From there nothing is in the way of the texts that are left, so that the
second resolution comes to an end (`resolveNamedAlong_returns`), and then to the same one
(`Finished.resumed`). -/
theorem resolve_crash_consistent {urls : List Points} (hv : v.WellFormed)
    (hdots : ".." ∉ c.cache.names) (hhidden : Unhidden urls)
    (h : resolveAlong c follow net turns (.ofVolume v) urls = (p, result))
    (hu : Stopped v p.changes u) :
    p.volume = Change.applyAll v p.changes ∧
    (∀ url ∈ urls, ∀ name, identifier url = .ok name →
      content? c u name = content? c v name ∨
        ∃ text, (Http.fetch follow net url).result? = some (.ok text) ∧
          content? c u name = some (Text.Utf8.encode text)) ∧
    ∀ turns' p' fs, resolveAlong c follow net turns' (.ofVolume v) urls = (p', .ok fs) →
      (∃ enough, ∀ again, (∀ i < urls.length, enough ≤ again.countP (Turn.advances i)) →
        ∃ q, resolveAlong c follow net again (.ofVolume u) urls = (q, .ok fs)) ∧
      (∀ again q outcome, resolveAlong c follow net again (.ofVolume u) urls = (q, outcome) →
        outcome ≠ .error .endless →
          outcome = .ok fs ∧ q.volume.Same p'.volume ∧ NoneHidden c v q.volume urls) ∧
      ∃ q, resolve c follow net (.ofVolume u) urls = (q, .ok fs) := by
  cases hcheck : checkUrls urls with
  | error abort =>
    rw [resolveAlong, hcheck] at h
    cases h
    obtain rfl : u = v := Stopped.nil_iff.1 hu
    refine ⟨rfl, fun _ _ _ _ => .inl rfl, fun turns' p' fs h' => ?_⟩
    rw [resolveAlong, hcheck] at h'
    cases h'
  | ok named =>
    have hc := compatible_of_checkUrls hdots hcheck hhidden
    rw [resolveAlong_of_checkUrls hcheck] at h
    obtain ⟨hvolume, hbetween⟩ := between_of_stopped hc hv h hu
    refine ⟨hvolume, fun url hurl name hid => ?_, fun turns' p' fs h' => ?_⟩
    · obtain ⟨n, hn, rfl, rfl⟩ := exists_named hcheck hurl hid
      exact content?_of_stopped hc hv hbetween hn
    · rw [resolveAlong_of_checkUrls hcheck] at h'
      have hfinished := finished_of_resolveNamedAlong hc hv h'
      have hresolvable := hbetween.resolvable hc hv hfinished.resolvable
      have hend : ∀ {again q outcome},
          resolveAlong c follow net again (.ofVolume u) urls = (q, outcome) →
            outcome ≠ .error .endless →
              outcome = .ok fs ∧ q.volume.Same p'.volume ∧ NoneHidden c v q.volume urls := by
        intro again q outcome hagain houtcome
        rw [resolveAlong_of_checkUrls hcheck] at hagain
        obtain ⟨fs', rfl⟩ := (resolveNamedAlong_of_resolvable hc hbetween.wellFormed hresolvable
          hagain).resolve_left houtcome
        obtain ⟨rfl, hsame⟩ := hfinished.resumed hc hv hbetween
          (finished_of_resolveNamedAlong hc hbetween.wellFormed hagain)
        refine ⟨rfl, hsame, fun url hurl name hid content hfile => ?_⟩
        obtain ⟨n, hn, rfl, rfl⟩ := exists_named hcheck hurl hid
        rw [hsame.node?] at hfile
        exact hidden_of_overlay hc hv hfinished.resolvable hfinished.overlay hn hfile
      refine ⟨⟨enoughTurns c follow net named, fun again hturns => ?_⟩,
        fun again q outcome hagain houtcome => hend hagain houtcome, ?_⟩
      · rw [← length_of_checkUrls hcheck] at hturns
        obtain ⟨q, fs', hagain⟩ :=
          resolveNamedAlong_returns hc hbetween.wellFormed hresolvable hturns
        rw [← resolveAlong_of_checkUrls hcheck] at hagain
        obtain ⟨hok, -⟩ := hend hagain (by simp)
        exact ⟨q, hok ▸ hagain⟩
      · obtain ⟨q, fs', hagain⟩ :=
          (resolveNamed_returns_iff hc hbetween.wellFormed).2 hresolvable
        rw [← resolve_of_checkUrls hcheck] at hagain
        have halong := hagain
        rw [resolve_eq_resolveAlong hcheck] at halong
        obtain ⟨hok, -⟩ := hend halong (by simp)
        exact ⟨q, hok ▸ hagain⟩

/-- A volume on which two hidden files are left, one of them cut short. -/
def tornVolume : Volume :=
  Change.applyAll sampleVolume
    [.write ["t", ".c.tmp"] [104], .write ["t", ".b.tmp"] [104], .write ["t", ".c.tmp"] []]

/-- A resolution is stopped while it stores two entries, and tried again. -/
theorem resolve_crash_consistent_torn :
    ∃ p, resolve sampleConfig false (sampleNetwork fun _ => 0) (.ofVolume tornVolume) sampleUrls =
        (p, .ok [⟨"a", "x"⟩, ⟨"b", "hi"⟩, ⟨"c", "hi"⟩]) ∧
      NoneHidden sampleConfig sampleVolume p.volume sampleUrls := by
  have hresult : (resolveAlong sampleConfig false (sampleNetwork fun _ => 0) alternating
      (.ofVolume sampleVolume) sampleUrls).2.toOption =
        some [⟨"a", "x"⟩, ⟨"b", "hi"⟩, ⟨"c", "hi"⟩] := by
    decide +kernel
  have hchanges : (resolveAlong sampleConfig false (sampleNetwork fun _ => 0) alternating
      (.ofVolume sampleVolume) sampleUrls).1.changes =
        [.write ["t", ".c.tmp"] [104], .write ["t", ".b.tmp"] [104],
          .write ["t", ".c.tmp"] [104, 105], .write ["t", ".b.tmp"] [104, 105],
          .move ["t", ".c.tmp"] ["t", "c"], .move ["t", ".b.tmp"] ["t", "b"]] := by
    decide +kernel
  have hrun := eq_of_toOption hresult
  have hstopped : Stopped sampleVolume (resolveAlong sampleConfig false (sampleNetwork fun _ => 0)
      alternating (.ofVolume sampleVolume) sampleUrls).1.changes tornVolume := by
    rw [hchanges]
    exact .step (.step (.torn _ _ _ 0 _))
  have hdots : ".." ∉ sampleConfig.cache.names := by decide
  obtain ⟨-, -, hagain⟩ :=
    resolve_crash_consistent sampleVolume_wellFormed hdots unhidden_sampleUrls hrun hstopped
  obtain ⟨-, hend, p, hresolve⟩ := hagain _ _ _ hrun
  rw [resolve_eq_resolveAlong checkUrls_sampleUrls] at hresolve
  obtain ⟨-, -, hhidden⟩ := hend _ _ _ hresolve (by simp)
  exact ⟨p, by rw [resolve_eq_resolveAlong checkUrls_sampleUrls, hresolve], hhidden⟩

end ParseBench.Fixture
