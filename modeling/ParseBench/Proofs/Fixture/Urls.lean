import ParseBench.Fixture.Resolution
import ParseBench.Proofs.Fixture.Attempts

set_option relaxedAutoImplicit false
set_option autoImplicit false

/-!
# Lists of URLs

The resolution of a list of URLs is that of the fixtures that they name, whose names differ. A small
cache is at hand, to see what is shown at work.

## Main results

* `ParseBench.Fixture.resolve_along`, `ParseBench.Fixture.resolveBy_along` — the prompt schedule is
  one of all schedules.
* `ParseBench.Fixture.separate_of_checkUrls`, `ParseBench.Fixture.compatible_of_checkUrls` —
  fixtures that do not get into each other's way.
-/

namespace ParseBench.Fixture

open ParseBench.Bench (Config)
open ParseBench.Files
open ParseBench.Http (Network)
open ParseBench.Text (Points)

/-! ## Lists of URLs -/

section Urls

variable {c : Config} {follow : Bool} {net : Network} {named : List Named} {urls : List Points}
  {turns : List Turn} {p : Progress} {fs : List Bench.Fixture}

/-- A resolution of URLs that are accepted is one of their names. -/
lemma resolve_of_checkUrls (h : checkUrls urls = .ok named) (d : Log.Desk) :
    resolve c follow net d urls = resolveNamed c follow net d named := by
  rw [resolve, h]

/-- The resolution of a list that is accepted. -/
lemma resolveAlong_of_checkUrls (h : checkUrls urls = .ok named) (turns : List Turn) (d : Log.Desk) :
    resolveAlong c follow net turns d urls = resolveNamedAlong c follow net turns d named := by
  rw [resolveAlong, h]

/-- The prompt schedule of a list that is accepted. -/
lemma resolve_eq_resolveAlong (h : checkUrls urls = .ok named) (d : Log.Desk) :
    resolve c follow net d urls =
      resolveAlong c follow net (prompt c follow net d named) d urls := by
  rw [resolve_of_checkUrls h, resolveAlong_of_checkUrls h, resolveNamed]

/-- The prompt schedule is one of all schedules. -/
lemma resolve_along (c : Config) (follow : Bool) (net : Network) (d : Log.Desk)
    (urls : List Points) :
    ∃ turns, resolve c follow net d urls = resolveAlong c follow net turns d urls := by
  cases hcheck : checkUrls urls with
  | ok named => exact ⟨_, resolve_eq_resolveAlong hcheck d⟩
  | error abort => exact ⟨[], by rw [resolve, resolveAlong, hcheck]⟩

/-- Each resolution is one along some schedule. -/
lemma resolveBy_along (schedule : Option (List Turn)) (c : Config) (follow : Bool) (net : Network)
    (d : Log.Desk) (urls : List Points) :
    ∃ turns, resolveBy schedule c follow net d urls = resolveAlong c follow net turns d urls := by
  cases schedule with
  | some turns => exact ⟨turns, rfl⟩
  | none => exact resolve_along c follow net d urls

/-- A resolution that returns was of a list that was accepted. -/
lemma checkUrls_of_resolveAlong {d : Log.Desk}
    (h : resolveAlong c follow net turns d urls = (p, .ok fs)) :
    ∃ named, checkUrls urls = .ok named := by
  rw [resolveAlong] at h
  cases hcheck : checkUrls urls with
  | error abort =>
    rw [hcheck] at h
    cases h
  | ok named => exact ⟨named, rfl⟩

/-- There are as many fixtures as URLs. -/
lemma length_of_checkUrls (h : checkUrls urls = .ok named) : named.length = urls.length := by
  rw [← (checkUrls_eq_ok_iff.1 h).1, List.length_map]

/-- No name is hidden by another exactly if no name is the hidden name of one. -/
lemma unhidden_iff (h : checkUrls urls = .ok named) :
    Unhidden urls ↔ ∀ m ∈ named, ∀ n ∈ named, m.name ≠ hiddenName n.name := by
  obtain ⟨rfl, haccepted⟩ := checkUrls_eq_ok_iff.1 h
  constructor
  · intro hhidden m hm n hn heq
    refine hhidden m.url (List.mem_map_of_mem hm) n.url (List.mem_map_of_mem hn) n.name
      (haccepted.identifier n hn) ?_
    rw [haccepted.identifier m hm, heq]
  · intro hhidden url hurl url' hurl' name hname heq
    obtain ⟨m, hm, rfl⟩ := List.mem_map.1 hurl
    obtain ⟨n, hn, rfl⟩ := List.mem_map.1 hurl'
    rw [haccepted.identifier n hn] at hname
    rw [haccepted.identifier m hm] at heq
    cases hname
    exact hhidden m hm n hn (by simpa using heq)

/-- The fixtures of a list of URLs that is accepted do not get into each other's way. -/
lemma separate_of_checkUrls (h : checkUrls urls = .ok named) (hhidden : Unhidden urls) :
    Separate named :=
  ⟨(checkUrls_eq_ok_iff.1 h).2, (unhidden_iff h).1 hhidden⟩

/-- Accepted URLs of which none hides another have entries that do not interfere. -/
lemma compatible_of_checkUrls (hdots : ".." ∉ c.cache.names) (h : checkUrls urls = .ok named)
    (hhidden : Unhidden urls) : Compatible c named :=
  ⟨separate_of_checkUrls h hhidden, hdots⟩

/-- The fixture of a URL of the list. -/
lemma exists_named (h : checkUrls urls = .ok named) {url name : Points} (hurl : url ∈ urls)
    (hid : identifier url = .ok name) : ∃ n ∈ named, n.url = url ∧ n.name = name := by
  obtain ⟨rfl, haccepted⟩ := checkUrls_eq_ok_iff.1 h
  obtain ⟨n, hn, rfl⟩ := List.mem_map.1 hurl
  rw [haccepted.identifier n hn] at hid
  cases hid
  exact ⟨n, hn, rfl, rfl⟩

end Urls

/-! ## A small cache -/

/-- A cache in the directory `t`. -/
def sampleConfig : Config := ⟨false, false, ⟨"", ["t"]⟩, none⟩

/-- A volume on which there is one entry of the cache. -/
def sampleVolume : Volume :=
  Change.applyAll .empty [.makeDirectory ["t"], .write ["t", "a"] [120]]

/-- The URLs of the entry and of two others. -/
def sampleUrls : List Points :=
  [.ofString "http://h/a", .ofString "http://h/b", .ofString "http://h/c"]

/-- The fixtures of the URLs. -/
def sampleNamed : List Named :=
  [⟨.ofString "http://h/a", .ofString "a"⟩, ⟨.ofString "http://h/b", .ofString "b"⟩,
   ⟨.ofString "http://h/c", .ofString "c"⟩]

/-- A network that gives the same text for all URLs, each after a time of its own. -/
def sampleNetwork (delay : String → Nat) : Network :=
  fun url => ⟨.after (delay url), .ok ⟨200, [104, 105], none, none⟩⟩

/-- The sample volume is well formed. -/
lemma sampleVolume_wellFormed : sampleVolume.WellFormed := by
  refine Change.LegalAll.wellFormed Volume.wellFormed_empty ?_
  exact ⟨⟨by decide, by decide⟩, ⟨by decide, by decide⟩, trivial⟩

/-- The sample URLs are accepted. -/
lemma checkUrls_sampleUrls : checkUrls sampleUrls = .ok sampleNamed := by rfl

/-- None of the sample URLs hides another. -/
lemma unhidden_sampleUrls : Unhidden sampleUrls :=
  (unhidden_iff checkUrls_sampleUrls).2 (by decide)

/-- A resolution that returns, from its result alone. -/
lemma eq_of_toOption {run : Progress × Except CacheAbort (List Bench.Fixture)}
    {fs : List Bench.Fixture} (h : run.2.toOption = some fs) : run = (run.1, .ok fs) := by
  obtain ⟨p, r⟩ := run
  cases r with
  | error abort => simp [Except.toOption] at h
  | ok fs' =>
    rw [Except.toOption] at h
    cases h
    rfl

/-- A schedule along which the tasks take turns and each write is cut into pieces, so that both
entries that are missing are under way at the same time. -/
def alternating : List Turn :=
  (List.replicate 12 [.task 0 none, .task 2 (some 1), .task 1 (some 1)]).flatten

end ParseBench.Fixture
