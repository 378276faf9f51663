import ParseBench.Proofs.Fixture.Anywhere
import ParseBench.Proofs.Fixture.Urls

set_option relaxedAutoImplicit false
set_option autoImplicit false

/-!
# What a resolution can reach

For all URLs, on all volumes, along every schedule and however it ends, a resolution changes nothing
outside the places of the cache: its directory and those above it, the entries of the URLs and their
hidden files. If it returns, it returns one fixture per URL, in order and under the name of the URL.

## Main definitions

* `ParseBench.Fixture.CachePlace` — the places of the cache.

## Main results

* `ParseBench.Fixture.exists_sited` — what is known of the resolution of a list of URLs.
* `ParseBench.Fixture.resolveAlong_frame` — outside the places of the cache everything stays as it
  was.
* `ParseBench.Fixture.resolveAlong_names` — the names of the fixtures that are returned.
-/

namespace ParseBench.Fixture

open ParseBench.Bench (Config)
open ParseBench.Files
open ParseBench.Http (Network)
open ParseBench.Text (Points)

/-! ## The places of a cache -/

/-- The places of a cache for URLs: its directory and those above it, the entries and their hidden
files. -/
inductive CachePlace (v : Volume) (c : Config) (urls : List Points) : Location → Prop where
  | directory {q : Path} (h : Volume.Above c.cache q) : CachePlace v c urls (v.spot q)
  | entry {url name : Points} (hurl : url ∈ urls) (hname : identifier url = .ok name) :
    CachePlace v c urls (v.spot (entryPath c name))
  | hidden {url name : Points} (hurl : url ∈ urls) (hname : identifier url = .ok name) :
    CachePlace v c urls (v.spot (hiddenPath (entryPath c name)))

variable {c : Config} {follow : Bool} {net : Network} {v : Volume} {named : List Named}
  {urls : List Points} {turns : List Turn} {p : Progress} {fs : List Bench.Fixture}
  {result : Except CacheAbort (List Bench.Fixture)}

/-- A worker touches nothing but the places of the cache. -/
lemma Work.places {url name : Points} (hurl : url ∈ urls) (hid : identifier url = .ok name)
    {ch : Change} (h : Work c v (entryPath c name) ch) :
    ∀ l ∈ ch.places, CachePlace v c urls l := by
  intro l hl
  cases h with
  | directory h =>
    rw [Change.places, List.mem_singleton] at hl
    exact hl ▸ .directory ((seated_entryPath c hid).above h)
  | hidden =>
    rw [Change.places, List.mem_singleton] at hl
    exact hl ▸ .hidden hurl hid
  | moved =>
    rw [Change.places, List.mem_pair] at hl
    rcases hl with rfl | rfl
    · exact .hidden hurl hid
    · exact .entry hurl hid

/-! ## Lists of URLs -/

/-- What is known of the resolution of a list of URLs that is accepted. -/
lemma exists_sited (hv : v.WellFormed) (hcheck : checkUrls urls = .ok named)
    (h : resolveAlong c follow net turns (.ofVolume v) urls = (p, result)) :
    ∃ last : Resolution, last.Sited c follow net v named ∧ last.progress = p ∧
      last.result = result := by
  rw [resolveAlong_of_checkUrls hcheck, resolveNamedAlong] at h
  obtain ⟨hp, hresult⟩ := Prod.mk.inj h
  exact ⟨_, sited_play c follow net (checkUrls_eq_ok_iff.1 hcheck).2 hv turns, hp, hresult⟩

/-- **Outside the places of the cache a resolution changes nothing**, however it ends. Without a log
file there is none after it. -/
lemma resolveAlong_frame (hv : v.WellFormed)
    (h : resolveAlong c follow net turns (.ofVolume v) urls = (p, result)) :
    p.desk = .ofVolume p.volume ∧ v.Later p.volume ∧ p.volume.WellFormed ∧
      ∀ l, ¬ CachePlace v c urls l → p.volume.node? l = v.node? l := by
  cases hcheck : checkUrls urls with
  | error abort =>
    rw [resolveAlong, hcheck] at h
    cases h
    exact ⟨rfl, .refl v, hv, fun _ _ => rfl⟩
  | ok named =>
    obtain ⟨last, hsited, rfl, -⟩ := exists_sited hv hcheck h
    obtain ⟨rfl, haccepted⟩ := checkUrls_eq_ok_iff.1 hcheck
    refine ⟨?_, ?_, hsited.wellFormed hv, fun l hl => ?_⟩
    · rw [hsited.quiet]
      rfl
    · rw [hsited.volume_eq]
      exact hsited.legal.later
    · rw [hsited.volume_eq]
      refine hsited.legal.node?_of_notMem fun ch hch hmem => hl ?_
      obtain ⟨n, hn, -, hwork⟩ := hsited.works ch hch
      exact hwork.places (List.mem_map_of_mem hn) (haccepted.identifier n hn) l hmem

/-- Each fixture that is returned has the name of its URL, which is an ordinary text, and it is that
of a task that is done. -/
lemma Resolution.Sited.returned {r : Resolution} (h : r.Sited c follow net v named)
    (hok : r.result = .ok fs) :
    List.Forall₂ (fun t f => t ∈ r.tasks ∧ t.2 = .done f.content ∧ t.1.name.isText = true ∧
      Proper (entryPath c t.1.name) ∧ t.1.name = .ofString f.identifier) r.tasks fs := by
  obtain ⟨-, hcollect⟩ := Resolution.result_eq_ok_iff.1 hok
  have hall := (List.forall₂_and_left _ _).2
    ⟨fun t ht => And.intro ht (h.tasks t ht), Resolution.collect_eq_ok_iff.1 hcollect⟩
  refine hall.imp ?_
  rintro ⟨n, stage⟩ f ⟨⟨ht, hsited⟩, hdone, hidentifier⟩
  obtain rfl : stage = .done f.content := hdone
  obtain ⟨htext, hproper⟩ := hsited
  exact ⟨ht, rfl, htext, hproper, by rw [hidentifier, Points.ofString_lossy htext]⟩

/-- If a resolution returns, the names of all fixtures are texts, and their entries can name
files. -/
lemma Resolution.Sited.proper {r : Resolution} (h : r.Sited c follow net v named)
    (hok : r.result = .ok fs) {n : Named} (hn : n ∈ named) :
    n.name.isText = true ∧ Proper (entryPath c n.name) := by
  have hall := h.returned hok
  rw [← h.names] at hn
  obtain ⟨t, ht, rfl⟩ := List.mem_map.1 hn
  obtain ⟨i, hi, rfl⟩ := List.getElem_of_mem ht
  obtain ⟨-, -, htext, hproper, -⟩ := hall.get hi (hall.length_eq ▸ hi)
  exact ⟨htext, hproper⟩

/-- **A resolution that returns gives one fixture per URL**, in order and under the name of the
URL. -/
lemma resolveAlong_names (hv : v.WellFormed)
    (h : resolveAlong c follow net turns (.ofVolume v) urls = (p, .ok fs)) :
    List.Forall₂ (fun url f => identifier url = .ok (.ofString f.identifier)) urls fs := by
  obtain ⟨named, hcheck⟩ := checkUrls_of_resolveAlong h
  obtain ⟨last, hsited, -, hok⟩ := exists_sited hv hcheck h
  obtain ⟨rfl, haccepted⟩ := checkUrls_eq_ok_iff.1 hcheck
  rw [← hsited.names, List.map_map, List.forall₂_map_left_iff]
  refine (hsited.returned hok).imp fun t f ht => ?_
  obtain ⟨hmem, -, -, -, hname⟩ := ht
  have hfixture : t.1 ∈ named := hsited.names ▸ List.mem_map_of_mem hmem
  rw [Function.comp_apply, haccepted.identifier _ hfixture, hname]

end ParseBench.Fixture
