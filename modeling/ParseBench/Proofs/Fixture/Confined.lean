import ParseBench.Proofs.Fixture.Reach

set_option relaxedAutoImplicit false
set_option autoImplicit false

/-!
# Where a resolution writes

A resolution makes the directory of the cache and those above it that are missing, and then writes
files that lie directly in that directory, under the names of the fixtures and of their hidden
files. A name of a single dot is the exception: its entry is the directory itself, whose hidden file
lies beside it.

## Main definitions

* `ParseBench.Fixture.Confined` — the steps that stay in the cache.
* `ParseBench.Fixture.Admitted` — how a location may differ after a resolution.

## Main results

* `ParseBench.Fixture.Work.confined` — the worker of an entry stays in the cache.
* `ParseBench.Fixture.resolve_confined` — where a resolution writes, along every schedule.
-/

namespace ParseBench.Fixture

open ParseBench.Bench (Config)
open ParseBench.Files
open ParseBench.Http (Network)
open ParseBench.Text (Bytes Points)

/-! ## Steps in the cache -/

/-- A step that stays in the cache: a directory is made, which is that of the cache or above it, or
the hidden file of a fixture is written in the directory of the cache, or it is moved to the name of
the fixture there. -/
inductive Confined (v : Volume) (c : Config) (urls : List Points) : Change → Prop where
  | directory {q : Path} (h : Volume.Above c.cache q) :
    Confined v c urls (.makeDirectory (v.spot q))
  | write {url : Points} {x : String} {b : Bytes} (hurl : url ∈ urls)
    (hname : identifier url = .ok (.ofString x)) :
    Confined v c urls (.write (v.spot c.cache ++ [temporaryName x]) b)
  | move {url : Points} {x : String} (hurl : url ∈ urls)
    (hname : identifier url = .ok (.ofString x)) :
    Confined v c urls (.move (v.spot c.cache ++ [temporaryName x]) (v.spot c.cache ++ [x]))

section Workers

variable {v : Volume} {c : Config} {urls : List Points}

/-- **The worker of an entry stays in the cache**, unless the entry is that of a single dot. -/
lemma Work.confined {url name : Points} (hurl : url ∈ urls) (hid : identifier url = .ok name)
    (htext : name.isText = true) (hdot : name.lossy ≠ ".") {ch : Change}
    (h : Work c v (entryPath c name) ch) : Confined v c urls ch := by
  have hentry := entryPath_of_ne c hid hdot
  have hparent : (entryPath c name).parent = c.cache := by
    rw [hentry, Path.parent, List.dropLast_concat]
  have hlast : (entryPath c name).name = name.lossy := by
    rw [hentry]
    exact name_eq rfl
  have hhidden : v.spot (hiddenPath (entryPath c name)) =
      v.spot c.cache ++ [temporaryName name.lossy] := by
    rw [spot_hiddenPath, hparent, hlast]
  have hname : identifier url = .ok (.ofString name.lossy) := by
    rw [hid, Points.ofString_lossy htext]
  cases h with
  | directory h => exact .directory (hparent ▸ h)
  | hidden hnames content =>
    rw [hhidden]
    exact .write hurl hname
  | moved hproper hapart =>
    rw [hhidden, hproper.spot_eq, hparent, hlast]
    exact .move hurl hname

end Workers

/-! ## What is different afterwards -/

/-- How a location may differ after a resolution: a directory is there where nothing was, which is
that of the cache or above it; or, in the directory of the cache and under the name of a fixture or
of its hidden file, something has come, changed or gone that is no directory before or after. -/
inductive Admitted (v w : Volume) (c : Config) (urls : List Points) : Location → Prop where
  | directory {q : Path} (h : Volume.Above c.cache q) (hbefore : v.node? (v.spot q) = none)
    (hafter : w.node? (v.spot q) = some .directory) : Admitted v w c urls (v.spot q)
  | file {url : Points} {x y : String} (hurl : url ∈ urls)
    (hname : identifier url = .ok (.ofString x)) (hy : y = x ∨ y = temporaryName x)
    (hbefore : v.node? (v.spot c.cache ++ [y]) ≠ some .directory)
    (hafter : w.node? (v.spot c.cache ++ [y]) ≠ some .directory) :
    Admitted v w c urls (v.spot c.cache ++ [y])

section Resolution

variable {v : Volume} {c : Config} {follow : Bool} {net : Network} {urls : List Points}

/-- Steps that stay in the cache leave differences that are admitted, if directories are made where
nothing was.

**Proof sketch.** A directory that is new was made by one of the steps; any other difference is at a
place of a write or a move, since only these touch places that are no directories in the end. -/
lemma admitted_of_confined {changes : List Change} (hlegal : Change.LegalAll v changes)
    (hconfined : ∀ ch ∈ changes, Confined v c urls ch)
    (hnew : ∀ l, .makeDirectory l ∈ changes → v.node? l = none) {l : Location}
    (hl : (Change.applyAll v changes).node? l ≠ v.node? l) :
    Admitted v (Change.applyAll v changes) c urls l := by
  have hbefore : v.node? l ≠ some .directory := fun h =>
    hl ((hlegal.later.directory l h).trans h.symm)
  by_cases hafter : (Change.applyAll v changes).node? l = some .directory
  · have hmem := hlegal.makeDirectory_mem hbefore hafter
    have hnone := hnew l hmem
    generalize hch : Change.makeDirectory l = ch at hmem
    cases hconfined ch hmem with
    | directory h =>
      cases hch
      exact .directory h hnone hafter
    | write hurl hname => cases hch
    | move hurl hname => cases hch
  · obtain ⟨ch, hch, hplace⟩ : ∃ ch ∈ changes, l ∈ ch.places := by
      by_contra hnone
      exact hl (hlegal.node?_of_notMem fun ch hch hmem => hnone ⟨ch, hch, hmem⟩)
    cases hconfined ch hch with
    | directory h =>
      rw [Change.places, List.mem_singleton] at hplace
      subst hplace
      exact absurd (hlegal.node?_of_makeDirectory hch) hafter
    | write hurl hname =>
      rw [Change.places, List.mem_singleton] at hplace
      subst hplace
      exact .file hurl hname (.inr rfl) hbefore hafter
    | move hurl hname =>
      rw [Change.places, List.mem_pair] at hplace
      rcases hplace with rfl | rfl
      · exact .file hurl hname (.inr rfl) hbefore hafter
      · exact .file hurl hname (.inl rfl) hbefore hafter

/-- **A resolution stays in the cache**, on all volumes, whatever the network, along every schedule
and however it ends, unless a URL names a fixture by a single dot. Each of its steps makes the
directory of the cache or one above it, writes the hidden file of a fixture of the list directly in
that directory, or moves it to the name of the fixture there. After it the volume differs in nothing
else: directories are new where nothing was, and no directory has gone or become a file. -/
theorem resolve_confined (hv : v.WellFormed)
    (hdot : ∀ url ∈ urls, identifier url ≠ .ok (.ofString ".")) {turns : List Turn} {p : Progress}
    {r : Except CacheAbort (List Bench.Fixture)}
    (h : resolveAlong c follow net turns (.ofVolume v) urls = (p, r)) :
    p.volume = Change.applyAll v p.changes ∧ Change.LegalAll v p.changes ∧
      (∀ ch ∈ p.changes, Confined v c urls ch) ∧
      ∀ l, p.volume.node? l ≠ v.node? l → Admitted v p.volume c urls l := by
  cases hcheck : checkUrls urls with
  | error abort =>
    rw [resolveAlong, hcheck] at h
    cases h
    exact ⟨rfl, trivial, fun ch hch => absurd hch List.not_mem_nil, fun l hl => absurd rfl hl⟩
  | ok named =>
    obtain ⟨last, hsited, rfl, -⟩ := exists_sited hv hcheck h
    obtain ⟨rfl, haccepted⟩ := checkUrls_eq_ok_iff.1 hcheck
    have hconfined : ∀ ch ∈ last.progress.changes, Confined v c (named.map Named.url) ch := by
      intro ch hch
      obtain ⟨n, hn, htext, hwork⟩ := hsited.works ch hch
      have hurl : n.url ∈ named.map Named.url := List.mem_map_of_mem hn
      have hid := haccepted.identifier n hn
      refine hwork.confined hurl hid htext fun hlossy => hdot _ hurl ?_
      rw [hid, ← Points.ofString_lossy htext, hlossy]
    have hnew : ∀ l, .makeDirectory l ∈ last.progress.changes → v.node? l = none := by
      intro l hl
      obtain ⟨m, hm, -, hmade⟩ := hsited.works _ hl
      refine hsited.legal.node?_eq_none hl fun s t hmove heq => ?_
      obtain ⟨n, -, -, hmoved⟩ := hsited.works _ hmove
      exact hmade.place_ne (seated_entryPath c (haccepted.identifier m hm)) hmoved heq.symm
    rw [hsited.volume_eq]
    exact ⟨rfl, hsited.legal, hconfined,
      fun l hl => admitted_of_confined hsited.legal hconfined hnew hl⟩

end Resolution

/-- Two fixtures that are fetched beside one that is there, both at the same time, are the only
difference. -/
theorem resolve_confined_sample :
    ∃ p r, resolveAlong sampleConfig false (sampleNetwork fun _ => 0) alternating
        (.ofVolume sampleVolume) sampleUrls = (p, r) ∧
      sampleVolume.node? ["t", "b"] = none ∧ p.volume.node? ["t", "b"] = some (.file [104, 105]) ∧
      ∀ l, p.volume.node? l ≠ sampleVolume.node? l →
        Admitted sampleVolume p.volume sampleConfig sampleUrls l := by
  obtain ⟨hurls, haccepted⟩ := checkUrls_eq_ok_iff.1 checkUrls_sampleUrls
  have hdot : ∀ url ∈ sampleUrls, identifier url ≠ .ok (.ofString ".") := by
    have hnames : ∀ n ∈ sampleNamed, n.name ≠ .ofString "." := by decide
    intro url hurl hid
    rw [← hurls] at hurl
    obtain ⟨n, hn, rfl⟩ := List.mem_map.1 hurl
    rw [haccepted.identifier n hn] at hid
    exact hnames n hn (Except.ok.inj hid)
  have hbefore : sampleVolume.node? ["t", "b"] = none := by decide
  have hafter : (resolveAlong sampleConfig false (sampleNetwork fun _ => 0) alternating
      (.ofVolume sampleVolume) sampleUrls).1.volume.node? ["t", "b"] = some (.file [104, 105]) := by
    decide +kernel
  generalize hrun : resolveAlong sampleConfig false (sampleNetwork fun _ => 0) alternating
    (.ofVolume sampleVolume) sampleUrls = run at hafter
  obtain ⟨p, r⟩ := run
  exact ⟨p, r, rfl, hbefore, hafter, (resolve_confined sampleVolume_wellFormed hdot hrun).2.2.2⟩

/-- The entry of a name of a single dot is the directory of the cache, and its hidden file lies
beside it. The file cannot be moved onto the directory and stays there. -/
theorem resolve_beside :
    checkUrls [.ofString "http://h/."] = .ok [⟨.ofString "http://h/.", .ofString "."⟩] ∧
      ∃ p r, resolve sampleConfig false (sampleNetwork fun _ => 0) (.ofVolume sampleVolume)
          [.ofString "http://h/."] = (p, r) ∧
        p.volume.node? [".t.tmp"] ≠ sampleVolume.node? [".t.tmp"] ∧
        ¬ Admitted sampleVolume p.volume sampleConfig [.ofString "http://h/."] [".t.tmp"] := by
  have hbefore : sampleVolume.node? [".t.tmp"] = none := by decide
  have hafter : (resolve sampleConfig false (sampleNetwork fun _ => 0) (.ofVolume sampleVolume)
      [.ofString "http://h/."]).1.volume.node? [".t.tmp"] = some (.file [104, 105]) := by
    decide +kernel
  have hcache : sampleVolume.spot sampleConfig.cache = ["t"] := by decide
  generalize resolve sampleConfig false (sampleNetwork fun _ => 0) (.ofVolume sampleVolume)
    [.ofString "http://h/."] = run at hafter
  obtain ⟨p, r⟩ := run
  refine ⟨by rfl, p, r, rfl, by simp [hbefore, hafter], fun hadmitted => ?_⟩
  generalize hl : [".t.tmp"] = l at hadmitted hafter
  cases hadmitted with
  | directory h hnone hdirectory =>
    rw [hdirectory] at hafter
    cases hafter
  | file hurl hname hy hfile hfile' =>
    rw [hcache] at hl
    have hlength := congrArg List.length hl
    simp at hlength

end ParseBench.Fixture
