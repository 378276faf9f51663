import ParseBench.Proofs.Fixture.Found

set_option relaxedAutoImplicit false
set_option autoImplicit false

/-!
# Resolving again

What a resolution returns has its entry in the cache then, along every schedule. To resolve it again
takes no requests and no changes, whatever the network and the schedule, and what was in the cache
before is returned as it was.

## Main results

* `ParseBench.Fixture.resolve_zero_refetch` — resolving again.
* `ParseBench.Fixture.resolve_entries` — the entries of what is returned.
* `ParseBench.Fixture.resolveAlong_hit` — an entry that is there is returned with its own text.
-/

namespace ParseBench.Fixture

open ParseBench.Bench (Config)
open ParseBench.Files
open ParseBench.Http (Network)
open ParseBench.Text (Points)

variable {c : Config} {follow : Bool} {net : Network} {v : Volume} {urls urls' : List Points}
  {turns : List Turn} {p : Progress} {fs : List Bench.Fixture}

/-! ## Lists of URLs -/

/-- The check accepts URLs whose names are known and differ. -/
lemma checkUrls_of_nodup {name : Points → Points}
    (hid : ∀ url ∈ urls, identifier url = .ok (name url)) (hnodup : (urls.map identifier).Nodup) :
    checkUrls urls = .ok (urls.map fun url => ⟨url, name url⟩) := by
  rw [checkUrls_eq_ok_iff]
  refine ⟨?_, ?_, ?_⟩
  · rw [List.map_map]
    exact List.map_id _
  · intro n hn
    obtain ⟨url, hurl, rfl⟩ := List.mem_map.1 hn
    exact hid url hurl
  · have hnames : urls.map identifier = (urls.map name).map .ok := by
      rw [List.map_map]
      exact List.map_congr_left hid
    rw [hnames] at hnodup
    rw [List.map_map]
    exact hnodup.of_map _

/-- What a list of URLs has returned is found under the names of the fixtures. -/
lemma found_of_resolveAlong (hv : v.WellFormed) (hhidden : Unhidden urls)
    (h : resolveAlong c follow net turns (.ofVolume v) urls = (p, .ok fs)) {f : Bench.Fixture}
    (hf : f ∈ fs) : look c p.volume (.ofString f.identifier) = .hit f.content := by
  obtain ⟨named, hcheck⟩ := checkUrls_of_resolveAlong h
  rw [resolveAlong_of_checkUrls hcheck] at h
  have hall := found_of_resolveNamedAlong (separate_of_checkUrls hcheck hhidden) hv h
  obtain ⟨i, hi, rfl⟩ := List.getElem_of_mem hf
  obtain ⟨hidentifier, hlook⟩ := hall.get (hall.length_eq ▸ hi) hi
  rw [List.get_eq_getElem, List.get_eq_getElem] at hidentifier hlook
  obtain ⟨b, hb, -⟩ := look_eq_hit_iff.1 hlook
  rw [hidentifier, Points.ofString_lossy (isText_of_readEntry hb)]
  exact hlook

/-- **Resolving what is found**, along any schedule: nothing is requested and nothing is changed,
and each fixture is returned once its task and all others have had two turns. So it is along the
prompt schedule. -/
lemma resolveAlong_found (follow : Bool) (net : Network) {name : Points → Points}
    {g : Points → String} (hid : ∀ url ∈ urls, identifier url = .ok (name url))
    (hnodup : (urls.map identifier).Nodup)
    (hfound : ∀ url ∈ urls, look c v (name url) = .hit (g url)) :
    (∀ turns p result, resolveAlong c follow net turns (.ofVolume v) urls = (p, result) →
      p.volume = v ∧ p.changes = [] ∧ requested p.events = [] ∧
        (result = .ok (urls.map fun url => ⟨(name url).lossy, g url⟩) ∨
          result = .error .endless ∧ ∃ i < urls.length, turns.countP (Turn.isOf i) < 2)) ∧
    ∃ p, resolve c follow net (.ofVolume v) urls =
      (p, .ok (urls.map fun url => ⟨(name url).lossy, g url⟩)) := by
  have hcheck := checkUrls_of_nodup hid hnodup
  have hfound' : ∀ n ∈ urls.map fun url => Named.mk url (name url),
      look c v n.name = .hit (g n.url) := by
    intro n hn
    obtain ⟨url, hurl, rfl⟩ := List.mem_map.1 hn
    exact hfound url hurl
  have hall : ∀ turns p result,
      resolveAlong c follow net turns (.ofVolume v) urls = (p, result) →
      p.volume = v ∧ p.changes = [] ∧ requested p.events = [] ∧
        (result = .ok (urls.map fun url => ⟨(name url).lossy, g url⟩) ∨
          result = .error .endless ∧ ∃ i < urls.length, turns.countP (Turn.isOf i) < 2) := by
    intro turns p result h
    rw [resolveAlong_of_checkUrls hcheck] at h
    obtain ⟨⟨es, hasked, rfl⟩, hresult⟩ := resolveNamedAlong_found hfound' h
    rw [List.map_map, List.length_map] at hresult
    exact ⟨rfl, rfl, hasked, hresult⟩
  refine ⟨hall, ?_⟩
  have hprompt : resolve c follow net (.ofVolume v) urls =
      resolveAlong c follow net (prompt c follow net (.ofVolume v) _) (.ofVolume v) urls :=
    resolve_eq_resolveAlong hcheck _
  generalize hrun : resolveAlong c follow net _ (.ofVolume v) urls = run at hprompt
  obtain ⟨p, result⟩ := run
  obtain ⟨-, -, -, rfl | ⟨-, i, hi, hlt⟩⟩ := hall _ _ _ hrun
  · exact ⟨p, hprompt⟩
  · rw [← length_of_checkUrls hcheck] at hi
    have hle := two_le_countP_prompt c follow net (.ofVolume v) hi
    omega

/-- **Resolving again.** Once a resolution has returned, any list of URLs that name different
fixtures among those returned is resolved to these very fixtures. Whatever the network and the
schedule, no requests are made and no changes, so that the volume stays as it is. The fixtures are
returned once each task has had two turns, and so they are along the prompt schedule. -/
theorem resolve_zero_refetch (hv : v.WellFormed) (hhidden : Unhidden urls)
    (h : resolveAlong c follow net turns (.ofVolume v) urls = (p, .ok fs))
    (hknown : ∀ url ∈ urls', ∃ f ∈ fs, identifier url = .ok (.ofString f.identifier))
    (hnodup : (urls'.map identifier).Nodup) (follow' : Bool) (net' : Network) :
    ∃ fs', List.Forall₂ (fun url f => f ∈ fs ∧ identifier url = .ok (.ofString f.identifier))
        urls' fs' ∧
      (∀ turns' p' result,
        resolveAlong c follow' net' turns' (.ofVolume p.volume) urls' = (p', result) →
          p'.volume = p.volume ∧ p'.changes = [] ∧ requested p'.events = [] ∧
            (result = .ok fs' ∨
              result = .error .endless ∧ ∃ i < urls'.length, turns'.countP (Turn.isOf i) < 2)) ∧
      ∃ p', resolve c follow' net' (.ofVolume p.volume) urls' = (p', .ok fs') := by
  have : Inhabited Bench.Fixture := ⟨⟨"", ""⟩⟩
  choose! g hg hid using hknown
  have hfound : ∀ url ∈ urls', look c p.volume (.ofString (g url).identifier) =
      .hit (g url).content :=
    fun url hurl => found_of_resolveAlong hv hhidden h (hg url hurl)
  refine ⟨_, ?_, resolveAlong_found follow' net' hid hnodup hfound⟩
  rw [List.forall₂_map_right_iff, List.forall₂_same]
  intro url hurl
  have heq : (⟨(Points.ofString (g url).identifier).lossy, (g url).content⟩ : Bench.Fixture) =
      g url := by
    rw [Points.lossy_ofString]
  rw [heq]
  exact ⟨hg url hurl, hid url hurl⟩

/-- Fixtures that were fetched at the same time; one of them is found under another URL, whose host
never answers. -/
theorem resolve_zero_refetch_elsewhere :
    ∃ p p', resolveAlong sampleConfig false (sampleNetwork fun _ => 0) alternating
        (.ofVolume sampleVolume) sampleUrls =
          (p, .ok [⟨"a", "x"⟩, ⟨"b", "hi"⟩, ⟨"c", "hi"⟩]) ∧
      resolve sampleConfig true (fun _ => ⟨.never, .ok ⟨200, [], none, none⟩⟩) (.ofVolume p.volume)
        [.ofString "http://g/d/c"] = (p', .ok [⟨"c", "hi"⟩]) := by
  have hresult : (resolveAlong sampleConfig false (sampleNetwork fun _ => 0) alternating
      (.ofVolume sampleVolume) sampleUrls).2.toOption =
        some [⟨"a", "x"⟩, ⟨"b", "hi"⟩, ⟨"c", "hi"⟩] := by
    decide +kernel
  have hrun := eq_of_toOption hresult
  generalize (resolveAlong sampleConfig false (sampleNetwork fun _ => 0) alternating
    (.ofVolume sampleVolume) sampleUrls).1 = p at hrun
  have hid : identifier (.ofString "http://g/d/c") = .ok (.ofString "c") := by rfl
  have hknown : ∀ url ∈ [Points.ofString "http://g/d/c"],
      ∃ f ∈ [(⟨"a", "x"⟩ : Bench.Fixture), ⟨"b", "hi"⟩, ⟨"c", "hi"⟩],
        identifier url = .ok (.ofString f.identifier) := by
    intro url hurl
    rw [List.mem_singleton.1 hurl]
    exact ⟨⟨"c", "hi"⟩, by simp, hid⟩
  have hnodup : ([Points.ofString "http://g/d/c"].map identifier).Nodup := List.nodup_singleton _
  obtain ⟨fs', hall, -, p', hrun'⟩ := resolve_zero_refetch sampleVolume_wellFormed
    unhidden_sampleUrls hrun hknown hnodup true (fun _ => ⟨.never, .ok ⟨200, [], none, none⟩⟩)
  obtain ⟨f, fs, ⟨hf, hid'⟩, hnil, rfl⟩ := List.forall₂_cons_left_iff.1 hall
  rw [List.forall₂_nil_left_iff] at hnil
  subst hnil
  rw [hid, Except.ok.injEq] at hid'
  have hname := congrArg Points.lossy hid'
  rw [Points.lossy_ofString, Points.lossy_ofString] at hname
  have heq : f = ⟨"c", "hi"⟩ := by
    simp only [List.mem_cons, List.not_mem_nil, or_false] at hf
    rcases hf with rfl | rfl | rfl
    · exact absurd hname (by decide)
    · exact absurd hname (by decide)
    · rfl
  exact ⟨p, p', hrun, heq ▸ hrun'⟩

/-! ## Entries -/

/-- **The entries of a resolution.** Once a resolution has returned, the entry of each fixture is
there and holds its content in UTF-8, whatever the schedule was. No URL of the list may name a
fixture like the hidden file of another, for then the entry of the one is in the place where the
other is written first. -/
theorem resolve_entries (hv : v.WellFormed) (hhidden : Unhidden urls)
    (h : resolveAlong c follow net turns (.ofVolume v) urls = (p, .ok fs)) :
    List.Forall₂ (fun url f => identifier url = .ok (.ofString f.identifier) ∧
      p.volume.read (c.cache.child f.identifier) = .ok (Text.Utf8.encode f.content)) urls fs := by
  have hall := (List.forall₂_and_left _ _).2
    ⟨fun f hf => found_of_resolveAlong hv hhidden h hf, (resolveAlong_names hv h).flip⟩
  refine hall.flip.imp fun url f hf => ?_
  obtain ⟨hlook, hid⟩ := hf
  obtain ⟨b, hb, hdecode⟩ := look_eq_hit_iff.1 hlook
  rw [readEntry_of_isText c _ (Points.isText_ofString _), entryPath, Points.lossy_ofString] at hb
  exact ⟨hid, by rw [hb, Text.Utf8.encode_of_decode hdecode]⟩

/-- One entry was there and two were stored at the same time; all of them are there in the end. -/
theorem resolve_entries_mixed :
    ∃ p, resolveAlong sampleConfig false (sampleNetwork fun _ => 0) alternating
        (.ofVolume sampleVolume) sampleUrls =
          (p, .ok [⟨"a", "x"⟩, ⟨"b", "hi"⟩, ⟨"c", "hi"⟩]) ∧
      p.volume.read (sampleConfig.cache.child "a") = .ok (Text.Utf8.encode "x") ∧
      p.volume.read (sampleConfig.cache.child "c") = .ok (Text.Utf8.encode "hi") := by
  have hresult : (resolveAlong sampleConfig false (sampleNetwork fun _ => 0) alternating
      (.ofVolume sampleVolume) sampleUrls).2.toOption =
        some [⟨"a", "x"⟩, ⟨"b", "hi"⟩, ⟨"c", "hi"⟩] := by
    decide +kernel
  have hrun := eq_of_toOption hresult
  generalize (resolveAlong sampleConfig false (sampleNetwork fun _ => 0) alternating
    (.ofVolume sampleVolume) sampleUrls).1 = p at hrun
  have hall := resolve_entries sampleVolume_wellFormed unhidden_sampleUrls hrun
  obtain ⟨⟨-, ha⟩, hall⟩ := List.forall₂_cons.1 hall
  obtain ⟨-, hall⟩ := List.forall₂_cons.1 hall
  obtain ⟨⟨-, hc⟩, -⟩ := List.forall₂_cons.1 hall
  exact ⟨p, hrun, ha, hc⟩

/-- Of two fixtures that are named like an entry and its hidden file, both are returned, but only
one has an entry in the end. -/
theorem resolve_entry_lost :
    ∃ p, resolve sampleConfig false (sampleNetwork fun _ => 0) (.ofVolume sampleVolume)
        [.ofString "http://h/.b.tmp", .ofString "http://h/b"] =
          (p, .ok [⟨".b.tmp", "hi"⟩, ⟨"b", "hi"⟩]) ∧
      (∀ b, p.volume.read (sampleConfig.cache.child ".b.tmp") ≠ .ok b) := by
  have hresult : (resolve sampleConfig false (sampleNetwork fun _ => 0) (.ofVolume sampleVolume)
      [.ofString "http://h/.b.tmp", .ofString "http://h/b"]).2.toOption =
        some [⟨".b.tmp", "hi"⟩, ⟨"b", "hi"⟩] := by
    decide +kernel
  have hlost : ((resolve sampleConfig false (sampleNetwork fun _ => 0) (.ofVolume sampleVolume)
      [.ofString "http://h/.b.tmp", .ofString "http://h/b"]).1.volume.read
        (sampleConfig.cache.child ".b.tmp")).toOption = none := by
    decide +kernel
  have hrun := eq_of_toOption hresult
  generalize (resolve sampleConfig false (sampleNetwork fun _ => 0) (.ofVolume sampleVolume)
    [.ofString "http://h/.b.tmp", .ofString "http://h/b"]).1 = p at hrun hlost
  refine ⟨p, hrun, fun b hb => ?_⟩
  rw [hb] at hlost
  cases hlost

/-! ## Entries that are there -/

section Hit

variable {url : Points} {name content : String} {b : Text.Bytes}

/-- An entry that can be read and decoded is found. -/
lemma look_of_decode (hread : v.read (c.cache.child name) = .ok b)
    (hdecode : Text.Utf8.decode b = .ok content) : look c v (.ofString name) = .hit content := by
  rw [look_eq_hit_iff, readEntry_of_isText c v (Points.isText_ofString name), entryPath,
    Points.lossy_ofString]
  exact ⟨b, hread, hdecode⟩

/-- **An entry that is there is returned with its own text**, whatever other URLs are resolved and
along every schedule. -/
lemma resolveAlong_hit (hv : v.WellFormed) (hurl : url ∈ urls)
    (hid : identifier url = .ok (.ofString name))
    (hhidden : ∀ url' ∈ urls, ∀ n, identifier url' = .ok n → .ofString name ≠ hiddenName n)
    (hread : v.read (c.cache.child name) = .ok b) (hdecode : Text.Utf8.decode b = .ok content)
    (h : resolveAlong c follow net turns (.ofVolume v) urls = (p, .ok fs)) :
    List.Forall₂ (fun url' f => url' = url → f = ⟨name, content⟩) urls fs := by
  obtain ⟨named, hcheck⟩ := checkUrls_of_resolveAlong h
  rw [resolveAlong_of_checkUrls hcheck] at h
  obtain ⟨m, hm, rfl, hname⟩ := exists_named hcheck hurl hid
  obtain ⟨rfl, haccepted⟩ := checkUrls_eq_ok_iff.1 hcheck
  have hlook : look c v m.name = .hit content := by
    rw [hname]
    exact look_of_decode hread hdecode
  have hhidden' : ∀ n ∈ named, m.name ≠ hiddenName n.name := by
    intro n hn
    rw [hname]
    exact hhidden n.url (List.mem_map_of_mem hn) n.name (haccepted.identifier n hn)
  have hall := (List.forall₂_and_left _ _).2
    ⟨fun n hn => hn, kept_of_resolveNamedAlong haccepted hv hm hhidden' hlook h⟩
  rw [List.forall₂_map_left_iff]
  refine hall.imp fun n f hnf hnm => ?_
  obtain ⟨hn, hf⟩ := hnf
  have hsame : n.name = m.name := by
    have hids := (haccepted.identifier n hn).symm.trans (hnm ▸ haccepted.identifier m hm)
    exact Except.ok.inj hids
  rw [hf (haccepted.eq_of_name hn hm hsame), hname, Points.lossy_ofString]

/-- An entry that is there and is resolved alone is returned, whatever the network does. -/
lemma resolve_hit_alone (follow : Bool) (net : Network)
    (hid : identifier url = .ok (.ofString name)) (hread : v.read (c.cache.child name) = .ok b)
    (hdecode : Text.Utf8.decode b = .ok content) :
    ∃ p, resolve c follow net (.ofVolume v) [url] = (p, .ok [⟨name, content⟩]) := by
  have hid' : ∀ url' ∈ [url], identifier url' = .ok (.ofString name) := by simpa using hid
  have hlook : ∀ url' ∈ [url], look c v (.ofString name) = .hit content :=
    fun _ _ => look_of_decode hread hdecode
  obtain ⟨-, p, hrun⟩ :=
    resolveAlong_found (g := fun _ => content) follow net hid' (List.nodup_singleton _) hlook
  rw [List.map_singleton, Points.lossy_ofString] at hrun
  exact ⟨p, hrun⟩

end Hit

end ParseBench.Fixture
