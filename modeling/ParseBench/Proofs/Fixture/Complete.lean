import ParseBench.Proofs.Fixture.Weave

set_option relaxedAutoImplicit false
set_option autoImplicit false

/-!
# What workers leave

Where the entries of all texts are in place, the volume is determined by them, and nothing was in
their way before. While workers store entries, nothing comes in the way of those that are left, so
that they can be stored by a later resolution, which leaves the same in the end.

## Main definitions

* `ParseBench.Fixture.wanted` — the texts that are to be stored.

## Main results

* `ParseBench.Fixture.Between.resolvable` — nothing comes in the way of the fixtures that are left.
* `ParseBench.Fixture.Between.complete` — what is where once all texts are stored.
* `ParseBench.Fixture.Between.overlay` — what is where if they are stored in two goes.
* `ParseBench.Fixture.hidden_of_overlay` — no hidden file is left.
-/

namespace ParseBench.Fixture

open ParseBench.Bench (Config)
open ParseBench.Files
open ParseBench.Http (Network)
open ParseBench.Text (Bytes Points)

variable {c : Config} {follow : Bool} {net : Network} {v u w : Volume} {named : List Named}
  {a b : Attempt} {n : Named}

/-! ## The texts of a list of fixtures -/

/-- The texts that are to be stored of a list of fixtures. -/
def wanted (c : Config) (follow : Bool) (net : Network) (v : Volume) (named : List Named) :
    List Attempt :=
  (missing c v named).filterMap fun n =>
    match (Http.fetch follow net n.url).result? with
    | some (.ok content) => some ⟨n, content, .ok ()⟩
    | _ => none

/-- **The texts that are to be stored** are those that are wanted. -/
lemma mem_wanted_iff : a ∈ wanted c follow net v named ↔ Wanted c follow net v named a := by
  rw [wanted, List.mem_filterMap]
  constructor
  · rintro ⟨n, hn, h⟩
    obtain ⟨hmem, hmiss⟩ := mem_missing_iff.1 hn
    split at h
    · next content hfetch =>
      cases h
      exact ⟨hmem, hmiss, hfetch, rfl⟩
    · cases h
  · intro h
    refine ⟨a.named, mem_missing_iff.2 ⟨h.mem, h.missing⟩, ?_⟩
    rw [h.fetched]
    obtain ⟨n, content, result⟩ := a
    obtain rfl : result = .ok () := h.result
    rfl

/-- A fixture that is wanted was missing. -/
lemma Wanted.mem_missing (h : Wanted c follow net v named a) :
    a.named ∈ Fixture.missing c v named :=
  mem_missing_iff.2 ⟨h.mem, h.missing⟩

/-! ## Nothing comes in the way -/

/-- Of the fixtures that are missing, one by the name of a single dot is the only one. -/
def Alone (c : Config) (v : Volume) (named : List Named) : Prop :=
  ∀ m ∈ missing c v named, ∀ n ∈ missing c v named, m.name.lossy = "." → m = n

/-- The entry of one of the missing fixtures is not on the way to the directory of another. -/
lemma Alone.not_above (hc : Compatible c named) (halone : Alone c v named)
    (ha : Wanted c follow net v named a) (hn : n ∈ missing c v named)
    (hnames : (a.entry c).names ≠ []) :
    ¬ v.locate (a.entry c) <+: v.locate (entryPath c n.name).parent := by
  have hid := hc.accepted.identifier _ ha.mem
  have hid' := hc.accepted.identifier n (mem_missing_iff.1 hn).1
  intro h
  by_cases hdot : a.named.name.lossy = "."
  · rw [← halone _ ha.mem_missing n hn hdot, ← Attempt.entry, locate_entry v hnames] at h
    exact concat_not_above _ _ h
  · have hdot' : n.name.lossy ≠ "." := by
      intro hdot'
      exact hdot (by rw [← halone n hn _ ha.mem_missing hdot', hdot'])
    rw [Attempt.entry, locate_of_ne v hid hdot, locate_parent_of_ne v hid' hdot'] at h
    exact concat_not_above _ _ h

/-- Two of the missing fixtures are apart. -/
lemma Alone.apart (hc : Compatible c named) (halone : Alone c v named)
    (ha : Wanted c follow net v named a) (hb : Wanted c follow net v named b)
    (hne : a.named ≠ b.named) : Apart a.named b.named :=
  hc.apart ha.mem hb.mem (ha.for_named hc).2 (hb.for_named hc).2 hne
    (fun hdot => hne (halone _ ha.mem_missing _ hb.mem_missing hdot))
    (fun hdot => hne (halone _ hb.mem_missing _ ha.mem_missing hdot).symm)

/-- A location on the way to the directory of a missing fixture is as it was, or it is a new
directory. -/
lemma Between.above (hc : Compatible c named) (h : Between c follow net v named u)
    (halone : Alone c v named) (hn : n ∈ missing c v named) (htext : n.name.isText = true)
    {l : Location} (hl : l <+: v.locate (entryPath c n.name).parent) :
    u.node? l = v.node? l ∨
      v.node? l = none ∧ v.refusals.makes l = none ∧ u.node? l = some .directory := by
  rcases h.changed l with heq | ⟨a, ha, hchanged⟩
  · exact .inl heq
  · cases hchanged with
    | directory _ hnone hallowed hmade => exact .inr ⟨hnone, hallowed, hmade⟩
    | hidden hnames _ =>
      have hfor : (⟨n, "", .ok ()⟩ : Attempt).For named := ⟨(mem_missing_iff.1 hn).1, htext⟩
      exact absurd hl (hc.hidden_not_above (ha.for_named hc) hfor hnames v)
    | entry hstored => exact absurd hl (halone.not_above hc ha hn hstored.names)

/-- No directory comes in the place of a file of a missing fixture. -/
lemma Between.not_directory (h : Between c follow net v named u) {l : Location}
    (hplace : v.node? l ≠ some .directory)
    (habove : ∀ a, Wanted c follow net v named a → ¬ l <+: v.locate (a.entry c).parent) :
    u.node? l ≠ some .directory := by
  rcases h.changed l with heq | ⟨a, ha, hchanged⟩
  · rwa [heq]
  · cases hchanged with
    | directory hpre _ _ _ => exact absurd hpre (habove a ha)
    | hidden _ hfree => exact hfree
    | entry hstored =>
      rw [hstored.entry]
      simp

/-- Nothing comes in the way of a text that is still to be stored. -/
lemma Between.storable (hc : Compatible c named) (h : Between c follow net v named u)
    (halone : Alone c v named) (ha : Wanted c follow net v named a)
    (hs : Storable v (a.entry c) a.data) : Storable u (a.entry c) a.data := by
  have ha' := ha.for_named hc
  have habove : ∀ l, l <+: v.locate (a.entry c).parent → u.node? l = v.node? l ∨
      v.node? l = none ∧ v.refusals.makes l = none ∧ u.node? l = some .directory :=
    fun l hl => h.above hc halone ha.mem_missing ha'.2 hl
  refine hs.of_node? h.later.current.symm h.later.refusals.symm ?_ ?_ ?_ ?_
  · intro l hl content
    rcases habove l hl with heq | ⟨-, -, hmade⟩
    · rw [heq]
      exact hs.free l hl content
    · simp [hmade]
  · intro l hl hnone
    rcases habove l hl with heq | ⟨-, hallowed, -⟩
    · exact hs.allowed l hl (heq ▸ hnone)
    · exact hallowed
  · exact h.not_directory hs.hidden fun b hb =>
      hc.hidden_not_above ha' (hb.for_named hc) hs.names v
  · exact h.not_directory hs.entry fun b hb =>
      halone.not_above hc ha hb.mem_missing hs.names

/-- **What is wanted on the way** are the texts that are not in place yet. -/
lemma Between.wanted_iff (hc : Compatible c named) (hv : v.WellFormed)
    (h : Between c follow net v named u) :
    Wanted c follow net u named a ↔ Wanted c follow net v named a ∧ ¬ Stored c v u a := by
  constructor
  · intro ha
    rcases h.content?_eq hc hv ha.mem with heq | ⟨b, hb, hname, hstored⟩
    · have hwanted : Wanted c follow net v named a :=
        ⟨ha.mem, look_eq_of_content? heq ▸ ha.missing, ha.fetched, ha.result⟩
      refine ⟨hwanted, fun hstored => ?_⟩
      have hcontent := hstored.content?_eq hc h.wellFormed h.later (hwanted.for_named hc)
      rw [content?_of_miss ha.missing] at hcontent
      cases hcontent
    · have hcontent := hstored.content?_eq hc h.wellFormed h.later (hb.for_named hc)
      rw [hname, content?_of_miss ha.missing] at hcontent
      cases hcontent
  · rintro ⟨ha, hpending⟩
    refine ⟨ha.mem, ?_, ha.fetched, ha.result⟩
    rcases h.content?_eq hc hv ha.mem with heq | ⟨b, hb, hname, hstored⟩
    · rw [look_eq_of_content? heq]
      exact ha.missing
    · exact absurd (hb.unique ha hname ▸ hstored) hpending

/-- What is found in the place of a fixture, while workers store entries. -/
lemma Between.look_eq (hc : Compatible c named) (hv : v.WellFormed)
    (h : Between c follow net v named u) (hn : n ∈ named) :
    look c u n.name = look c v n.name ∨
      ∃ a, Wanted c follow net v named a ∧ a.named = n ∧ Stored c v u a ∧
        look c u n.name = .hit a.content := by
  rcases h.content?_eq hc hv hn with heq | ⟨a, ha, rfl, hstored⟩
  · exact .inl (look_eq_of_content? heq)
  · have hcontent := hstored.content?_eq hc h.wellFormed h.later (ha.for_named hc)
    exact .inr ⟨a, ha, rfl, hstored, look_of_readEntry (content?_eq_some_iff.1 hcontent)⟩

/-- A fixture has to be the same on the way as before. -/
lemma Between.isFixture (hc : Compatible c named) (hv : v.WellFormed)
    (h : Between c follow net v named u) (hn : n ∈ named) {f : Bench.Fixture}
    (hf : IsFixture c follow net v n f) : IsFixture c follow net u n f := by
  refine ⟨hf.identifier, ?_⟩
  rcases h.look_eq hc hv hn with heq | ⟨a, ha, rfl, -, hhit⟩
  · rw [heq]
    exact hf.content
  · left
    rcases hf.content with hhit' | ⟨-, hfetch⟩
    · simp [ha.missing] at hhit'
    · have hcontent : a.content = f.content := by
        rw [ha.fetched] at hfetch
        simpa using hfetch
      rw [← hcontent]
      exact hhit

/-- **Nothing comes in the way of the fixtures that are left** while workers store entries. -/
lemma Between.resolvable (hc : Compatible c named) (hv : v.WellFormed)
    (h : Between c follow net v named u) (hr : Resolvable c follow net v named) :
    Resolvable c follow net u named := by
  refine ⟨fun n hn => ?_, fun m hm n hn hdot => ?_⟩
  · rcases h.look_eq hc hv hn with heq | ⟨a, ha, rfl, -, hhit⟩
    · rcases hr.each n hn with ⟨content, hhit⟩ | ⟨hmiss, content, hfetch, hs⟩
      · exact .inl ⟨content, heq.trans hhit⟩
      · refine .inr ⟨heq.trans hmiss, content, hfetch, ?_⟩
        have ha : Wanted c follow net v named ⟨n, content, .ok ()⟩ := ⟨hn, hmiss, hfetch, rfl⟩
        have hs' := h.storable hc hr.alone ha hs
        exact hs'
    · exact .inl ⟨a.content, hhit⟩
  · have hback : ∀ {n}, n ∈ missing c u named → n ∈ missing c v named := by
      intro n hn
      obtain ⟨hn, hmiss⟩ := mem_missing_iff.1 hn
      rcases h.look_eq hc hv hn with heq | ⟨a, -, -, -, hhit⟩
      · exact mem_missing_iff.2 ⟨hn, heq ▸ hmiss⟩
      · simp [hhit] at hmiss
    exact hr.alone m (hback hm) n (hback hn) hdot

/-! ## All texts are stored -/

/-- Above an entry that is in place there are directories. -/
lemma Stored.above (hu : u.WellFormed) (h : Stored c v u a) {l : Location}
    (hl : l <+: v.locate (a.entry c).parent) : u.node? l = some .directory := by
  obtain ⟨rest, hrest⟩ := hl
  have hdirectory := h.directory
  rw [← hrest] at hdirectory
  by_cases hnil : rest = []
  · simpa [hnil] using hdirectory
  · exact hu.directory_of_append hnil (by simp [hdirectory])

/-- Nothing was in the way of an entry that is in place. -/
lemma Between.storable_of_stored (h : Between c follow net v named u) (hstored : Stored c v u a) :
    Storable v (a.entry c) a.data := by
  have hmade : ∀ l, l <+: v.locate (a.entry c).parent → v.node? l = some .directory ∨
      v.node? l = none ∧ v.refusals.makes l = none := by
    intro l hl
    have hdirectory := hstored.above h.wellFormed hl
    rcases h.changed l with heq | ⟨b, hb, hchanged⟩
    · exact .inl (heq ▸ hdirectory)
    · cases hchanged with
      | directory _ hnone hallowed _ => exact .inr ⟨hnone, hallowed⟩
      | hidden _ hfree => exact absurd hdirectory hfree
      | entry hb' => exact absurd hdirectory (by simp [hb'.entry])
  refine ⟨hstored.names, hstored.dots, hstored.fits, fun l hl content => ?_, fun l hl hnone => ?_,
    fun hdirectory => ?_, hstored.permitted, fun hdirectory => ?_⟩
  · rcases hmade l hl with hdirectory | ⟨hnone, -⟩
    · simp [hdirectory]
    · simp [hnone]
  · rcases hmade l hl with hdirectory | ⟨-, hallowed⟩
    · simp [hdirectory] at hnone
    · exact hallowed
  · simpa [hstored.hidden] using h.later.directory _ hdirectory
  · simpa [hstored.entry] using h.later.directory _ hdirectory

/-- **What is where once all texts are stored**: the entries, on top of the volume before; and
nothing was in their way.

**Proof sketch.** Between the two volumes, each location is as before or was changed for a text that
was to be stored; if all of these are in place, what is where is told by them, and nothing else has
changed. -/
lemma Between.complete (hc : Compatible c named) (h : Between c follow net v named u)
    (hall : ∀ n ∈ named, (∃ content, look c v n.name = .hit content) ∨
      ∃ a, Wanted c follow net v named a ∧ a.named = n ∧ Stored c v u a) :
    Resolvable c follow net v named ∧ Overlay c v (wanted c follow net v named) u := by
  have hstored : ∀ n ∈ missing c v named,
      ∃ a, Wanted c follow net v named a ∧ a.named = n ∧ Stored c v u a := by
    intro n hn
    obtain ⟨hn, hmiss⟩ := mem_missing_iff.1 hn
    rcases hall n hn with ⟨content, hhit⟩ | hstored
    · simp [hhit] at hmiss
    · exact hstored
  have hwanted : ∀ a ∈ wanted c follow net v named, Stored c v u a := by
    intro a ha
    have ha := mem_wanted_iff.1 ha
    obtain ⟨b, hb, hname, hb'⟩ := hstored _ ha.mem_missing
    rwa [hb.unique ha hname] at hb'
  refine ⟨⟨fun n hn => ?_, fun m hm n hn hdot => ?_⟩, h.later.current.symm, h.later.refusals.symm,
    fun a ha => (hwanted a ha).entry, fun a ha => (hwanted a ha).hidden,
    fun a ha l hl => (hwanted a ha).above h.wellFormed hl, fun l hl => ?_⟩
  · rcases hall n hn with hhit | ⟨a, ha, rfl, ha'⟩
    · exact .inl hhit
    · exact .inr ⟨ha.missing, a.content, ha.fetched, h.storable_of_stored ha'⟩
  · -- the directory of the cache cannot be a file and hold another entry
    obtain ⟨a, ha, rfl, ha'⟩ := hstored m hm
    obtain ⟨b, hb, rfl, hb'⟩ := hstored n hn
    by_contra hne
    have hdot' : b.named.name.lossy ≠ "." := by
      intro hdot'
      refine hne (hc.accepted.eq_of_name ha.mem hb.mem ?_)
      exact Points.lossy_injective (ha.for_named hc).2 (hb.for_named hc).2 (hdot.trans hdot'.symm)
    have hfile := ha'.entry
    have hdirectory := hb'.directory
    rw [Attempt.entry, locate_dot v hdot] at hfile
    rw [Attempt.entry, locate_parent_of_ne v (hc.accepted.identifier _ hb.mem) hdot', hfile]
      at hdirectory
    cases hdirectory
  · rcases h.changed l with heq | ⟨a, ha, hchanged⟩
    · exact heq
    · have hl := hl a (mem_wanted_iff.2 ha)
      cases hchanged with
      | directory habove _ _ _ => exact absurd habove hl.above
      | hidden _ _ => exact absurd rfl hl.hidden
      | entry _ => exact absurd rfl hl.entry

/-! ## Two goes -/

/-- **What is where if the texts are stored in two goes**, with others in between under way.

**Proof sketch.** The texts that are in place after the first go are apart from those that are left,
and the second go does not touch their places, apart from the directory that they share. -/
lemma Between.overlay (hc : Compatible c named) (hv : v.WellFormed)
    (h : Between c follow net v named u) (halone : Alone c v named)
    (hdropped : Overlay c u (wanted c follow net u named) w) :
    Overlay c v (wanted c follow net v named) w := by
  have hlocate := h.later.locate
  have hleft : ∀ b, b ∈ wanted c follow net u named ↔
      Wanted c follow net v named b ∧ ¬ Stored c v u b :=
    fun b => mem_wanted_iff.trans (h.wanted_iff hc hv)
  -- what the second go does not touch, in terms of the volume before both
  have hkeep : ∀ l, (∀ b ∈ wanted c follow net u named, Untouched v (b.entry c) l) →
      w.node? l = u.node? l := by
    intro l hl
    refine hdropped.elsewhere l fun b hb => ?_
    obtain ⟨hentry, hhidden, habove⟩ := hl b hb
    exact ⟨by rwa [hlocate], by rwa [hlocate], by rwa [hlocate]⟩
  have hplaces : ∀ a, Wanted c follow net v named a → Stored c v u a →
      ∀ b ∈ wanted c follow net u named,
        v.locate (a.entry c).parent = v.locate (b.entry c).parent ∧
        Untouched v (b.entry c) (v.locate (a.entry c)) ∧
        Untouched v (b.entry c) (v.locate (hiddenPath (a.entry c))) := by
    intro a ha hstored b hb
    obtain ⟨hb, hpending⟩ := (hleft b).1 hb
    have hne : a.named ≠ b.named := fun heq => hpending (ha.unique hb heq ▸ hstored)
    exact hc.untouched ha.mem hb.mem (halone.apart hc ha hb hne) v
  refine ⟨hdropped.current.trans h.later.current.symm, hdropped.refusals.trans h.later.refusals.symm,
    ?_, ?_, ?_, ?_⟩
  · intro a ha
    have ha := mem_wanted_iff.1 ha
    by_cases hstored : Stored c v u a
    · rw [hkeep _ fun b hb => (hplaces a ha hstored b hb).2.1]
      exact hstored.entry
    · rw [← hlocate]
      exact hdropped.entry a ((hleft a).2 ⟨ha, hstored⟩)
  · intro a ha
    have ha := mem_wanted_iff.1 ha
    by_cases hstored : Stored c v u a
    · rw [hkeep _ fun b hb => (hplaces a ha hstored b hb).2.2]
      exact hstored.hidden
    · rw [← hlocate]
      exact hdropped.hidden a ((hleft a).2 ⟨ha, hstored⟩)
  · intro a ha l hl
    have ha := mem_wanted_iff.1 ha
    by_cases hstored : Stored c v u a
    · by_cases hnil : wanted c follow net u named = []
      · rw [hkeep l (by simp [hnil])]
        exact hstored.above h.wellFormed hl
      · obtain ⟨b, hb⟩ := List.exists_mem_of_ne_nil _ hnil
        refine hdropped.above b hb l ?_
        rw [hlocate, ← (hplaces a ha hstored b hb).1]
        exact hl
    · refine hdropped.above a ((hleft a).2 ⟨ha, hstored⟩) l ?_
      rwa [hlocate]
  · intro l hl
    rw [hkeep l fun b hb => hl b (mem_wanted_iff.2 ((hleft b).1 hb).1)]
    rcases h.changed l with heq | ⟨a, ha, hchanged⟩
    · exact heq
    · have hl := hl a (mem_wanted_iff.2 ha)
      cases hchanged with
      | directory habove _ _ _ => exact absurd habove hl.above
      | hidden _ _ => exact absurd rfl hl.hidden
      | entry _ => exact absurd rfl hl.entry

/-! ## Hidden files -/

/-- A fixture that is found or wanted has an ordinary name, and its entry has a path. -/
lemma entry_of_resolvable (hc : Compatible c named) (hv : v.WellFormed)
    (h : Resolvable c follow net v named) (hn : n ∈ named) :
    n.name.isText = true ∧ (entryPath c n.name).names ≠ [] := by
  rcases h.each n hn with ⟨content, hhit⟩ | ⟨-, content, hfetch, hs⟩
  · obtain ⟨bytes, hread, -⟩ := look_eq_hit_iff.1 hhit
    refine ⟨isText_of_readEntry hread, fun hnames => ?_⟩
    have hfile := ((readEntry_eq_ok_iff hv hc.dots (hc.accepted.identifier n hn)).1 hread).2
    rw [Volume.locate, hnames, List.append_nil, hv.origin] at hfile
    cases hfile
  · exact ⟨isText_of_fetch (hc.accepted.identifier n hn) hfetch, hs.names⟩

/-- **No hidden file is left** once all texts are stored, apart from those of fixtures that were
found. -/
lemma hidden_of_overlay (hc : Compatible c named) (hv : v.WellFormed)
    (hr : Resolvable c follow net v named) (hdropped : Overlay c v (wanted c follow net v named) w)
    (hn : n ∈ named) {content : Bytes}
    (hfile : w.node? (v.locate (hiddenPath (entryPath c n.name))) = some (.file content)) :
    v.node? (v.locate (hiddenPath (entryPath c n.name))) = some (.file content) := by
  obtain ⟨htext, hnames⟩ := entry_of_resolvable hc hv hr hn
  rcases hdropped.file_cases hfile with hbefore | ⟨a, ha, heq⟩
  · exact hbefore
  · have ha := mem_wanted_iff.1 ha
    have hfor : (⟨n, "", .ok ()⟩ : Attempt).For named := ⟨hn, htext⟩
    exact absurd heq.symm (hc.entry_ne_hidden hfor ha.mem (ha.for_named hc).2 hnames v)

end ParseBench.Fixture
