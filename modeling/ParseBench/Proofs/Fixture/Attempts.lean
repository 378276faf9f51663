import ParseBench.Proofs.Fixture.Entry

set_option relaxedAutoImplicit false
set_option autoImplicit false

/-!
# Storing several entries

Along the prompt schedule the steps of a resolution are those of the attempts to store fixtures, one
after the other. An attempt does not touch the entries of other fixtures, so that what is where in
the end does not depend on the order of the attempts, and a stop at any point leaves each entry as
it was or complete. Attempts that overlap are compared with these.

## Main definitions

* `ParseBench.Fixture.Separate`, `ParseBench.Fixture.Compatible` — fixtures that do not get into
  each other's way.
* `ParseBench.Fixture.Attempt`, `ParseBench.Fixture.Stores` — attempts to store fixtures and their
  steps.
* `ParseBench.Fixture.Clear` — nothing is in the way of any of several entries.
* `ParseBench.Fixture.Overlay` — a volume with entries stored on top of another.

## Main results

* `ParseBench.Fixture.Stores.content?_stopped` — what attempts leave that are stopped at any point.
* `ParseBench.Fixture.Stores.content?_stored` — an entry that was stored stays.
* `ParseBench.Fixture.Stores.clear`, `ParseBench.Fixture.Stores.result_ok` — attempts succeed
  exactly if nothing is in the way.
* `ParseBench.Fixture.Overlay.of_store` — what is where after an attempt that succeeded.
-/

namespace ParseBench.Fixture

open ParseBench.Bench (Config)
open ParseBench.Files
open ParseBench.Text (Bytes Points)

/-! ## Compatible fixtures -/

/-- Fixtures that do not get into each other's way: their names were checked, and none has the name
of the hidden file of another. -/
structure Separate (named : List Named) : Prop where
  accepted : Accepted named
  unhidden : ∀ m ∈ named, ∀ n ∈ named, m.name ≠ hiddenName n.name

/-- Fixtures that do not get into each other's way, in a cache whose path has no names of two
dots. -/
structure Compatible (c : Config) (named : List Named) : Prop extends Separate named where
  dots : ".." ∉ c.cache.names

/-- An attempt to store the text of a fixture, and how it went. -/
structure Attempt where
  named : Named
  content : String
  result : Except StoreFault Unit

namespace Attempt

/-- The path of the entry. -/
def entry (c : Config) (a : Attempt) : Path := entryPath c a.named.name

/-- The bytes to be stored. -/
def data (a : Attempt) : Bytes := Text.Utf8.encode a.content

/-- Whether an attempt is for one of several fixtures. The names of fixtures that can be fetched are
ordinary texts. -/
def For (named : List Named) (a : Attempt) : Prop := a.named ∈ named ∧ a.named.name.isText = true

end Attempt

/-- The attempts of a log, made in order on a volume, take these steps. -/
inductive Stores (c : Config) : Volume → List Attempt → List Change → Prop where
  | nil (v : Volume) : Stores c v [] []
  | cons {v : Volume} {a : Attempt} {log : List Attempt} {steps changes : List Change}
    (h : store v (a.entry c) a.data = (steps, a.result))
    (rest : Stores c (Change.applyAll v steps) log changes) :
    Stores c v (a :: log) (steps ++ changes)

/-! ## One attempt -/

section One

variable {c : Config} {named : List Named} {v u : Volume} {m : Named} {a : Attempt}
  {steps : List Change}

/-- The path of the directory of an entry goes up nowhere. -/
lemma Compatible.entry_dots (hc : Compatible c named) (ha : a.For named) :
    ".." ∉ (a.entry c).parent.names :=
  entryPath_dots hc.dots (hc.accepted.identifier _ ha.1)

/-- An entry that was stored can be read. -/
lemma content?_store_self (hc : Compatible c named) (hv : v.WellFormed) (ha : a.For named)
    (h : store v (a.entry c) a.data = (steps, .ok ())) :
    content? c (Change.applyAll v steps) a.named.name = some a.data := by
  have hid := hc.accepted.identifier _ ha.1
  have hdots := hc.entry_dots ha
  have hs : Storable v (a.entry c) a.data := (store_eq_ok_iff hv hdots).1 (by rw [h])
  have hw := (store_legal hv h).wellFormed hv
  have hlater := (store_legal hv h).later
  rw [content?_eq_some_iff, readEntry_eq_ok_iff hw hc.dots hid, hlater.locate]
  obtain ⟨ns, x, hp⟩ := (List.eq_nil_or_concat' (a.entry c).names).resolve_left hs.names
  refine ⟨⟨ha.2, fun hname => ?_, fits_of_hidden hp hs.fits⟩, ?_⟩
  · have hne : a.named.name.lossy ≠ "." := by
      rw [hname]
      decide
    exact hs.dots ((name_of_ne hid hne).trans hname)
  · rw [node?_store hv hdots h]
    exact if_pos rfl

/-- An entry that was stored does not touch another. -/
lemma content?_store_other (hc : Compatible c named) (hv : v.WellFormed) (ha : a.For named)
    (hm : m ∈ named) (hne : m ≠ a.named) (h : store v (a.entry c) a.data = (steps, .ok ())) :
    content? c (Change.applyAll v steps) m.name = content? c v m.name := by
  have hid := hc.accepted.identifier _ hm
  have hid' := hc.accepted.identifier _ ha.1
  have hdots := hc.entry_dots ha
  have hs : Storable v (a.entry c) a.data := (store_eq_ok_iff hv hdots).1 (by rw [h])
  have hw := (store_legal hv h).wellFormed hv
  refine content?_eq_of_node? hv hw hc.dots hid (by simp) fun htext b => ?_
  have hname : m.name ≠ a.named.name := fun heq => hne (hc.accepted.eq_of_name hm ha.1 heq)
  have hentry := locate_entryPath_ne (c := c) v hid hid' htext ha.2 hname
  have hhidden := (locate_hiddenPath_entryPath_ne (c := c) v hid hid' htext ha.2
    (hc.unhidden m hm _ ha.1)).resolve_left hs.names
  rw [node?_store hv hdots h, Attempt.entry, if_neg hentry, if_neg hhidden]
  split_ifs with habove
  · simp [hs.free _ habove b]
  · rfl

/-- **What a stop leaves of an attempt**: each entry as it was, or the one of the attempt
complete. -/
lemma content?_store_stopped (hc : Compatible c named) (hv : v.WellFormed) (ha : a.For named)
    (hm : m ∈ named) (h : store v (a.entry c) a.data = (steps, a.result)) (hu : Stopped v steps u) :
    content? c u m.name = content? c v m.name ∨
      m = a.named ∧ a.result = .ok () ∧ content? c u m.name = some a.data := by
  have hid := hc.accepted.identifier _ hm
  have hid' := hc.accepted.identifier _ ha.1
  rcases store_stopped hv (hc.entry_dots ha) h hu with hunder | ⟨hok, rfl⟩
  · have hwu := hu.wellFormed hv (store_legal hv h)
    exact .inl (content?_of_underway hv hwu hc.dots hid hid' ha.2 (hc.unhidden m hm _ ha.1) hunder)
  · rw [hok] at h
    by_cases hne : m = a.named
    · rw [hne]
      exact .inr ⟨rfl, hok, content?_store_self hc hv ha h⟩
    · exact .inl (content?_store_other hc hv ha hm hne h)

end One

/-! ## Attempts in a row -/

namespace Stores

variable {c : Config} {named : List Named} {v u : Volume} {m : Named} {log log' : List Attempt}
  {changes changes' : List Change}

/-- Two rows of stores make their changes one after the other. -/
lemma append (h : Stores c v log changes)
    (h' : Stores c (Change.applyAll v changes) log' changes') :
    Stores c v (log ++ log') (changes ++ changes') := by
  induction h with
  | nil v => exact h'
  | cons h _ ih =>
    rw [Change.applyAll_append] at h'
    rw [List.append_assoc]
    exact .cons h (ih h')

/-- A single attempt. -/
lemma single {a : Attempt} {steps : List Change}
    (h : store v (a.entry c) a.data = (steps, a.result)) :
    Stores c v [a] steps := by
  have := Stores.cons h (.nil _)
  rwa [List.append_nil] at this

/-- Attempts take legal steps. -/
lemma legal (hv : v.WellFormed) (h : Stores c v log changes) : Change.LegalAll v changes := by
  induction h with
  | nil v => trivial
  | cons h _ ih =>
    have hl := store_legal hv h
    exact Change.legalAll_append.2 ⟨hl, ih (hl.wellFormed hv)⟩

/-- Each attempt is made on a volume that has at least the directories of the first. -/
lemma of_mem (hv : v.WellFormed) (h : Stores c v log changes) {a : Attempt} (ha : a ∈ log) :
    ∃ w steps, w.WellFormed ∧ v.Later w ∧ store w (a.entry c) a.data = (steps, a.result) := by
  induction h with
  | nil v => simp at ha
  | @cons v a' log steps changes h _ ih =>
    rcases List.mem_cons.1 ha with rfl | ha
    · exact ⟨v, steps, hv, .refl v, h⟩
    · have hl := store_legal hv h
      obtain ⟨w, steps', hw, hlater, hstore⟩ := ih (hl.wellFormed hv) ha
      exact ⟨w, steps', hw, hl.later.trans hlater, hstore⟩

/-- **What attempts leave that are stopped at any point**: each entry as it was or complete. -/
lemma content?_stopped (hc : Compatible c named) (hv : v.WellFormed) (h : Stores c v log changes)
    (hlog : ∀ a ∈ log, a.For named) (hm : m ∈ named) (hu : Stopped v changes u) :
    content? c u m.name = content? c v m.name ∨
      ∃ a ∈ log, a.named = m ∧ a.result = .ok () ∧ content? c u m.name = some a.data := by
  induction h with
  | nil v =>
    rw [Stopped.nil_iff.1 hu]
    exact .inl rfl
  | @cons v a log steps changes h _ ih =>
    have ha := hlog a (by simp)
    have hl := store_legal hv h
    rcases Stopped.append_iff.1 hu with hu | hu
    · rcases content?_store_stopped hc hv ha hm h hu with heq | ⟨rfl, hok, heq⟩
      · exact .inl heq
      · exact .inr ⟨a, by simp, rfl, hok, heq⟩
    · rcases ih (hl.wellFormed hv) (fun b hb => hlog b (by simp [hb])) hu with heq | ⟨b, hb, hrest⟩
      · rcases content?_store_stopped hc hv ha hm h (Stopped.all v steps) with
          heq' | ⟨rfl, hok, heq'⟩
        · exact .inl (heq.trans heq')
        · exact .inr ⟨a, by simp, rfl, hok, heq.trans heq'⟩
      · exact .inr ⟨b, by simp [hb], hrest⟩

/-- An entry that was not stored is as it was. -/
lemma content?_untouched (hc : Compatible c named) (hv : v.WellFormed) (h : Stores c v log changes)
    (hlog : ∀ a ∈ log, a.For named) (hm : m ∈ named)
    (hnone : ∀ a ∈ log, a.named = m → a.result ≠ .ok ()) (hu : Stopped v changes u) :
    content? c u m.name = content? c v m.name := by
  rcases content?_stopped hc hv h hlog hm hu with heq | ⟨a, ha, hname, hok, -⟩
  · exact heq
  · exact absurd hok (hnone a ha hname)

/-- **An entry that was stored stays.** -/
lemma content?_stored (hc : Compatible c named) (hv : v.WellFormed) (h : Stores c v log changes)
    (hlog : ∀ a ∈ log, a.For named) (hnodup : (log.map Attempt.named).Nodup) {a : Attempt}
    (ha : a ∈ log) (hok : a.result = .ok ()) :
    content? c (Change.applyAll v changes) a.named.name = some a.data := by
  induction h with
  | nil v => simp at ha
  | @cons v a' log steps changes h hrest ih =>
    rw [List.map_cons, List.nodup_cons] at hnodup
    have hw := (store_legal hv h).wellFormed hv
    have hlog' : ∀ b ∈ log, b.For named := fun b hb => hlog b (by simp [hb])
    rw [Change.applyAll_append]
    rcases List.mem_cons.1 ha with rfl | ha
    · rw [content?_untouched hc hw hrest hlog' (hlog a (by simp)).1 _ (Stopped.all _ _)]
      · rw [hok] at h
        exact content?_store_self hc hv (hlog a (by simp)) h
      · intro b hb hname
        exact absurd (List.mem_map.2 ⟨b, hb, hname⟩) hnodup.1
    · exact ih hw hlog' hnodup.2 ha

end Stores

/-! ## Places in a shared directory -/

section Places

variable {c : Config} {named : List Named} {v : Volume} {m n : Named}

/-- Two fixtures whose entries are in the same directory and in different places. -/
structure Apart (m n : Named) : Prop where
  left : m.name.lossy ≠ "."
  right : n.name.lossy ≠ "."
  ne : m.name.lossy ≠ n.name.lossy
  hidden : m.name.lossy ≠ temporaryName n.name.lossy
  hidden' : n.name.lossy ≠ temporaryName m.name.lossy

/-- Two different URLs have entries and hidden files in different places. -/
lemma Compatible.apart (hc : Compatible c named) (hm : m ∈ named) (hn : n ∈ named)
    (htext : m.name.isText = true) (htext' : n.name.isText = true) (hne : m ≠ n)
    (hdot : m.name.lossy ≠ ".") (hdot' : n.name.lossy ≠ ".") : Apart m n where
  left := hdot
  right := hdot'
  ne := fun h => hne (hc.accepted.eq_of_name hm hn (Points.lossy_injective htext htext' h))
  hidden := by
    rw [← lossy_hiddenName]
    intro h
    exact hc.unhidden m hm n hn (Points.lossy_injective htext (isText_hiddenName htext') h)
  hidden' := by
    rw [← lossy_hiddenName]
    intro h
    exact hc.unhidden n hn m hm (Points.lossy_injective htext' (isText_hiddenName htext) h)

/-- The hidden file of an entry lies in the cache directory, under its temporary name. -/
lemma locate_hidden_of_ne (v : Volume) {url name : Points} (hid : identifier url = .ok name)
    (h : name.lossy ≠ ".") : v.locate (hiddenPath (entryPath c name)) =
      v.locate c.cache ++ [temporaryName name.lossy] := by
  rw [locate_hiddenPath, locate_parent_of_ne v hid h, name_of_ne hid h]

/-- Nothing is done at a location to store an entry. -/
structure Untouched (v : Volume) (path : Path) (l : Location) : Prop where
  entry : l ≠ v.locate path
  hidden : l ≠ v.locate (hiddenPath path)
  above : ¬ l <+: v.locate path.parent

/-- Entries in the same directory share it, and are in different places. -/
lemma Compatible.untouched (hc : Compatible c named) (hm : m ∈ named) (hn : n ∈ named)
    (h : Apart m n) (v : Volume) :
    v.locate (entryPath c m.name).parent = v.locate (entryPath c n.name).parent ∧
    Untouched v (entryPath c n.name) (v.locate (entryPath c m.name)) ∧
    Untouched v (entryPath c n.name) (v.locate (hiddenPath (entryPath c m.name))) := by
  have hid := hc.accepted.identifier m hm
  have hid' := hc.accepted.identifier n hn
  have htemp : temporaryName m.name.lossy ≠ temporaryName n.name.lossy :=
    fun heq => h.ne (temporaryName_injective heq)
  refine ⟨by rw [locate_parent_of_ne v hid h.left, locate_parent_of_ne v hid' h.right],
    ⟨?_, ?_, ?_⟩, ⟨?_, ?_, ?_⟩⟩
  · rw [locate_of_ne v hid h.left, locate_of_ne v hid' h.right]
    simpa using h.ne
  · rw [locate_of_ne v hid h.left, locate_hidden_of_ne v hid' h.right]
    simpa using h.hidden
  · rw [locate_of_ne v hid h.left, locate_parent_of_ne v hid' h.right]
    exact concat_not_above _ _
  · rw [locate_hidden_of_ne v hid h.left, locate_of_ne v hid' h.right]
    simpa using h.hidden'.symm
  · rw [locate_hidden_of_ne v hid h.left, locate_hidden_of_ne v hid' h.right]
    simpa using htemp
  · rw [locate_hidden_of_ne v hid h.left, locate_parent_of_ne v hid' h.right]
    exact concat_not_above _ _

end Places

/-! ## Entries on top of a volume -/

/-- The volume `w` is `v` with the entries of a log stored: their hidden files are gone, their
directories are made, and all else is as on `v`. -/
structure Overlay (c : Config) (v : Volume) (log : List Attempt) (w : Volume) : Prop where
  current : w.current = v.current
  refusals : w.refusals = v.refusals
  entry : ∀ a ∈ log, w.node? (v.locate (a.entry c)) = some (.file a.data)
  hidden : ∀ a ∈ log, w.node? (v.locate (hiddenPath (a.entry c))) = none
  above : ∀ a ∈ log, ∀ l, l <+: v.locate (a.entry c).parent → w.node? l = some .directory
  elsewhere : ∀ l, (∀ a ∈ log, Untouched v (a.entry c) l) → w.node? l = v.node? l

namespace Overlay

variable {c : Config} {named : List Named} {v u w w' : Volume} {log log' : List Attempt}

/-- **The order of entries does not matter.** -/
lemma same (h : Overlay c v log w) (h' : Overlay c v log' w') (hmem : ∀ a, a ∈ log ↔ a ∈ log') :
    w.Same w' := by
  refine ⟨h.current.trans h'.current.symm, h.refusals.trans h'.refusals.symm, fun l => ?_⟩
  by_cases htouched : ∀ a ∈ log, Untouched v (a.entry c) l
  · rw [h.elsewhere l htouched, h'.elsewhere l fun a ha => htouched a ((hmem a).2 ha)]
  · push Not at htouched
    obtain ⟨a, ha, htouched⟩ := htouched
    have ha' := (hmem a).1 ha
    by_cases hentry : l = v.locate (a.entry c)
    · rw [hentry, h.entry a ha, h'.entry a ha']
    · by_cases hhidden : l = v.locate (hiddenPath (a.entry c))
      · rw [hhidden, h.hidden a ha, h'.hidden a ha']
      · by_cases habove : l <+: v.locate (a.entry c).parent
        · rw [h.above a ha l habove, h'.above a ha' l habove]
        · exact absurd ⟨hentry, hhidden, habove⟩ htouched

/-- A file on top was there before or is an entry. -/
lemma file_cases (h : Overlay c v log w) {l : Location} {b : Bytes}
    (hl : w.node? l = some (.file b)) :
    v.node? l = some (.file b) ∨ ∃ a ∈ log, l = v.locate (a.entry c) := by
  by_cases htouched : ∀ a ∈ log, Untouched v (a.entry c) l
  · rw [h.elsewhere l htouched] at hl
    exact .inl hl
  · push Not at htouched
    obtain ⟨a, ha, htouched⟩ := htouched
    refine .inr ⟨a, ha, ?_⟩
    by_contra hentry
    refine htouched ⟨hentry, fun hhidden => ?_, fun habove => ?_⟩
    · rw [hhidden, h.hidden a ha] at hl
      cases hl
    · rw [h.above a ha l habove] at hl
      cases hl

/-- An entry that was stored lies on top. -/
lemma of_store {a : Attempt} {steps : List Change} (hv : v.WellFormed)
    (hdots : ".." ∉ (a.entry c).parent.names)
    (h : store v (a.entry c) a.data = (steps, .ok ())) :
    Overlay c v [a] (Change.applyAll v steps) := by
  have hs : Storable v (a.entry c) a.data := (store_eq_ok_iff hv hdots).1 (by rw [h])
  have hnode := node?_store hv hdots h
  refine ⟨by simp, by simp, ?_, ?_, ?_, ?_⟩
  · intro b hb
    rw [List.mem_singleton.1 hb, hnode, if_pos rfl]
  · intro b hb
    rw [List.mem_singleton.1 hb, hnode, if_neg (locate_hiddenPath_ne v hs.names).symm, if_pos rfl]
  · intro b hb l hl
    rw [List.mem_singleton.1 hb] at hl
    rw [hnode, if_neg, if_neg, if_pos hl]
    · rintro rfl
      rw [locate_hiddenPath] at hl
      exact concat_not_above _ _ hl
    · rintro rfl
      rw [locate_entry v hs.names] at hl
      exact concat_not_above _ _ hl
  · intro l hl
    obtain ⟨hentry, hhidden, habove⟩ := hl a (by simp)
    rw [hnode, if_neg hentry, if_neg hhidden, if_neg habove]

end Overlay

/-! ## Nothing in the way -/

/-- Nothing is in the way of the entries of any of several attempts, however they go. One by the
name of a single dot takes the place of the directory that the others need. -/
structure Clear (c : Config) (v : Volume) (log : List Attempt) : Prop where
  storable : ∀ a ∈ log, Storable v (a.entry c) a.data
  alone : ∀ a ∈ log, ∀ b ∈ log, a.named.name.lossy = "." → a.named = b.named

section Clear

variable {c : Config} {named : List Named} {v u w : Volume} {m n : Named} {a : Attempt}

/-- Whether nothing is in the way of an entry depends on what is above it and in its places. -/
lemma Storable.of_node? {entry : Path} {data : Bytes} (h : Storable v entry data)
    (hcurrent : u.current = v.current) (hrefusals : u.refusals = v.refusals)
    (hfree : ∀ l, l <+: v.locate entry.parent → ∀ b, u.node? l ≠ some (.file b))
    (hnone : ∀ l, l <+: v.locate entry.parent → u.node? l = none → v.refusals.makes l = none)
    (hhidden : u.node? (v.locate (hiddenPath entry)) ≠ some .directory)
    (hentry : u.node? (v.locate entry) ≠ some .directory) : Storable u entry data := by
  have hlocate := Volume.locate_eq_of_current hcurrent
  refine ⟨h.names, h.dots, h.fits, ?_, ?_, ?_, h.permitted.of_refusals hcurrent hrefusals, ?_⟩
  · rwa [hlocate]
  · rwa [hlocate, hrefusals]
  · rwa [hlocate]
  · rwa [hlocate]

/-- An entry that was stored does not get in the way of others, nor does it clear their way. -/
lemma storable_overlay_iff (hc : Compatible c named) (hm : m ∈ named) (hn : a.named ∈ named)
    (hapart : Apart m a.named) (h : Overlay c v [a] w) (hs : Storable v (a.entry c) a.data)
    {data : Bytes} :
    Storable w (entryPath c m.name) data ↔ Storable v (entryPath c m.name) data := by
  obtain ⟨hparent, hentry, hhidden⟩ := hc.untouched hm hn hapart v
  have hlocate := Volume.locate_eq_of_current h.current
  have hkeep : ∀ l, Untouched v (a.entry c) l → w.node? l = v.node? l := by
    intro l hl
    refine h.elsewhere l fun b hb => ?_
    rwa [List.mem_singleton.1 hb]
  constructor
  · intro hw
    refine hw.of_node? h.current.symm h.refusals.symm ?_ ?_ ?_ ?_
    · rw [hlocate, hparent]
      exact hs.free
    · rw [hlocate, hparent, h.refusals]
      exact hs.allowed
    · rw [hlocate, ← hkeep _ hhidden, ← hlocate]
      exact hw.hidden
    · rw [hlocate, ← hkeep _ hentry, ← hlocate]
      exact hw.entry
  · intro hv
    have habove : ∀ l, l <+: v.locate (entryPath c m.name).parent → w.node? l = some .directory :=
      fun l hl => h.above a (by simp) l (by rw [hparent] at hl; exact hl)
    refine hv.of_node? h.current h.refusals (fun l hl b => ?_) (fun l hl hnone => ?_) ?_ ?_
    · simp [habove l hl]
    · simp [habove l hl] at hnone
    · rw [hkeep _ hhidden]
      exact hv.hidden
    · rw [hkeep _ hentry]
      exact hv.entry

end Clear

namespace Stores

variable {c : Config} {named : List Named} {v u : Volume} {log : List Attempt}
  {changes : List Change}

/-- A fixture by the name of a single dot is stored alone: the directory of the cache is then a
file.

**Proof sketch.** If it comes first, the next attempt finds a file in the place of its directory. If
it comes later, it finds the directory of an earlier attempt in its own place. -/
lemma alone (hc : Compatible c named) (hv : v.WellFormed) (h : Stores c v log changes)
    (hlog : ∀ a ∈ log, a.For named) (hnodup : (log.map Attempt.named).Nodup)
    (hok : ∀ a ∈ log, a.result = .ok ()) :
    ∀ a ∈ log, ∀ b ∈ log, a.named.name.lossy = "." → a.named = b.named := by
  induction h with
  | nil v => simp
  | @cons v a log steps changes h hrest ih =>
    rw [List.map_cons, List.nodup_cons] at hnodup
    have ha := hlog a (by simp)
    have hlog' : ∀ b ∈ log, b.For named := fun b hb => hlog b (by simp [hb])
    rw [hok a (by simp)] at h
    have hw := (store_legal hv h).wellFormed hv
    have hdropped := Overlay.of_store hv (hc.entry_dots ha) h
    have hlocate := (store_legal hv h).later.locate
    have hstored : ∀ {w : Volume} {b : Attempt} {steps : List Change}, b ∈ log → w.WellFormed →
        store w (b.entry c) b.data = (steps, b.result) → Storable w (b.entry c) b.data := by
      intro w b steps hb hw hstore
      rw [hok b (by simp [hb])] at hstore
      exact (store_eq_ok_iff hw (hc.entry_dots (hlog' b hb))).1 (by rw [hstore])
    have hdots : ∀ b ∈ log, a.named.name.lossy = "." → b.named.name.lossy ≠ "." := by
      intro b hb hdot hdot'
      have hname := Points.lossy_injective ha.2 (hlog' b hb).2 (hdot.trans hdot'.symm)
      exact hnodup.1 (List.mem_map.2 ⟨b, hb, hc.accepted.eq_of_name (hlog' b hb).1 ha.1 hname.symm⟩)
    intro a' hmem b' hmem' hdot
    rcases List.mem_cons.1 hmem with rfl | ha'
    · rcases List.mem_cons.1 hmem' with rfl | hb'
      · rfl
      · exfalso
        cases hrest with
        | nil => simp at hb'
        | @cons _ b rest _ _ hstore _ =>
          have hb : b ∈ b :: rest := by simp
          have hfree := (hstored hb hw hstore).free
          have hid := hc.accepted.identifier _ (hlog' b hb).1
          refine hfree _ (List.prefix_refl _) a'.data ?_
          rw [Attempt.entry, locate_parent_of_ne _ hid (hdots b hb hdot), hlocate,
            ← entryPath_dot c hdot]
          exact hdropped.entry a' (by simp)
    · rcases List.mem_cons.1 hmem' with rfl | hb'
      · exfalso
        obtain ⟨w, steps', hww, hlater, hstore⟩ := of_mem hw hrest ha'
        have hid := hc.accepted.identifier _ ha.1
        have hdot' : b'.named.name.lossy ≠ "." := fun h' => hdots a' ha' h' hdot
        refine (hstored ha' hww hstore).entry ?_
        rw [hlater.locate, hlocate, Attempt.entry, entryPath_dot c hdot,
          ← locate_parent_of_ne v hid hdot']
        exact hlater.directory _ (hdropped.above b' (by simp) _ (List.prefix_refl _))
      · exact ih hw hlog' hnodup.2 (fun b hb => hok b (by simp [hb])) a' ha' b' hb' hdot

/-- The fixtures of attempts that could all succeed are apart. -/
lemma apart (hc : Compatible c named) (hlog : ∀ a ∈ log, a.For named)
    (halone : ∀ a ∈ log, ∀ b ∈ log, a.named.name.lossy = "." → a.named = b.named) {a b : Attempt}
    (ha : a ∈ log) (hb : b ∈ log) (hne : a.named ≠ b.named) : Apart a.named b.named :=
  hc.apart (hlog a ha).1 (hlog b hb).1 (hlog a ha).2 (hlog b hb).2 hne
    (fun hdot => hne (halone a ha b hb hdot)) (fun hdot => hne (halone b hb a ha hdot).symm)

/-- Attempts that succeed found nothing in their way. -/
lemma clear (hc : Compatible c named) (hv : v.WellFormed) (h : Stores c v log changes)
    (hlog : ∀ a ∈ log, a.For named) (hnodup : (log.map Attempt.named).Nodup)
    (hok : ∀ a ∈ log, a.result = .ok ()) : Clear c v log := by
  have halone := alone hc hv h hlog hnodup hok
  refine ⟨?_, ?_⟩
  · induction h with
      | nil v => simp
      | @cons v a log steps changes h hrest ih =>
        rw [List.map_cons, List.nodup_cons] at hnodup
        have ha := hlog a (by simp)
        have hlog' : ∀ b ∈ log, b.For named := fun b hb => hlog b (by simp [hb])
        rw [hok a (by simp)] at h
        have hs : Storable v (a.entry c) a.data :=
          (store_eq_ok_iff hv (hc.entry_dots ha)).1 (by rw [h])
        have hw := (store_legal hv h).wellFormed hv
        intro b hb
        rcases List.mem_cons.1 hb with rfl | hb
        · exact hs
        · have hsb := ih hw hlog' hnodup.2 (fun b hb => hok b (by simp [hb]))
            (fun a ha b hb => halone a (by simp [ha]) b (by simp [hb])) b hb
          have hne : b.named ≠ a.named := fun heq => hnodup.1 (List.mem_map.2 ⟨b, hb, heq⟩)
          have hapart := apart hc hlog halone (List.mem_cons_of_mem a hb) List.mem_cons_self hne
          exact (storable_overlay_iff hc (hlog' b hb).1 ha.1 hapart
            (Overlay.of_store hv (hc.entry_dots ha) h) hs).1 hsb
  · exact halone

/-- Attempts succeed if nothing is in their way. -/
lemma result_ok (hc : Compatible c named) (hv : v.WellFormed) (h : Stores c v log changes)
    (hlog : ∀ a ∈ log, a.For named) (hnodup : (log.map Attempt.named).Nodup)
    (hclear : Clear c v log) : ∀ a ∈ log, a.result = .ok () := by
  induction h with
  | nil v => simp
  | @cons v a log steps changes h hrest ih =>
    rw [List.map_cons, List.nodup_cons] at hnodup
    have ha := hlog a (by simp)
    have hlog' : ∀ b ∈ log, b.For named := fun b hb => hlog b (by simp [hb])
    have hs : Storable v (a.entry c) a.data := hclear.storable a (by simp)
    have hok : a.result = .ok () := by
      have hresult : (store v (a.entry c) a.data).2 = .ok () :=
        store_of_storable hv (hc.entry_dots ha) hs
      rwa [h] at hresult
    rw [hok] at h
    have hw := (store_legal hv h).wellFormed hv
    -- what is left to be stored is not in the way of this attempt, nor this attempt in its way
    have hclear' : Clear c (Change.applyAll v steps) log := by
      refine ⟨fun b hb => ?_, fun b hb b' hb' => hclear.alone b (by simp [hb]) b' (by simp [hb'])⟩
      have hne : b.named ≠ a.named := fun heq => hnodup.1 (List.mem_map.2 ⟨b, hb, heq⟩)
      have hapart : Apart b.named a.named := by
        refine hc.apart (hlog' b hb).1 ha.1 (hlog' b hb).2 ha.2 hne (fun hdot => hne ?_)
          (fun hdot => hne ?_)
        · exact hclear.alone _ (by simp [hb]) _ (by simp) hdot
        · exact (hclear.alone _ (by simp) _ (by simp [hb]) hdot).symm
      exact (storable_overlay_iff hc (hlog' b hb).1 ha.1 hapart
        (Overlay.of_store hv (hc.entry_dots ha) h) hs).2 (hclear.storable _ (by simp [hb]))
    intro b hb
    rcases List.mem_cons.1 hb with rfl | hb
    · exact hok
    · exact ih hw hlog' hnodup.2 hclear' b hb

end Stores

end ParseBench.Fixture
