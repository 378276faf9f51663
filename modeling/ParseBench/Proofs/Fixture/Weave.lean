import ParseBench.Proofs.Fixture.Outcome

set_option relaxedAutoImplicit false
set_option autoImplicit false

/-!
# Changes of several workers

Workers that store entries at the same time share a directory. Each changes nothing but its own
entry, the hidden file of that entry and what is missing of the directory, so that no worker gets
into the way of another, whatever the order of their changes.

## Main definitions

* `ParseBench.Fixture.Wanted` — the texts that are to be stored.
* `ParseBench.Fixture.Stored` — the entry of a text is in place.
* `ParseBench.Fixture.Touch` — a change that a worker makes to store a text.
* `ParseBench.Fixture.Weaves` — changes of several workers, in any order.
* `ParseBench.Fixture.Between` — what is where on a volume while workers store entries.

## Main results

* `ParseBench.Fixture.Touch.content?_eq` — a worker changes no entry but its own, and that at once.
* `ParseBench.Fixture.Between.touch` — what one change of a worker preserves.
* `ParseBench.Fixture.Weaves.between` — what is where after changes that are stopped at any point.
* `ParseBench.Fixture.Between.content?_eq` — each entry is as it was or complete.
-/

namespace ParseBench.Fixture

open ParseBench.Bench (Config)
open ParseBench.Files
open ParseBench.Http (Network)
open ParseBench.Text (Bytes Points)

/-! ## Texts that are to be stored -/

/-- An attempt to store a fixture that was missing and whose text has been fetched, as it goes if
nothing is in its way. -/
structure Wanted (c : Config) (follow : Bool) (net : Network) (v : Volume) (named : List Named)
    (a : Attempt) : Prop where
  mem : a.named ∈ named
  missing : look c v a.named.name = .miss
  fetched : (Http.fetch follow net a.named.url).result? = some (.ok a.content)
  result : a.result = .ok ()

variable {c : Config} {follow : Bool} {net : Network} {v u : Volume} {named : List Named}
  {a b : Attempt} {n : Named} {change : Change}

section Places

/-- What is wanted is for one of the fixtures, and has an ordinary name. -/
lemma Wanted.for_named (hc : Compatible c named) (h : Wanted c follow net v named a) : a.For named :=
  ⟨h.mem, isText_of_fetch (hc.accepted.identifier _ h.mem) h.fetched⟩

/-- There is one text at most for each fixture. -/
lemma Wanted.unique (h : Wanted c follow net v named a) (h' : Wanted c follow net v named b)
    (hname : a.named = b.named) : a = b := by
  have hcontent : a.content = b.content := by
    have hb := h'.fetched
    rw [← hname, h.fetched] at hb
    simpa using hb
  obtain ⟨n, content, result⟩ := a
  obtain ⟨n', content', result'⟩ := b
  rw [Attempt.mk.injEq]
  exact ⟨hname, hcontent, h.result.trans h'.result.symm⟩

/-! ## Places of several texts -/

/-- The path of an entry ends in its own name, unless it is that of the directory of the cache. -/
lemma Compatible.name_entry (hc : Compatible c named) (ha : a.For named)
    (hdot : a.named.name.lossy ≠ ".") : (a.entry c).name = a.named.name.lossy :=
  name_of_ne (hc.accepted.identifier _ ha.1) hdot

/-- Different entries of ordinary names are in different places. -/
lemma Compatible.entry_ne (hc : Compatible c named) (ha : a.For named) (hn : n ∈ named)
    (htext : n.name.isText = true) (hne : n ≠ a.named) (v : Volume) :
    v.locate (entryPath c n.name) ≠ v.locate (a.entry c) :=
  locate_entryPath_ne v (hc.accepted.identifier n hn) (hc.accepted.identifier _ ha.1) htext ha.2
    fun heq => hne (hc.accepted.eq_of_name hn ha.1 heq)

/-- No entry is in the place of a hidden file. -/
lemma Compatible.entry_ne_hidden (hc : Compatible c named) (ha : a.For named) (hn : n ∈ named)
    (htext : n.name.isText = true) (hnames : (a.entry c).names ≠ []) (v : Volume) :
    v.locate (entryPath c n.name) ≠ v.locate (hiddenPath (a.entry c)) :=
  (locate_hiddenPath_entryPath_ne v (hc.accepted.identifier n hn) (hc.accepted.identifier _ ha.1)
    htext ha.2 (hc.unhidden n hn _ ha.1)).resolve_left hnames

/-- The hidden files of different entries are in different places. -/
lemma Compatible.hidden_ne (hc : Compatible c named) (ha : a.For named) (hb : b.For named)
    (hne : a.named ≠ b.named) (ha' : (a.entry c).names ≠ []) (hb' : (b.entry c).names ≠ [])
    (v : Volume) : v.locate (hiddenPath (a.entry c)) ≠ v.locate (hiddenPath (b.entry c)) := by
  have hida := hc.accepted.identifier _ ha.1
  have hidb := hc.accepted.identifier _ hb.1
  intro heq
  rw [locate_hiddenPath, locate_hiddenPath] at heq
  obtain ⟨hparent, hname⟩ := List.append_inj' heq rfl
  have hsame := temporaryName_injective (List.singleton_inj.1 hname)
  refine hc.entry_ne hb ha.1 ha.2 hne v ?_
  rw [← Attempt.entry, locate_entry v ha', locate_entry v hb', hparent, hsame]

/-- A hidden file is not on the way to the directory of an entry. -/
lemma Compatible.hidden_not_above (hc : Compatible c named) (ha : a.For named) (hb : b.For named)
    (hnames : (a.entry c).names ≠ []) (v : Volume) :
    ¬ v.locate (hiddenPath (a.entry c)) <+: v.locate (b.entry c).parent := by
  intro h
  have hida := hc.accepted.identifier _ ha.1
  have hidb := hc.accepted.identifier _ hb.1
  rw [locate_hiddenPath] at h
  by_cases hdota : a.named.name.lossy = "."
  · rw [Attempt.entry, entryPath_dot c hdota] at hnames h
    by_cases hdotb : b.named.name.lossy = "."
    · rw [Attempt.entry, entryPath_dot c hdotb] at h
      exact concat_not_above _ _ h
    · rw [Attempt.entry, locate_parent_of_ne v hidb hdotb, locate_entry v hnames] at h
      have hsame := h.eq_of_length (by simp)
      exact temporaryName_ne c.cache.name (by simpa using hsame)
  · have hlen := h.length_le
    rw [Attempt.entry, locate_parent_of_ne v hida hdota] at hlen
    have hbelow : (v.locate (b.entry c).parent).length ≤ (v.locate c.cache).length := by
      by_cases hdotb : b.named.name.lossy = "."
      · rw [Attempt.entry, entryPath_dot c hdotb]
        exact (Volume.prefix_locate_of_parent List.prefix_rfl).length_le
      · rw [Attempt.entry, locate_parent_of_ne v hidb hdotb]
    rw [List.length_append, List.length_singleton] at hlen
    omega

end Places

/-! ## Changes of a worker -/

/-- A path and a text can be stored as far as this does not depend on what is on the volume. -/
structure Storing (v : Volume) (entry : Path) (data : Bytes) : Prop where
  names : entry.names ≠ []
  dots : entry.name ≠ ".."
  fits : (hiddenPath entry).Fits
  permitted : Permitted v entry data

/-- The entry of a text is in place on the volume `u`, which has come of `v`. -/
structure Stored (c : Config) (v u : Volume) (a : Attempt) : Prop
    extends Storing v (a.entry c) a.data where
  entry : u.node? (v.locate (a.entry c)) = some (.file a.data)
  hidden : u.node? (v.locate (hiddenPath (a.entry c))) = none
  directory : u.node? (v.locate (a.entry c).parent) = some .directory

/-- A change that a worker makes to store a text on the volume `u`, which has come of `v`. -/
inductive Touch (c : Config) (v u : Volume) (a : Attempt) : Change → Prop where
  | directory {l : Location} (habove : l <+: v.locate (a.entry c).parent)
    (hlegal : (Change.makeDirectory l).Legal u) (hallowed : v.refusals.makes l = none) :
    Touch c v u a (.makeDirectory l)
  | hidden {content : Bytes} (hnames : (a.entry c).names ≠ [])
    (hlegal : (Change.write (v.locate (hiddenPath (a.entry c))) content).Legal u)
    (hpending : content? c u a.named.name = none) :
    Touch c v u a (.write (v.locate (hiddenPath (a.entry c))) content)
  | moved (hstoring : Storing v (a.entry c) a.data)
    (hlegal : (Change.move (v.locate (hiddenPath (a.entry c))) (v.locate (a.entry c))).Legal u)
    (hwritten : u.node? (v.locate (hiddenPath (a.entry c))) = some (.file a.data)) :
    Touch c v u a (.move (v.locate (hiddenPath (a.entry c))) (v.locate (a.entry c)))

/-- A worker makes legal changes. -/
lemma Touch.legal (h : Touch c v u a change) : change.Legal u := by
  cases h with
  | directory _ hlegal _ => exact hlegal
  | hidden _ hlegal _ => exact hlegal
  | moved _ hlegal _ => exact hlegal

/-- The place of a hidden file is not that of the root. -/
lemma locate_hiddenPath_ne_nil (v : Volume) (entry : Path) : v.locate (hiddenPath entry) ≠ [] := by
  rw [locate_hiddenPath]
  simp

/-- The place of an entry with a name is not that of the root. -/
lemma locate_entry_ne_nil (v : Volume) {entry : Path} (h : entry.names ≠ []) :
    v.locate entry ≠ [] := by
  rw [locate_entry v h]
  simp

/-- What is where after an entry was moved into its place. -/
lemma Storing.node?_move (h : Storing v (a.entry c) a.data)
    (hwritten : u.node? (v.locate (hiddenPath (a.entry c))) = some (.file a.data)) (l : Location) :
    ((Change.move (v.locate (hiddenPath (a.entry c))) (v.locate (a.entry c))).apply u).node? l =
      if l = v.locate (a.entry c) then some (.file a.data)
      else if l = v.locate (hiddenPath (a.entry c)) then none else u.node? l :=
  Change.node?_move u hwritten (locate_entry_ne_nil v h.names) l

/-- After the move an entry is in place. -/
lemma Storing.stored_of_move (h : Storing v (a.entry c) a.data)
    (hlegal : (Change.move (v.locate (hiddenPath (a.entry c))) (v.locate (a.entry c))).Legal u)
    (hwritten : u.node? (v.locate (hiddenPath (a.entry c))) = some (.file a.data)) :
    Stored c v
      ((Change.move (v.locate (hiddenPath (a.entry c))) (v.locate (a.entry c))).apply u) a := by
  have hnode := h.node?_move hwritten
  refine ⟨h, ?_, ?_, ?_⟩
  · rw [hnode, if_pos rfl]
  · rw [hnode, if_neg (locate_hiddenPath_ne v h.names).symm, if_pos rfl]
  · have hdirectory := hlegal.2.2
    rw [locate_entry v h.names, List.dropLast_concat] at hdirectory
    exact hlegal.later.directory _ hdirectory

/-- An entry that is in place can be read. -/
lemma Stored.content?_eq (hc : Compatible c named) (hu : u.WellFormed) (hlater : v.Later u)
    (ha : a.For named) (h : Stored c v u a) : content? c u a.named.name = some a.data := by
  have hid := hc.accepted.identifier _ ha.1
  obtain ⟨ns, x, hp⟩ := (List.eq_nil_or_concat' (a.entry c).names).resolve_left h.names
  rw [content?_eq_some_iff, readEntry_eq_ok_iff hu hc.dots hid, hlater.locate]
  refine ⟨⟨ha.2, fun hname => ?_, fits_of_hidden hp h.fits⟩, h.entry⟩
  have hne : a.named.name.lossy ≠ "." := by
    rw [hname]
    decide
  exact h.dots ((hc.name_entry ha hne).trans hname)

/-- **A worker changes no entry but its own**, and that one at once. -/
lemma Touch.content?_eq (hc : Compatible c named) (hu : u.WellFormed) (hlater : v.Later u)
    (ha : a.For named) (hn : n ∈ named) (h : Touch c v u a change) :
    content? c (change.apply u) n.name = content? c u n.name ∨
      n = a.named ∧ (∃ s t, change = .move s t) ∧ Stored c v (change.apply u) a := by
  have hkept : (n.name.isText = true → ∀ b,
      (change.apply u).node? (v.locate (entryPath c n.name)) = some (.file b) ↔
        u.node? (v.locate (entryPath c n.name)) = some (.file b)) →
      content? c (change.apply u) n.name = content? c u n.name := by
    intro hfile
    refine content?_eq_of_node? hu (h.legal.wellFormed hu) hc.dots (hc.accepted.identifier n hn)
      (Change.apply_current u change) fun htext b => ?_
    rw [hlater.locate]
    exact hfile htext b
  cases h with
  | @directory l habove hlegal hallowed =>
    refine .inl (hkept fun htext b => ?_)
    rw [Change.node?_makeDirectory]
    split_ifs with heq
    · rw [heq, hlegal.1]
      simp
    · rfl
  | hidden hnames hlegal hpending =>
    refine .inl (hkept fun htext b => ?_)
    rw [Change.node?_write _ (locate_hiddenPath_ne_nil v _),
      if_neg (hc.entry_ne_hidden ha hn htext hnames v)]
  | moved hstoring hlegal hwritten =>
    by_cases heq : n = a.named
    · exact .inr ⟨heq, ⟨_, _, rfl⟩, hstoring.stored_of_move hlegal hwritten⟩
    · refine .inl (hkept fun htext b => ?_)
      rw [hstoring.node?_move hwritten, if_neg (hc.entry_ne ha hn htext heq v),
        if_neg (hc.entry_ne_hidden ha hn htext hstoring.names v)]

/-- A worker does not touch an entry that is in place.

**Proof sketch.** By cases on the change. A place that is occupied is made no directory; the other
places of the two workers differ, as their fixtures do, and a worker whose own entry is in place has
nothing left to write or to move. -/
lemma Stored.touch (hc : Compatible c named) (hu : u.WellFormed) (hlater : v.Later u)
    (ha : Wanted c follow net v named a) (hb : Wanted c follow net v named b)
    (hstored : Stored c v u b) (h : Touch c v u a change) : Stored c v (change.apply u) b := by
  have ha' := ha.for_named hc
  have hb' := hb.for_named hc
  have hcross : (a.entry c).names ≠ [] →
      v.locate (b.entry c) ≠ v.locate (hiddenPath (a.entry c)) :=
    fun hnames => hc.entry_ne_hidden ha' hb.mem hb'.2 hnames v
  have hcross' : v.locate (hiddenPath (b.entry c)) ≠ v.locate (a.entry c) :=
    (hc.entry_ne_hidden hb' ha.mem ha'.2 hstored.names v).symm
  have hentry : b.named ≠ a.named → v.locate (b.entry c) ≠ v.locate (a.entry c) :=
    fun heq => hc.entry_ne ha' hb.mem hb'.2 heq v
  refine ⟨hstored.toStoring, ?_, ?_, h.legal.later.directory _ hstored.directory⟩
  · cases h with
    | @directory l habove hlegal hallowed =>
      rw [Change.node?_makeDirectory, if_neg]
      · exact hstored.entry
      · rintro rfl
        exact absurd hlegal.1 (by simp [hstored.entry])
    | hidden hnames hlegal hpending =>
      rw [Change.node?_write _ (locate_hiddenPath_ne_nil v _), if_neg (hcross hnames)]
      exact hstored.entry
    | moved hstoring hlegal hwritten =>
      rw [hstoring.node?_move hwritten]
      by_cases heq : b.named = a.named
      · rw [hb.unique ha heq, if_pos rfl]
      · rw [if_neg (hentry heq), if_neg (hcross hstoring.names)]
        exact hstored.entry
  · cases h with
    | @directory l habove hlegal hallowed =>
      rw [Change.node?_makeDirectory, if_neg]
      · exact hstored.hidden
      · rintro rfl
        exact hc.hidden_not_above hb' ha' hstored.names v habove
    | hidden hnames hlegal hpending =>
      by_cases heq : b.named = a.named
      · obtain rfl := hb.unique ha heq
        rw [hstored.content?_eq hc hu hlater hb'] at hpending
        cases hpending
      · rw [Change.node?_write _ (locate_hiddenPath_ne_nil v _),
          if_neg (hc.hidden_ne hb' ha' heq hstored.names hnames v)]
        exact hstored.hidden
    | moved hstoring hlegal hwritten =>
      by_cases heq : b.named = a.named
      · obtain rfl := hb.unique ha heq
        rw [hstored.hidden] at hwritten
        cases hwritten
      · rw [hstoring.node?_move hwritten, if_neg hcross',
          if_neg (hc.hidden_ne hb' ha' heq hstored.names hstoring.names v)]
        exact hstored.hidden

/-! ## What is where while workers store entries -/

/-- How a location has changed from `v` to `u` because of a text that is to be stored. -/
inductive Changed (c : Config) (v u : Volume) (a : Attempt) : Location → Prop where
  | directory {l : Location} (habove : l <+: v.locate (a.entry c).parent) (hnone : v.node? l = none)
    (hallowed : v.refusals.makes l = none) (hmade : u.node? l = some .directory) :
    Changed c v u a l
  | hidden (hnames : (a.entry c).names ≠ [])
    (hfree : u.node? (v.locate (hiddenPath (a.entry c))) ≠ some .directory) :
    Changed c v u a (v.locate (hiddenPath (a.entry c)))
  | entry (h : Stored c v u a) : Changed c v u a (v.locate (a.entry c))

/-- What is where on a volume `u` that has come of `v` by changes of workers. -/
structure Between (c : Config) (follow : Bool) (net : Network) (v : Volume) (named : List Named)
    (u : Volume) : Prop where
  later : v.Later u
  wellFormed : u.WellFormed
  changed : ∀ l, u.node? l = v.node? l ∨ ∃ a, Wanted c follow net v named a ∧ Changed c v u a l

/-- Before the first change all is as it was. -/
lemma Between.refl (c : Config) (follow : Bool) (net : Network) (hv : v.WellFormed)
    (named : List Named) : Between c follow net v named v :=
  ⟨.refl v, hv, fun _ => .inl rfl⟩

/-- What has changed because of a text is changed no further where a worker leaves it alone. -/
lemma Changed.touch (hc : Compatible c named) (hu : u.WellFormed) (hlater : v.Later u)
    (ha : Wanted c follow net v named a) (hb : Wanted c follow net v named b) {l : Location}
    (hchanged : Changed c v u b l) (h : Touch c v u a change)
    (hsame : (change.apply u).node? l = u.node? l) : Changed c v (change.apply u) b l := by
  cases hchanged with
  | directory habove hnone hallowed hmade =>
    exact .directory habove hnone hallowed (hsame.trans hmade)
  | hidden hnames hfree => exact .hidden hnames (hsame ▸ hfree)
  | entry hstored => exact .entry (hstored.touch hc hu hlater ha hb h)

/-- **What one change of a worker preserves.**

**Proof sketch.** A new directory is made where nothing was on `u`. Nothing was there on `v` either:
only a hidden file that was moved away could have been, and those are not on the way to the
directory of an entry. A hidden file and an entry may have changed before. -/
lemma Between.touch (hc : Compatible c named) (ha : Wanted c follow net v named a)
    (h : Between c follow net v named u) (htouch : Touch c v u a change) :
    Between c follow net v named (change.apply u) := by
  have ha' := ha.for_named hc
  have hlegal := htouch.legal
  refine ⟨h.later.trans hlegal.later, hlegal.wellFormed h.wellFormed, fun l => ?_⟩
  have hkept : (change.apply u).node? l = u.node? l → (change.apply u).node? l = v.node? l ∨
      ∃ b, Wanted c follow net v named b ∧ Changed c v (change.apply u) b l := by
    intro hsame
    rcases h.changed l with heq | ⟨b, hb, hchanged⟩
    · exact .inl (hsame.trans heq)
    · exact .inr ⟨b, hb, hchanged.touch hc h.wellFormed h.later ha hb htouch hsame⟩
  cases htouch with
  | @directory m habove hlegal hallowed =>
    by_cases hl : l = m
    · obtain rfl := hl
      refine .inr ⟨a, ha, .directory habove ?_ hallowed ?_⟩
      · rcases h.changed l with heq | ⟨b, hb, hchanged⟩
        · exact heq ▸ hlegal.1
        · cases hchanged with
          | directory _ hnone _ _ => exact hnone
          | hidden hnames _ =>
            exact absurd habove (hc.hidden_not_above (hb.for_named hc) ha' hnames v)
          | entry hstored => exact absurd hlegal.1 (by simp [hstored.entry])
      · rw [Change.node?_makeDirectory, if_pos rfl]
    · exact hkept (by rw [Change.node?_makeDirectory, if_neg hl])
  | hidden hnames hlegal hpending =>
    have hnode := Change.node?_write u (locate_hiddenPath_ne_nil v (a.entry c))
    by_cases hl : l = v.locate (hiddenPath (a.entry c))
    · rw [hl]
      refine .inr ⟨a, ha, .hidden hnames ?_⟩
      rw [hnode, if_pos rfl]
      simp
    · exact hkept (by rw [hnode, if_neg hl])
  | moved hstoring hlegal hwritten =>
    have hstored := hstoring.stored_of_move hlegal hwritten
    by_cases hentry : l = v.locate (a.entry c)
    · rw [hentry]
      exact .inr ⟨a, ha, .entry hstored⟩
    · by_cases hhidden : l = v.locate (hiddenPath (a.entry c))
      · rw [hhidden]
        refine .inr ⟨a, ha, .hidden hstoring.names ?_⟩
        rw [hstored.hidden]
        simp
      · exact hkept (by rw [hstoring.node?_move hwritten, if_neg hentry, if_neg hhidden])

/-- **Each entry is as it was or complete** while workers store entries. -/
lemma Between.content?_eq (hc : Compatible c named) (hv : v.WellFormed)
    (h : Between c follow net v named u) (hn : n ∈ named) :
    content? c u n.name = content? c v n.name ∨
      ∃ a, Wanted c follow net v named a ∧ a.named = n ∧ Stored c v u a := by
  by_contra hno
  push Not at hno
  refine hno.1 (content?_eq_of_node? hv h.wellFormed hc.dots (hc.accepted.identifier n hn)
    h.later.current.symm fun htext b => ?_)
  rcases h.changed (v.locate (entryPath c n.name)) with heq | ⟨a, ha, hchanged⟩
  · rw [heq]
  · have ha' := ha.for_named hc
    generalize hl : v.locate (entryPath c n.name) = l at hchanged ⊢
    cases hchanged with
    | directory _ hnone _ hmade =>
      rw [hnone, hmade]
      simp
    | hidden hnames _ => exact absurd hl (hc.entry_ne_hidden ha' hn htext hnames v)
    | entry hstored =>
      by_cases heq : n = a.named
      · exact absurd hstored (hno.2 a ha heq.symm)
      · exact absurd hl (hc.entry_ne ha' hn htext heq v)

/-! ## Changes in a row -/

/-- Changes of several workers on a volume `u` that has come of `v`, in any order. -/
inductive Weaves (c : Config) (follow : Bool) (net : Network) (v : Volume) (named : List Named) :
    Volume → List Change → Prop where
  | nil (u : Volume) : Weaves c follow net v named u []
  | cons {u : Volume} {a : Attempt} {change : Change} {rest : List Change}
    (ha : Wanted c follow net v named a) (h : Touch c v u a change)
    (hrest : Weaves c follow net v named (change.apply u) rest) :
    Weaves c follow net v named u (change :: rest)

namespace Weaves

variable {changes changes' : List Change} {w : Volume}


/-- Changes one after the other. -/
lemma append (h : Weaves c follow net v named u changes)
    (h' : Weaves c follow net v named (Change.applyAll u changes) changes') :
    Weaves c follow net v named u (changes ++ changes') := by
  induction h with
  | nil u => exact h'
  | cons ha htouch _ ih => exact .cons ha htouch (ih h')

/-- Workers make legal changes. -/
lemma legal (h : Weaves c follow net v named u changes) : Change.LegalAll u changes := by
  induction h with
  | nil u => trivial
  | cons _ htouch _ ih => exact ⟨htouch.legal, ih⟩

/-- **What is where after changes of workers that are stopped at any point**, perhaps in the middle
of writing a file. -/
lemma between (hc : Compatible c named) (h : Weaves c follow net v named u changes)
    (hu : Between c follow net v named u) (hstop : Stopped u changes w) :
    Between c follow net v named w := by
  induction hstop with
  | here u changes => exact hu
  | torn u place content written rest =>
    cases h with
    | cons ha htouch _ =>
      generalize hchange : Change.write place content = change at htouch
      cases htouch with
      | directory habove hlegal hallowed => cases hchange
      | hidden hnames hlegal hpending =>
        cases hchange
        exact hu.touch hc ha (.hidden hnames hlegal hpending)
      | moved hstoring hlegal hwritten => cases hchange
  | step _ ih =>
    cases h with
    | cons ha htouch hrest => exact ih hrest (hu.touch hc ha htouch)

end Weaves

/-- What the task of a fixture changes in one step: nothing, or one thing that belongs to its
text. -/
inductive Acts (c : Config) (follow : Bool) (net : Network) (v : Volume) (named : List Named)
    (u : Volume) (n : Named) : List Change → Prop where
  | idle : Acts c follow net v named u n []
  | touch {a : Attempt} {change : Change} (ha : Wanted c follow net v named a) (hn : a.named = n)
    (h : Touch c v u a change) : Acts c follow net v named u n [change]

/-- The changes of a task are among those of several workers. -/
lemma Acts.weaves {changes : List Change} (h : Acts c follow net v named u n changes) :
    Weaves c follow net v named u changes := by
  cases h with
  | idle => exact .nil u
  | touch ha hn htouch => exact .cons ha htouch (.nil _)

end ParseBench.Fixture
