import ParseBench.Proofs.Fixture.Reach

set_option relaxedAutoImplicit false
set_option autoImplicit false

/-!
# What is found and what is left

All fixtures that a resolution returns are found from then on, along every schedule: each was found
or stored, and no worker gets into the way of another's entry. A fixture that was found before is
returned as it was. The path of the cache may have names of two dots here, so that an entry can come
to be found by a directory that is made for another; what is found stays found nevertheless.

To resolve again what is found takes no requests and no changes: after as many turns of its own,
each task is at the same stage, whatever the others do.

## Main definitions

* `ParseBench.Fixture.Stage.Leaves` — what a task has found or left on the volume.
* `ParseBench.Fixture.Stage.Finds` — what a task knows of a fixture that is found.
* `ParseBench.Fixture.Stage.found` — the stages of a task whose fixture is found.
* `ParseBench.Fixture.Resolution.FoundSoFar` — a resolution of fixtures that are found.

## Main results

* `ParseBench.Fixture.distant_of_separate` — entries that do not get into each other's way.
* `ParseBench.Fixture.found_of_resolveNamedAlong` — all that is returned is found afterwards.
* `ParseBench.Fixture.kept_of_resolveNamedAlong` — what was found is returned as it was.
* `ParseBench.Fixture.resolveNamedAlong_found` — resolving what is found.
-/

namespace ParseBench.Fixture

open ParseBench.Bench (Config)
open ParseBench.Files
open ParseBench.Http (Network)
open ParseBench.Text (Points)

variable {c : Config} {follow : Bool} {net : Network} {v u w : Volume} {named : List Named}
  {n m : Named} {stage next : Stage} {made : List Change} {es : List Event} {content : String}

/-! ## Entries in different places -/

/-- An entry that is not that of a single dot is in the directory of the cache, under its name. -/
lemma spot_entryPath (hid : identifier n.url = .ok n.name) (hdot : n.name.lossy ≠ ".")
    (hproper : Proper (entryPath c n.name)) (u : Volume) :
    u.spot (entryPath c n.name) = u.spot c.cache ++ [n.name.lossy] := by
  rw [hproper.spot_eq, entryPath_of_ne c hid hdot]
  congr 2
  · rw [Path.parent, List.dropLast_concat]
  · exact name_eq rfl

/-- Its hidden file is there too. -/
lemma spot_hidden_entryPath (hid : identifier n.url = .ok n.name) (hdot : n.name.lossy ≠ ".")
    (u : Volume) :
    u.spot (hiddenPath (entryPath c n.name)) = u.spot c.cache ++ [temporaryName n.name.lossy] := by
  rw [spot_hiddenPath, entryPath_of_ne c hid hdot]
  congr 2
  · rw [Path.parent, List.dropLast_concat]
  · exact congrArg temporaryName (name_eq rfl)

/-- **A worker does not write where another entry is**, unless the entry has the name of its hidden
file.

**Proof sketch.** Two entries are in the same directory under different names, unless one of them is
the cache itself. This is a level above all others then, and so is its hidden file. -/
lemma spared_of_ne (haccepted : Accepted named) (hn : n ∈ named) (hm : m ∈ named) (hne : n ≠ m)
    (hhidden : n.name ≠ hiddenName m.name) (htext : n.name.isText = true)
    (htext' : m.name.isText = true) (hproper : Proper (entryPath c n.name))
    (hproper' : Proper (entryPath c m.name)) (u : Volume) :
    Spared u (u.spot (entryPath c n.name)) (entryPath c m.name) := by
  have hid := haccepted.identifier n hn
  have hid' := haccepted.identifier m hm
  have hlossy : n.name.lossy ≠ m.name.lossy := fun heq =>
    hne (haccepted.eq_of_name hn hm (Points.lossy_injective htext htext' heq))
  by_cases hdot : n.name.lossy = "."
  · have hdot' : m.name.lossy ≠ "." := fun heq => hlossy (hdot.trans heq.symm)
    rw [entryPath_dot c hdot]
    constructor
    · rw [spot_entryPath hid' hdot' hproper']
      simp
    · rw [spot_hidden_entryPath hid' hdot']
      simp
  · rw [spot_entryPath hid hdot hproper]
    by_cases hdot' : m.name.lossy = "."
    · have hcache : entryPath c m.name = c.cache := entryPath_dot c hdot'
      rw [hcache] at hproper' ⊢
      constructor
      · simp
      · rw [spot_hiddenPath, hproper'.spot_eq u]
        intro heq
        have hlength := congrArg List.length heq
        simp at hlength
    · constructor
      · rw [spot_entryPath hid' hdot' hproper']
        simpa using hlossy
      · rw [spot_hidden_entryPath hid' hdot']
        intro heq
        have hlast : n.name.lossy = temporaryName m.name.lossy := by simpa using heq
        rw [← lossy_hiddenName] at hlast
        exact hhidden (Points.lossy_injective htext (isText_hiddenName htext') hlast)

/-- **Two entries and their hidden files** are in different places if neither has the name of the
other's hidden file.

**Proof sketch.** An entry is in the directory of the cache under its name, or it is this directory
if the name is a single dot. At most one of two entries is, and then their places have different
lengths; otherwise the names differ. -/
lemma distant_of_separate (hsep : Separate named) (hn : n ∈ named) (hm : m ∈ named) (hne : n ≠ m)
    (htext : n.name.isText = true) (htext' : m.name.isText = true)
    (hproper : Proper (entryPath c n.name)) (hproper' : Proper (entryPath c m.name)) (u : Volume) :
    Distant u (entryPath c n.name) (entryPath c m.name) := by
  have hspared := spared_of_ne hsep.accepted hn hm hne (hsep.unhidden n hn m hm) htext htext'
    hproper hproper' u
  have hspared' := spared_of_ne hsep.accepted hm hn (Ne.symm hne) (hsep.unhidden m hm n hn) htext'
    htext hproper' hproper u
  refine ⟨hspared, hspared'.ne_hidden.symm, ?_⟩
  have hid := hsep.accepted.identifier n hn
  have hid' := hsep.accepted.identifier m hm
  have hlossy : n.name.lossy ≠ m.name.lossy := fun heq =>
    hne (hsep.accepted.eq_of_name hn hm (Points.lossy_injective htext htext' heq))
  by_cases hdot : n.name.lossy = "."
  · have hdot' : m.name.lossy ≠ "." := fun heq => hlossy (hdot.trans heq.symm)
    have hcache : entryPath c n.name = c.cache := entryPath_dot c hdot
    rw [hcache] at hproper ⊢
    rw [spot_hidden_entryPath hid' hdot', spot_hiddenPath, hproper.spot_eq u]
    intro heq
    have hlength := congrArg List.length heq
    simp at hlength
  · rw [spot_hidden_entryPath hid hdot]
    by_cases hdot' : m.name.lossy = "."
    · have hcache : entryPath c m.name = c.cache := entryPath_dot c hdot'
      rw [hcache] at hproper' ⊢
      rw [spot_hiddenPath, hproper'.spot_eq u]
      intro heq
      have hlength := congrArg List.length heq
      simp at hlength
    · rw [spot_hidden_entryPath hid' hdot']
      intro heq
      have hsame : temporaryName n.name.lossy = temporaryName m.name.lossy := by simpa using heq
      exact hlossy (temporaryName_injective hsame)

/-! ## What tasks find and leave -/

/-- What is found stays found while the worker of another fixture writes elsewhere. -/
lemma look_of_work (hu : u.WellFormed) (hlegal : Change.LegalAll u made)
    (hworks : Stage.Works c u m made)
    (hspared : Spared u (u.spot (entryPath c n.name)) (entryPath c m.name))
    (h : look c u n.name = .hit content) :
    look c (Change.applyAll u made) n.name = .hit content := by
  obtain ⟨b, hb, hdecode⟩ := look_eq_hit_iff.1 h
  have htext := isText_of_readEntry hb
  rw [readEntry_of_isText c u htext] at hb
  have hread := read_of_work hu hlegal (fun ch hch => (hworks ch hch).2) hspared hb
  rw [← readEntry_of_isText c _ htext] at hread
  exact look_eq_hit_iff.2 ⟨b, hread, hdecode⟩

namespace Stage

/-- What the task of a fixture has found or left on the volume: a fixture that it has found, or that
is done, is found there, and so is in the hidden file what its worker has written. -/
def Leaves (c : Config) (u : Volume) (n : Named) : Stage → Prop
  | .looked (.hit content) => look c u n.name = .hit content
  | .storing content job | .abandoned content job =>
    job.Leaves u (entryPath c n.name) (Text.Utf8.encode content)
  | .done content => look c u n.name = .hit content
  | .looking | .looked _ | .fetching _ _ | .dropped => True

/-- **What a step of a task leaves.** -/
lemma Leaves.step (hu : u.WellFormed) (hid : identifier n.url = .ok n.name)
    (hsited : stage.Sited c follow net u n) (h : stage.Leaves c u n) {piece : Option Nat}
    (hstep : Step c follow net u n piece stage made es (.ok next)) :
    next.Leaves c (Change.applyAll u made) n := by
  have hseat := seated_entryPath c hid
  cases hstep with
  | looks =>
    cases hlook : look c u n.name with
    | hit content => exact hlook
    | miss => trivial
    | fault abort => trivial
  | found => exact h
  | missed | asks | waits | arrived | dropped => trivial
  | @stored content es hasked =>
    have htext := isText_of_fetch hid hsited.1
    have hread : u.read (entryPath c n.name) = .ok (Text.Utf8.encode content) := h
    rw [← readEntry_of_isText c u htext] at hread
    exact look_of_readEntry hread
  | works hgoing => exact Job.Leaves.step hu hseat hsited.2 h piece
  | abandoned => exact Job.Leaves.step hu hseat hsited.2 h piece
  | done => exact h

/-- **What a task has left stays** while others store distant entries. -/
lemma Leaves.frame (hu : u.WellFormed) (hlegal : Change.LegalAll u made) (hworks : Works c u m made)
    (hdistant : Distant u (entryPath c n.name) (entryPath c m.name)) (h : stage.Leaves c u n) :
    stage.Leaves c (Change.applyAll u made) n := by
  cases stage with
  | looking | fetching | dropped => trivial
  | looked found =>
    cases found with
    | hit content => exact look_of_work hu hlegal hworks hdistant.entry_spared h
    | miss => trivial
    | fault abort => trivial
  | storing content job | abandoned content job =>
    exact Job.Leaves.frame hu hlegal (fun ch hch => (hworks ch hch).2) hdistant h
  | done content => exact look_of_work hu hlegal hworks hdistant.entry_spared h

/-- What a task has left when it is given up. -/
lemma Leaves.giveUp (h : stage.Leaves c u n) : stage.giveUp.Leaves c u n := by
  cases stage with
  | looking | looked | fetching | dropped => trivial
  | storing | abandoned | done => exact h

/-- What the task of a fixture knows that is found on the volume: it has found this very content. -/
def Finds (content : String) : Stage → Prop
  | .looked found => found = .hit content
  | .done text => text = content
  | .looking | .dropped => True
  | .fetching _ _ | .storing _ _ | .abandoned _ _ => False

/-- What a step of the task of a fixture does that is found. -/
lemma Finds.step (hlook : look c u n.name = .hit content) (h : stage.Finds content)
    {piece : Option Nat} {r : Except CacheAbort Stage}
    (hstep : Step c follow net u n piece stage made es r) :
    made = [] ∧ ∃ next, r = .ok next ∧ next.Finds content := by
  cases hstep with
  | looks => exact ⟨rfl, _, rfl, hlook⟩
  | found =>
    cases h
    exact ⟨rfl, _, rfl, rfl⟩
  | spoiled | missed => cases h
  | asks | waits | lost | arrived | stored | unstored | works | abandoned => exact h.elim
  | done => exact ⟨rfl, _, rfl, h⟩
  | dropped => exact ⟨rfl, _, rfl, trivial⟩

/-- A task that finds its fixture and is given up. -/
lemma Finds.giveUp (h : stage.Finds content) : stage.giveUp.Finds content := by
  cases stage with
  | looking | looked | dropped => trivial
  | done text => exact h
  | fetching | storing | abandoned => exact h.elim

end Stage

/-! ## Along a schedule -/

namespace Resolution

variable {r : Resolution}

/-- All tasks of a resolution have left what they have to on its volume. -/
def Leaves (c : Config) (r : Resolution) : Prop :=
  ∀ t ∈ r.tasks, t.2.Leaves c r.progress.volume t.1

/-- **What one turn leaves.** -/
lemma Leaves.turn (haccepted : Accepted named) (hv : v.WellFormed)
    (hsited : r.Sited c follow net v named)
    (hdistant : ∀ n ∈ named, ∀ m ∈ named, n ≠ m → ∀ u : Volume,
      Distant u (entryPath c n.name) (entryPath c m.name))
    (h : r.Leaves c) (turn : Turn) : (r.turn c follow net turn).Leaves c := by
  have hu := hsited.wellFormed hv
  have hnodup : (r.tasks.map Prod.fst).Nodup := hsited.names ▸ haccepted.nodup.of_map _
  have hpreserves : Preserves c follow net r fun u n stage => stage.Leaves c u n := by
    refine ⟨fun {position piece n stage next made es} htask hstep => ?_,
      fun {position piece n stage next made es} htask hstep t ht hne => ?_, fun _ _ => trivial,
      fun hleft => hleft.giveUp⟩
    · have hmem := List.mem_of_getElem? htask
      have hleft : stage.Leaves c r.progress.volume n := h _ hmem
      have hknown : stage.Sited c follow net r.progress.volume n := hsited.tasks _ hmem
      exact hleft.step hu (haccepted.identifier n (hsited.mem htask)) hknown hstep
    · have hgoes := hsited.goes haccepted hv htask hstep
      have hfixture : t.1 ∈ named := hsited.names ▸ List.mem_map_of_mem ht
      exact (h t ht).frame hu hgoes.legal hgoes.works
        (hdistant _ hfixture n (hsited.mem htask) hne _)
  exact Each.turned hnodup h hpreserves (turn_cases c follow net hsited.quiet turn)

/-- **What a whole schedule leaves.** -/
lemma Leaves.play (haccepted : Accepted named) (hv : v.WellFormed)
    (hsited : r.Sited c follow net v named)
    (hdistant : ∀ n ∈ named, ∀ m ∈ named, n ≠ m → ∀ u : Volume,
      Distant u (entryPath c n.name) (entryPath c m.name))
    (h : r.Leaves c) (turns : List Turn) : (r.play c follow net turns).Leaves c := by
  induction turns generalizing r with
  | nil => exact h
  | cons turn turns ih =>
    exact ih (hsited.turn haccepted hv turn) (h.turn haccepted hv hsited hdistant turn)

/-- A fixture is found on the volume of a resolution, and its task knows it. -/
structure Finds (c : Config) (n : Named) (content : String) (r : Resolution) : Prop where
  look_eq : look c r.progress.volume n.name = .hit content
  tasks : ∀ stage, (n, stage) ∈ r.tasks → stage.Finds content

/-- **A turn keeps what is found.**

**Proof sketch.** The own task of the fixture changes nothing before it is done; a step of another
one is work at another entry, which spares this one (`look_of_work`). -/
lemma Finds.turn (haccepted : Accepted named) (hv : v.WellFormed)
    (hsited : r.Sited c follow net v named)
    (hspared : ∀ m ∈ named, n ≠ m → ∀ u : Volume,
      Spared u (u.spot (entryPath c n.name)) (entryPath c m.name))
    (h : r.Finds c n content) (turn : Turn) : (r.turn c follow net turn).Finds c n content := by
  have hnodup : (r.tasks.map Prod.fst).Nodup := hsited.names ▸ haccepted.nodup.of_map _
  have heach : r.Each fun _ m stage => m = n → stage.Finds content := by
    rintro ⟨m, stage⟩ ht rfl
    exact h.tasks stage ht
  have hpreserves : Preserves c follow net r fun _ m stage => m = n → stage.Finds content := by
    refine ⟨?_, fun _ _ t ht _ => heach t ht, fun _ _ _ => trivial,
      fun hfinds heq => (hfinds heq).giveUp⟩
    rintro position piece m stage next made es htask hstep rfl
    obtain ⟨-, next', hnext, hfinds⟩ :=
      (h.tasks stage (List.mem_of_getElem? htask)).step h.look_eq hstep
    exact Except.ok.inj hnext ▸ hfinds
  have hturned := turn_cases c follow net hsited.quiet turn
  have htasks := heach.turned hnodup hpreserves hturned
  generalize r.turn c follow net turn = r' at hturned htasks
  refine ⟨?_, fun stage hs => htasks _ hs rfl⟩
  cases hturned with
  | waits | absent | gaveUp => exact h.look_eq
  | @went position piece m stage next made es htask hstep =>
    by_cases hne : n = m
    · subst hne
      obtain ⟨rfl, -⟩ := (h.tasks stage (List.mem_of_getElem? htask)).step h.look_eq hstep
      exact h.look_eq
    · have hgoes := hsited.goes haccepted hv htask hstep
      exact look_of_work (hsited.wellFormed hv) hgoes.legal hgoes.works
        (hspared m (hsited.mem htask) hne _) h.look_eq
  | failed htask hstep =>
    rw [progress_fail]
    exact h.look_eq

/-- **A schedule keeps what is found.** -/
lemma Finds.play (haccepted : Accepted named) (hv : v.WellFormed)
    (hsited : r.Sited c follow net v named)
    (hspared : ∀ m ∈ named, n ≠ m → ∀ u : Volume,
      Spared u (u.spot (entryPath c n.name)) (entryPath c m.name))
    (h : r.Finds c n content) (turns : List Turn) :
    (r.play c follow net turns).Finds c n content := by
  induction turns generalizing r with
  | nil => exact h
  | cons turn turns ih =>
    exact ih (hsited.turn haccepted hv turn) (h.turn haccepted hv hsited hspared turn)

end Resolution

section Returned

variable {turns : List Turn} {p : Progress} {fs : List Bench.Fixture}

/-- **All that is returned is found** afterwards. -/
lemma found_of_resolveNamedAlong (hsep : Separate named) (hv : v.WellFormed)
    (h : resolveNamedAlong c follow net turns (.ofVolume v) named = (p, .ok fs)) :
    List.Forall₂ (fun n f => f.identifier = n.name.lossy ∧ look c p.volume n.name = .hit f.content)
      named fs := by
  obtain ⟨rfl, hok⟩ := Prod.mk.inj h
  have hstart := Resolution.Sited.start c follow net v named
  have hsited := sited_play c follow net hsep.accepted hv turns
  have hproper := fun n (hn : n ∈ named) => hsited.proper hok hn
  have hleaves : ((Resolution.start (.ofVolume v) named).play c follow net turns).Leaves c := by
    refine Resolution.Leaves.play hsep.accepted hv hstart (fun n hn m hm hne u => ?_) ?_ turns
    · exact distant_of_separate hsep hn hm hne (hproper n hn).1 (hproper m hm).1 (hproper n hn).2
        (hproper m hm).2 u
    · intro t ht
      obtain ⟨n, -, rfl⟩ := List.mem_map.1 ht
      trivial
  generalize (Resolution.start (.ofVolume v) named).play c follow net turns = r at hok hsited hleaves
  rw [← hsited.names, List.forall₂_map_left_iff]
  refine (hsited.returned hok).imp ?_
  rintro ⟨n, stage⟩ f ⟨hmem, hdone, -, -, hname⟩
  obtain rfl : stage = .done f.content := hdone
  dsimp only at hname ⊢
  exact ⟨by rw [hname, Points.lossy_ofString], hleaves _ hmem⟩

/-- **What was found is returned as it was**, if no other fixture has a hidden file of its name. -/
lemma kept_of_resolveNamedAlong (haccepted : Accepted named) (hv : v.WellFormed) (hn : n ∈ named)
    (hhidden : ∀ m ∈ named, n.name ≠ hiddenName m.name) (hlook : look c v n.name = .hit content)
    (h : resolveNamedAlong c follow net turns (.ofVolume v) named = (p, .ok fs)) :
    List.Forall₂ (fun m f => m = n → f = ⟨n.name.lossy, content⟩) named fs := by
  obtain ⟨rfl, hok⟩ := Prod.mk.inj h
  have hstart := Resolution.Sited.start c follow net v named
  have hsited := sited_play c follow net haccepted hv turns
  have hproper := fun n (hn : n ∈ named) => hsited.proper hok hn
  have hfinds : ((Resolution.start (.ofVolume v) named).play c follow net turns).Finds c n
      content := by
    refine Resolution.Finds.play haccepted hv hstart (fun m hm hne u => ?_) ⟨hlook, ?_⟩ turns
    · exact spared_of_ne haccepted hn hm hne (hhidden m hm) (hproper n hn).1 (hproper m hm).1
        (hproper n hn).2 (hproper m hm).2 u
    · intro stage hs
      obtain ⟨m, -, heq⟩ := List.mem_map.1 hs
      cases heq
      trivial
  rw [← hsited.names, List.forall₂_map_left_iff]
  refine (hsited.returned hok).imp ?_
  rintro ⟨m, stage⟩ f ⟨hmem, hdone, -, -, hname⟩ heq
  obtain rfl : m = n := heq
  obtain rfl : stage = .done f.content := hdone
  have hcontent : f.content = content := hfinds.tasks _ hmem
  obtain ⟨identifier, text⟩ := f
  dsimp only at hname hcontent
  rw [hname, hcontent, Points.lossy_ofString]

end Returned

/-! ## Resolving what is found -/

/-- Whether it is the turn of the task at a position. -/
def Turn.isOf (position : Nat) : Turn → Bool
  | .task i _ => i == position
  | .giveUp => false

/-- The stage of a task after so many turns if its fixture is found. -/
def Stage.found (content : String) : Nat → Stage
  | 0 => .looking
  | 1 => .looked (.hit content)
  | _ => .done content

/-- The steps of a task whose fixture is found. -/
lemma Stage.found_step (hlook : look c w n.name = .hit content) {k : Nat} {piece : Option Nat}
    {r : Except CacheAbort Stage}
    (hstep : Step c follow net w n piece (found content k) made es r) :
    made = [] ∧ requested es = [] ∧ r = .ok (found content (k + 1)) := by
  rcases k with _ | _ | k
  · cases hstep
    exact ⟨rfl, rfl, by rw [hlook]; rfl⟩
  · cases hstep with
    | found hasked => exact ⟨rfl, hasked, rfl⟩
  · cases hstep
    exact ⟨rfl, rfl, rfl⟩

namespace Resolution

variable {r : Resolution} {g : Named → String} {k : Nat → Nat}

/-- A resolution of fixtures that are found, after so many turns of each task. -/
structure FoundSoFar (w : Volume) (g : Named → String) (named : List Named) (k : Nat → Nat)
    (r : Resolution) : Prop where
  failure : r.failure = none
  progress : ∃ es, requested es = [] ∧ r.progress = .quiet w [] es
  tasks : ∀ i, r.tasks[i]? = named[i]?.map fun n => (n, Stage.found (g n) (k i))

/-- **A turn of a resolution of fixtures that are found.**

**Proof sketch.** A task whose fixture is found is at a stage that is told by its number of turns,
and its next step asks nothing and changes nothing (`Stage.found_step`); the other tasks stay where
they are. -/
lemma FoundSoFar.turn (follow : Bool) (net : Network)
    (hfound : ∀ n ∈ named, look c w n.name = .hit (g n))
    (h : r.FoundSoFar w g named k) (turn : Turn) :
    (r.turn c follow net turn).FoundSoFar w g named
      fun i => k i + if turn.isOf i then 1 else 0 := by
  obtain ⟨es, hasked, hprogress⟩ := h.progress
  have hquiet : r.progress = .quiet r.progress.volume r.progress.changes r.progress.events := by
    rw [hprogress]
    rfl
  have step : ∀ {position : Nat} {piece : Option Nat} {n : Named} {stage : Stage}
      {made : List Change} {es : List Event} {outcome : Except CacheAbort Stage},
      r.tasks[position]? = some (n, stage) →
      Stage.Step c follow net r.progress.volume n piece stage made es outcome →
        made = [] ∧ requested es = [] ∧ outcome = .ok (Stage.found (g n) (k position + 1)) := by
    intro position piece n stage made es outcome htask hstep
    rw [h.tasks, Option.map_eq_some_iff] at htask
    obtain ⟨m, hm, heq⟩ := htask
    obtain ⟨rfl, rfl⟩ := Prod.mk.inj heq
    rw [hprogress] at hstep
    exact Stage.found_step (hfound m (List.mem_of_getElem? hm)) hstep
  have hturned := turn_cases c follow net hquiet turn
  generalize r.turn c follow net turn = r' at hturned
  cases hturned with
  | waits => exact ⟨h.failure, h.progress, h.tasks⟩
  | gaveUp hfailed => exact absurd h.failure hfailed
  | @absent position piece htask =>
    refine ⟨h.failure, h.progress, fun i => ?_⟩
    by_cases hi : position = i
    · subst hi
      have hnone := (h.tasks position).symm.trans htask
      rw [Option.map_eq_none_iff] at hnone
      rw [htask, hnone]
      rfl
    · simpa [Turn.isOf, hi] using h.tasks i
  | @went position piece n stage next made es' htask hstep =>
    obtain ⟨rfl, hasked', hnext⟩ := step htask hstep
    cases hnext
    refine ⟨h.failure, ⟨es ++ es', ?_, ?_⟩, fun i => ?_⟩
    · rw [requested_append, hasked, hasked', List.append_nil]
    · rw [hprogress]
      rfl
    · by_cases hi : position = i
      · subst hi
        have hlt := (List.getElem?_eq_some_iff.1 htask).1
        rw [h.tasks, Option.map_eq_some_iff] at htask
        obtain ⟨m, hm, heq⟩ := htask
        obtain ⟨rfl, -⟩ := Prod.mk.inj heq
        rw [List.getElem?_set_self hlt, hm]
        simp [Turn.isOf]
      · rw [List.getElem?_set_ne hi, h.tasks]
        simp [Turn.isOf, hi]
  | failed htask hstep =>
    obtain ⟨-, -, hnext⟩ := step htask hstep
    cases hnext

/-- **A schedule of a resolution of fixtures that are found.** -/
lemma FoundSoFar.play (follow : Bool) (net : Network)
    (hfound : ∀ n ∈ named, look c w n.name = .hit (g n))
    (h : r.FoundSoFar w g named k) (turns : List Turn) :
    (r.play c follow net turns).FoundSoFar w g named
      fun i => k i + turns.countP (Turn.isOf i) := by
  induction turns generalizing r k with
  | nil => exact h
  | cons turn turns ih =>
    have hrest := ih (h.turn follow net hfound turn)
    refine ⟨hrest.failure, hrest.progress, fun i => ?_⟩
    rw [Resolution.play, List.foldl_cons]
    refine (hrest.tasks i).trans ?_
    rw [List.countP_cons, Nat.add_assoc, Nat.add_comm (ite _ _ _)]

/-- What comes of a resolution of fixtures that are found, unless it is not over yet. -/
lemma FoundSoFar.result_cases (h : r.FoundSoFar w g named k) :
    r.result = .ok (named.map fun n => ⟨n.name.lossy, g n⟩) ∨
      r.result = .error .endless ∧ ∃ i < named.length, k i < 2 := by
  by_cases hk : ∀ i < named.length, 2 ≤ k i
  · have htasks : r.tasks = named.map fun n => (n, .done (g n)) := by
      refine List.ext_getElem? fun i => ?_
      rw [h.tasks, List.getElem?_map]
      refine Option.map_congr fun n hn => ?_
      have hi := hk i (List.getElem?_eq_some_iff.1 hn).1
      obtain ⟨l, hl⟩ := Nat.exists_eq_add_of_le' hi
      rw [hl, Stage.found]
      · omega
      · omega
    refine .inl (result_eq_ok_iff.2 ⟨h.failure, collect_eq_ok_iff.2 ?_⟩)
    rw [htasks, List.forall₂_map_left_iff, List.forall₂_map_right_iff, List.forall₂_same]
    exact fun n _ => ⟨rfl, rfl⟩
  · push Not at hk
    obtain ⟨i, hi, hlt⟩ := hk
    refine .inr ⟨?_, i, hi, hlt⟩
    rw [result, h.failure]
    dsimp only
    cases hcollect : collect r.tasks with
    | error abort => rw [eq_endless_of_collect hcollect]
    | ok fs =>
      have hall := collect_eq_ok_iff.1 hcollect
      have hlength : i < r.tasks.length := by
        have htask := h.tasks i
        rw [List.getElem?_eq_getElem hi, Option.map_some] at htask
        exact (List.getElem?_eq_some_iff.1 htask).1
      have hdone := (hall.get hlength (hall.length_eq ▸ hlength)).1
      have htask := h.tasks i
      rw [List.getElem?_eq_getElem hi, Option.map_some, List.getElem?_eq_getElem hlength,
        Option.some.injEq] at htask
      rw [List.get_eq_getElem, htask] at hdone
      have hcases : k i = 0 ∨ k i = 1 := by omega
      rcases hcases with hk | hk <;> rw [hk] at hdone <;> cases hdone

end Resolution

/-- **The resolution of fixtures that are found**, along any schedule: nothing is requested and
nothing is changed, and each of them is returned once each task has had two turns. -/
lemma resolveNamedAlong_found {g : Named → String} {turns : List Turn} {p : Progress}
    {result : Except CacheAbort (List Bench.Fixture)}
    (hfound : ∀ n ∈ named, look c w n.name = .hit (g n))
    (h : resolveNamedAlong c follow net turns (.ofVolume w) named = (p, result)) :
    (∃ es, requested es = [] ∧ p = .quiet w [] es) ∧
      (result = .ok (named.map fun n => ⟨n.name.lossy, g n⟩) ∨
        result = .error .endless ∧ ∃ i < named.length, turns.countP (Turn.isOf i) < 2) := by
  obtain ⟨rfl, rfl⟩ := Prod.mk.inj h
  have hstart : (Resolution.start (.ofVolume w) named).FoundSoFar w g named fun _ => 0 := by
    refine ⟨rfl, ⟨[], rfl, rfl⟩, fun i => ?_⟩
    rw [Resolution.start, List.getElem?_map]
    rfl
  have hend := hstart.play follow net hfound turns
  refine ⟨hend.progress, hend.result_cases.imp_right fun hresult => ?_⟩
  obtain ⟨hendless, i, hi, hlt⟩ := hresult
  exact ⟨hendless, i, hi, by omega⟩

/-- Along the prompt schedule each task has two turns at least. -/
lemma two_le_countP_prompt (c : Config) (follow : Bool) (net : Network) (d : Log.Desk) {i : Nat}
    (hi : i < named.length) : 2 ≤ (prompt c follow net d named).countP (Turn.isOf i) := by
  have hmem : startTurns c follow net i named[i] ∈
      named.zipIdx.map fun s => startTurns c follow net s.2 s.1 := by
    refine List.mem_map.2 ⟨(named[i], i), ?_, rfl⟩
    rw [List.mk_mem_zipIdx_iff_getElem?, List.getElem?_eq_getElem hi]
  have hsublist : (startTurns c follow net i named[i]).Sublist (prompt c follow net d named) := by
    rw [prompt]
    refine ((List.sublist_flatten_of_mem hmem).trans ?_).trans (List.sublist_append_left _ _)
    rw [← List.flatMap_def]
    exact List.sublist_append_left _ _
  refine le_trans ?_ hsublist.countP_le
  rw [startTurns]
  dsimp only
  rw [List.countP_append, turnsOf, List.countP_replicate]
  simp [Turn.isOf]
  omega

end ParseBench.Fixture
