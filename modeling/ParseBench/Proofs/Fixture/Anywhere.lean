import ParseBench.Proofs.Fixture.Sites
import ParseBench.Proofs.Fixture.Turns

set_option relaxedAutoImplicit false
set_option autoImplicit false

/-!
# Resolutions on any volume

Along every schedule, on every volume and for every path of the cache, a resolution changes only
what the workers of its entries change, and fails for a reason of one of its fixtures. Where it
returns, each fixture has a name that is a text and an entry that can name a file.

## Main definitions

* `ParseBench.Fixture.FailsSomewhere` — why a single fixture fails, on some volume.
* `ParseBench.Fixture.Stage.Sited` — what a task knows of any volume.
* `ParseBench.Fixture.Resolution.Sited` — what is known of a resolution on any volume.

## Main results

* `ParseBench.Fixture.Resolution.Sited.turn`, `ParseBench.Fixture.Resolution.Sited.play` — one turn,
  and a whole schedule.
* `ParseBench.Fixture.sited_play` — what is known of a resolution along any schedule.
-/

namespace ParseBench.Fixture

open ParseBench.Bench (Config)
open ParseBench.Files
open ParseBench.Http (FetchFault Network)
open ParseBench.Log (Desk)

variable {c : Config} {follow : Bool} {net : Network} {v u : Volume} {named : List Named}
  {n m : Named} {stage next : Stage} {made : List Change} {es : List Event} {abort : CacheAbort}

/-! ## One task -/

/-- Why a single fixture fails, on some volume: what is in the place of its entry cannot be read,
its fetch fails, or a text cannot be stored. -/
inductive FailsSomewhere (c : Config) (follow : Bool) (net : Network) (n : Named) :
    CacheAbort → Prop where
  | entry {w : Volume} {abort : CacheAbort} (h : look c w n.name = .fault abort) :
    FailsSomewhere c follow net n abort
  | fetch {fault : FetchFault} (h : (Http.fetch follow net n.url).result? = some (.error fault)) :
    FailsSomewhere c follow net n (.ofFetch n.url fault)
  | store {e : StoreFault} (h : Unstored (entryPath c n.name) e) :
    FailsSomewhere c follow net n (.ofStore (entryPath c n.name) e)

/-- A fixture that is found has a proper entry, and its name is a text. -/
lemma proper_of_look (hu : u.WellFormed) {content : String} (h : look c u n.name = .hit content) :
    n.name.isText = true ∧ Proper (entryPath c n.name) := by
  obtain ⟨b, hb, -⟩ := look_eq_hit_iff.1 h
  have htext := isText_of_readEntry hb
  rw [readEntry_of_isText c u htext] at hb
  exact ⟨htext, proper_of_read hu hb⟩

namespace Stage

/-- What the task of a fixture knows at a stage, on any volume. -/
def Sited (c : Config) (follow : Bool) (net : Network) (u : Volume) (n : Named) : Stage → Prop
  | .looking | .dropped => True
  | .looked found => ∃ w : Volume, w.WellFormed ∧ found = look c w n.name
  | .fetching _ ending => ending = (Http.fetch follow net n.url).result?
  | .storing content job | .abandoned content job =>
    (Http.fetch follow net n.url).result? = some (.ok content) ∧ job.Sited c u (entryPath c n.name)
  | .done _ => n.name.isText = true ∧ Proper (entryPath c n.name)

/-- The changes that are made for a fixture: its name is a text, and they are those of a worker. -/
def Works (c : Config) (u : Volume) (n : Named) (made : List Change) : Prop :=
  ∀ ch ∈ made, n.name.isText = true ∧ Work c u (entryPath c n.name) ch

/-- What one step of a task does on any volume, and what the task knows then. -/
structure Goes (c : Config) (follow : Bool) (net : Network) (u : Volume) (n : Named)
    (made : List Change) (r : Except CacheAbort Stage) : Prop where
  legal : Change.LegalAll u made
  works : Works c u n made
  goes : ∀ next, r = .ok next → next.Sited c follow net (Change.applyAll u made) n
  fails : ∀ abort, r = .error abort → FailsSomewhere c follow net n abort

/-- A step that changes nothing. -/
lemma goes_idle (h : next.Sited c follow net u n) : Goes c follow net u n [] (.ok next) :=
  ⟨trivial, by simp [Works], fun _ hnext => by cases hnext; exact h, by simp⟩

/-- A step that fails. -/
lemma goes_fail (h : FailsSomewhere c follow net n abort) :
    Goes c follow net u n [] (.error abort) :=
  ⟨trivial, by simp [Works], by simp, fun _ habort => by cases habort; exact h⟩

/-- A step of the worker of a text, whether or not its task was given up. -/
lemma goes_work (hu : u.WellFormed) (hid : identifier n.url = .ok n.name) {content : String}
    {job : Job} (hfetched : (Http.fetch follow net n.url).result? = some (.ok content))
    (hjob : job.Sited c u (entryPath c n.name)) (piece : Option Nat) :
    Change.LegalAll u (job.step u (entryPath c n.name) (Text.Utf8.encode content) piece).1 ∧
      Works c u n (job.step u (entryPath c n.name) (Text.Utf8.encode content) piece).1 ∧
      (job.step u (entryPath c n.name) (Text.Utf8.encode content) piece).2.Sited c
        (Change.applyAll u (job.step u (entryPath c n.name) (Text.Utf8.encode content) piece).1)
        (entryPath c n.name) := by
  have hgoes := hjob.step hu (seated_entryPath c hid) (Text.Utf8.encode content) piece
  exact ⟨hgoes.legal, fun ch hch => ⟨isText_of_fetch hid hfetched, hgoes.work ch hch⟩, hgoes.sited⟩

/-- **What one step of a task does** on any volume. -/
lemma Sited.step (hu : u.WellFormed) (hid : identifier n.url = .ok n.name) {piece : Option Nat}
    {r : Except CacheAbort Stage} (h : stage.Sited c follow net u n)
    (hstep : Step c follow net u n piece stage made es r) : Goes c follow net u n made r := by
  cases hstep with
  | looks => exact goes_idle ⟨u, hu, rfl⟩
  | found =>
    obtain ⟨w, hw, hlook⟩ := h
    exact goes_idle (proper_of_look hw hlook.symm)
  | spoiled =>
    obtain ⟨w, -, hlook⟩ := h
    exact goes_fail (.entry hlook.symm)
  | missed => exact goes_idle rfl
  | asks | waits => exact goes_idle h
  | lost => exact goes_fail (.fetch h.symm)
  | arrived => exact goes_idle ⟨h.symm, Job.sited_start c u _⟩
  | stored => exact goes_idle ⟨isText_of_fetch hid h.1, h.2⟩
  | unstored => exact goes_fail (.store h.2)
  | works hgoing =>
    obtain ⟨hlegal, hworks, hnext⟩ := goes_work hu hid h.1 h.2 piece
    refine ⟨hlegal, hworks, ?_, by simp⟩
    rintro - ⟨⟩
    exact ⟨h.1, hnext⟩
  | abandoned =>
    obtain ⟨hlegal, hworks, hnext⟩ := goes_work hu hid h.1 h.2 piece
    refine ⟨hlegal, hworks, ?_, by simp⟩
    rintro - ⟨⟩
    exact ⟨h.1, hnext⟩
  | done => exact goes_idle h
  | dropped => exact goes_idle trivial

/-- What a task knows is preserved by the workers of others. -/
lemma Sited.frame (hid : identifier m.url = .ok m.name) (hlegal : Change.LegalAll u made)
    (hworks : Works c u m made) (h : stage.Sited c follow net u n) :
    stage.Sited c follow net (Change.applyAll u made) n := by
  cases stage with
  | storing content job | abandoned content job =>
    exact ⟨h.1, h.2.frame (seated_entryPath c hid) hlegal fun ch hch => (hworks ch hch).2⟩
  | looking | looked | fetching | done | dropped => exact h

/-- What a task knows when it is given up. -/
lemma Sited.giveUp (h : stage.Sited c follow net u n) : stage.giveUp.Sited c follow net u n := by
  cases stage with
  | looking | looked | fetching => trivial
  | storing | abandoned | done | dropped => exact h

end Stage

/-! ## All tasks -/

namespace Resolution

variable {r : Resolution} {position : Nat}

/-- What is known of a resolution on any volume: it has made the changes of workers of its fixtures,
each of its tasks knows what it has to, and it has failed because of one of its fixtures, if at
all. -/
structure Sited (c : Config) (follow : Bool) (net : Network) (v : Volume) (named : List Named)
    (r : Resolution) : Prop extends r.Begun v named where
  legal : Change.LegalAll v r.progress.changes
  works : ∀ ch ∈ r.progress.changes, ∃ n ∈ named, n.name.isText = true ∧
    Work c v (entryPath c n.name) ch
  tasks : ∀ t ∈ r.tasks, t.2.Sited c follow net r.progress.volume t.1
  failure : ∀ abort, r.failure = some abort → ∃ n ∈ named, FailsSomewhere c follow net n abort

/-- The volume of a resolution is well formed. -/
lemma Sited.wellFormed (hv : v.WellFormed) (h : r.Sited c follow net v named) :
    r.progress.volume.WellFormed := by
  rw [h.volume_eq]
  exact h.legal.wellFormed hv

/-- A resolution that has not begun. -/
lemma Sited.start (c : Config) (follow : Bool) (net : Network) (v : Volume) (named : List Named) :
    (Resolution.start (.ofVolume v) named).Sited c follow net v named where
  toBegun := .start v named
  legal := trivial
  works := by simp [Resolution.start, Progress.ofDesk]
  tasks := by
    intro t ht
    obtain ⟨n, -, rfl⟩ := List.mem_map.1 ht
    trivial
  failure := by simp [Resolution.start]

/-- What the step of the task at a position does, on any volume. -/
lemma Sited.goes (haccepted : Accepted named) (hv : v.WellFormed)
    (h : r.Sited c follow net v named) {piece : Option Nat} {outcome : Except CacheAbort Stage}
    (htask : r.tasks[position]? = some (n, stage))
    (hstep : Stage.Step c follow net r.progress.volume n piece stage made es outcome) :
    Stage.Goes c follow net r.progress.volume n made outcome :=
  (h.tasks _ (List.mem_of_getElem? htask)).step (h.wellFormed hv)
    (haccepted.identifier _ (h.mem htask)) hstep

/-- Steps preserve what the tasks know. -/
lemma Sited.preserves (haccepted : Accepted named) (hv : v.WellFormed)
    (h : r.Sited c follow net v named) :
    Preserves c follow net r fun u n stage => stage.Sited c follow net u n where
  goes htask hstep := (h.goes haccepted hv htask hstep).goes _ rfl
  stays htask hstep t ht _ := by
    have hgoes := h.goes haccepted hv htask hstep
    exact (h.tasks t ht).frame (haccepted.identifier _ (h.mem htask)) hgoes.legal hgoes.works
  fails _ _ := trivial
  quits h := h.giveUp

/-- **What one turn preserves.** -/
lemma Sited.turn (haccepted : Accepted named) (hv : v.WellFormed)
    (h : r.Sited c follow net v named) (turn : Turn) :
    (r.turn c follow net turn).Sited c follow net v named := by
  have hnodup : (r.tasks.map Prod.fst).Nodup := h.names ▸ haccepted.nodup.of_map _
  have hturned := turn_cases c follow net h.quiet turn
  have hbegun := h.turned hturned
  have htasks := Each.turned hnodup h.tasks (h.preserves haccepted hv) hturned
  generalize r.turn c follow net turn = r' at hturned hbegun htasks
  cases hturned with
  | waits | absent => exact h
  | gaveUp => exact ⟨hbegun, h.legal, h.works, htasks, h.failure⟩
  | @went position piece n stage next made es htask hstep =>
    have hgoes := h.goes haccepted hv htask hstep
    refine ⟨hbegun, ?_, List.forall_mem_append.2 ⟨h.works, fun ch hch => ?_⟩, htasks, h.failure⟩
    · refine Change.legalAll_append.2 ⟨h.legal, ?_⟩
      rw [← h.volume_eq]
      exact hgoes.legal
    · obtain ⟨htext, hwork⟩ := hgoes.works ch hch
      refine ⟨n, h.mem htask, htext, hwork.of_current ?_⟩
      rw [h.volume_eq, Change.applyAll_current]
  | @failed position piece n stage abort htask hstep =>
    have hfails := (h.goes haccepted hv htask hstep).fails abort rfl
    refine ⟨hbegun, ?_, ?_, htasks, fun abort' habort => ?_⟩
    · rw [progress_fail]
      exact h.legal
    · rw [progress_fail]
      exact h.works
    · rcases failure_fail_eq_some habort with hbefore | rfl
      · exact h.failure abort' hbefore
      · exact ⟨n, h.mem htask, hfails⟩

/-- **What a whole schedule preserves.** -/
lemma Sited.play (haccepted : Accepted named) (hv : v.WellFormed)
    (h : r.Sited c follow net v named) (turns : List Turn) :
    (r.play c follow net turns).Sited c follow net v named := by
  induction turns generalizing r with
  | nil => exact h
  | cons turn turns ih => exact ih (h.turn haccepted hv turn)

end Resolution

/-- What is known of a resolution along any schedule. -/
lemma sited_play (c : Config) (follow : Bool) (net : Network) (haccepted : Accepted named)
    (hv : v.WellFormed) (turns : List Turn) :
    ((Resolution.start (.ofVolume v) named).play c follow net turns).Sited c follow net v named :=
  (Resolution.Sited.start c follow net v named).play haccepted hv turns

end ParseBench.Fixture
