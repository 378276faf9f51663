import ParseBench.Proofs.Fixture.Turns
import ParseBench.Proofs.Fixture.Worker

set_option relaxedAutoImplicit false
set_option autoImplicit false

/-!
# Tasks along any schedule

What each task of a resolution knows stays true whatever the other tasks and their workers do, so
that it holds along every schedule. The same goes for what is left to be requested.

## Main definitions

* `ParseBench.Fixture.Stage.Holds` — what a task knows at a stage.
* `ParseBench.Fixture.Stage.left` — what a task has still to request.
* `ParseBench.Fixture.FailsWith` — why a task fails.
* `ParseBench.Fixture.Resolution.Sound` — what is known of a resolution along a schedule.

## Main results

* `ParseBench.Fixture.Stage.Holds.step` — what one step of a task does and preserves.
* `ParseBench.Fixture.Stage.Holds.frame` — what a task knows is preserved by others.
* `ParseBench.Fixture.Resolution.Sound.turn`, `ParseBench.Fixture.Resolution.Sound.play` — one turn,
  and a whole schedule.
-/

namespace ParseBench.Fixture

open ParseBench.Bench (Config)
open ParseBench.Files
open ParseBench.Http (FetchFault Network)
open ParseBench.Text (Bytes Points)

variable {c : Config} {follow : Bool} {net : Network} {v u : Volume} {named : List Named}
  {n m : Named} {stage next : Stage} {job' : Job} {made : List Change} {es : List Event}
  {abort : CacheAbort}

/-! ## One task -/

/-- The attempt to store a text of a fixture, if nothing is in its way. -/
def Named.attempt (n : Named) (content : String) : Attempt := ⟨n, content, .ok ()⟩

/-- An entry is as it was. -/
def Kept (c : Config) (v u : Volume) (n : Named) : Prop := content? c u n.name = content? c v n.name

/-- Why the task of a fixture fails. -/
inductive FailsWith (c : Config) (follow : Bool) (net : Network) (v : Volume) (named : List Named)
    (n : Named) : CacheAbort → Prop where
  | entry {abort : CacheAbort} (h : look c v n.name = .fault abort) :
    FailsWith c follow net v named n abort
  | fetch {fault : FetchFault} (h : look c v n.name = .miss)
    (hend : (Http.fetch follow net n.url).result? = some (.error fault)) :
    FailsWith c follow net v named n (.ofFetch n.url fault)
  | store {content : String} (fault : StoreFault)
    (h : Wanted c follow net v named (n.attempt content)) :
    FailsWith c follow net v named n (.ofStore (entryPath c n.name) fault)

namespace Stage

/-- What the task of a fixture knows at a stage of the volume `u`, which has come of `v`. -/
def Holds (c : Config) (follow : Bool) (net : Network) (v : Volume) (named : List Named) (u : Volume)
    (n : Named) : Stage → Prop
  | .looking => Kept c v u n
  | .looked found => Kept c v u n ∧ found = look c v n.name
  | .fetching _ ending => Kept c v u n ∧ look c v n.name = .miss ∧
    ending = (Http.fetch follow net n.url).result?
  | .storing content job | .abandoned content job =>
    Wanted c follow net v named (n.attempt content) ∧ job.Holds c v u (n.attempt content) ∧
      (job ≠ .ended (.ok ()) → Kept c v u n)
  | .done content => look c v n.name = .hit content ∧ Kept c v u n ∨
    Wanted c follow net v named (n.attempt content) ∧ Stored c v u (n.attempt content)
  | .dropped => Kept c v u n

/-- What a task has still to request, unless it fails. -/
def left (c : Config) (follow : Bool) (net : Network) (v : Volume) (n : Named) : Stage → List String
  | .looking => askedFor c follow net v n
  | .looked .miss => (Http.fetch follow net n.url).urls
  | .fetching urls _ => urls
  | .looked _ | .storing _ _ | .abandoned _ _ | .done _ | .dropped => []

/-- What one step of a task does: it changes what belongs to its text, and goes on or fails. -/
structure Steps (c : Config) (follow : Bool) (net : Network) (v : Volume) (named : List Named)
    (u : Volume) (n : Named) (stage : Stage) (made : List Change) (es : List Event)
    (r : Except CacheAbort Stage) : Prop where
  acts : Acts c follow net v named u n made
  goes : ∀ next, r = .ok next → next.Holds c follow net v named (Change.applyAll u made) n ∧
    requested es ++ next.left c follow net v n = stage.left c follow net v n
  fails : ∀ abort, r = .error abort → FailsWith c follow net v named n abort ∧ Kept c v u n

/-- A step that changes nothing on the volume. -/
lemma Steps.of_idle
    (hgoes : next.Holds c follow net v named u n)
    (hleft : requested es ++ next.left c follow net v n = stage.left c follow net v n) :
    Steps c follow net v named u n stage [] es (.ok next) :=
  ⟨.idle, fun _ h => by cases h; exact ⟨hgoes, hleft⟩, fun _ h => by cases h⟩

/-- A step that fails. -/
lemma Steps.of_fails (h : FailsWith c follow net v named n abort) (hkept : Kept c v u n) :
    Steps c follow net v named u n stage [] [] (.error abort) :=
  ⟨.idle, fun _ h' => (by cases h'), fun _ h' => by cases h'; exact ⟨h, hkept⟩⟩

/-- A step of the worker of a text, whether or not its task was given up. -/
lemma Holds.work (hc : Compatible c named) (hu : u.WellFormed) (hlater : v.Later u)
    {content : String} {job : Job} (hwanted : Wanted c follow net v named (n.attempt content))
    (hjob : job.Holds c v u (n.attempt content)) (hkept : job ≠ .ended (.ok ()) → Kept c v u n)
    {piece : Option Nat}
    (hstep : job.step u (entryPath c n.name) (Text.Utf8.encode content) piece = (made, job')) :
    Acts c follow net v named u n made ∧
      job'.Holds c v (Change.applyAll u made) (n.attempt content) ∧
      (job' ≠ .ended (.ok ()) → Kept c v (Change.applyAll u made) n) := by
  by_cases hended : job = .ended (.ok ())
  · subst hended
    cases hstep
    exact ⟨.idle, hjob, hkept⟩
  · have hkept := hkept hended
    have hpending : content? c u n.name = none := hkept.trans (content?_of_miss hwanted.missing)
    obtain ⟨_, _, hstep', hworks⟩ := hjob.step hc hwanted hlater hu hpending piece
    obtain ⟨rfl, rfl⟩ := Prod.mk.inj (hstep'.symm.trans hstep)
    refine ⟨hworks.acts, hworks.holds, fun hnot => ?_⟩
    have hmoves := hworks.moves.resolve_left hnot
    cases hworks.acts with
    | idle => exact hkept
    | touch ha hn htouch =>
      rcases htouch.content?_eq hc hu hlater (ha.for_named hc) hwanted.mem with
        heq | ⟨-, ⟨s, t, rfl⟩, -⟩
      · exact heq.trans hkept
      · exact absurd List.mem_cons_self (hmoves s t)

/-- **What one step of a task does and preserves.**

**Proof sketch.** By cases on the step. A step without a worker changes nothing, and the requests
that are left are lowered by just those that it makes; a step with a worker is one of
`Job.Holds.step`. -/
lemma Holds.step (hc : Compatible c named) (hu : u.WellFormed) (hlater : v.Later u)
    (hn : n ∈ named) (h : stage.Holds c follow net v named u n) {piece : Option Nat}
    {r : Except CacheAbort Stage} (hstep : Step c follow net u n piece stage made es r) :
    Steps c follow net v named u n stage made es r := by
  cases hstep with
  | looks =>
    have hlook := look_eq_of_content? h
    refine .of_idle ⟨h, hlook⟩ ?_
    rw [hlook]
    show (looked (look c v n.name)).left c follow net v n = askedFor c follow net v n
    rw [askedFor]
    cases look c v n.name <;> rfl
  | found hasked =>
    obtain ⟨hkept, hlook⟩ := h
    exact .of_idle (.inl ⟨hlook.symm, hkept⟩) (by rw [hasked]; rfl)
  | spoiled =>
    obtain ⟨hkept, hlook⟩ := h
    exact .of_fails (.entry hlook.symm) hkept
  | missed hasked =>
    obtain ⟨hkept, hlook⟩ := h
    exact .of_idle ⟨hkept, hlook.symm, rfl⟩ (by rw [hasked]; rfl)
  | asks | waits => exact .of_idle h rfl
  | lost =>
    obtain ⟨hkept, hmiss, hending⟩ := h
    exact .of_fails (.fetch hmiss hending.symm) hkept
  | arrived =>
    obtain ⟨hkept, hmiss, hending⟩ := h
    exact .of_idle ⟨⟨hn, hmiss, hending.symm, rfl⟩, Job.holds_start c v u _, fun _ => hkept⟩ rfl
  | stored hasked =>
    obtain ⟨hwanted, hjob, -⟩ := h
    exact .of_idle (.inr ⟨hwanted, hjob⟩) (by rw [hasked]; rfl)
  | unstored =>
    obtain ⟨hwanted, -, hkept⟩ := h
    exact .of_fails (.store _ hwanted) (hkept (by simp))
  | works hgoing =>
    obtain ⟨hwanted, hjob, hkept⟩ := h
    obtain ⟨hacts, hnext, hkept'⟩ := Holds.work hc hu hlater hwanted hjob hkept rfl
    refine ⟨hacts, ?_, fun _ h => by cases h⟩
    rintro - ⟨⟩
    exact ⟨⟨hwanted, hnext, hkept'⟩, rfl⟩
  | abandoned =>
    obtain ⟨hwanted, hjob, hkept⟩ := h
    obtain ⟨hacts, hnext, hkept'⟩ := Holds.work hc hu hlater hwanted hjob hkept rfl
    refine ⟨hacts, ?_, fun _ h => by cases h⟩
    rintro - ⟨⟩
    exact ⟨⟨hwanted, hnext, hkept'⟩, rfl⟩
  | done => exact .of_idle h rfl
  | dropped => exact .of_idle h rfl

/-- **What a task knows is preserved by others.** -/
lemma Holds.frame (hc : Compatible c named) (hu : u.WellFormed) (hlater : v.Later u)
    (hn : n ∈ named) (hacts : Acts c follow net v named u m made) (hne : n ≠ m)
    (h : stage.Holds c follow net v named u n) :
    stage.Holds c follow net v named (Change.applyAll u made) n := by
  cases hacts with
  | idle => exact h
  | @touch a change ha hm htouch =>
    have hother : n ≠ a.named := fun heq => hne (heq.trans hm)
    have hsame : content? c (change.apply u) n.name = content? c u n.name :=
      (htouch.content?_eq hc hu hlater (ha.for_named hc) hn).resolve_right fun h => hother h.1
    have hkeep : Kept c v u n → Kept c v (change.apply u) n := fun hkept => hsame.trans hkept
    rw [Change.applyAll_cons, Change.applyAll_nil]
    cases stage with
    | looking => exact hkeep h
    | looked found => exact ⟨hkeep h.1, h.2⟩
    | fetching urls ending => exact ⟨hkeep h.1, h.2⟩
    | storing content job | abandoned content job =>
      obtain ⟨hwanted, hjob, hkept⟩ := h
      exact ⟨hwanted, hjob.frame hc hu hlater ha hwanted hother htouch,
        fun hnot => hkeep (hkept hnot)⟩
    | done content =>
      rcases h with ⟨hhit, hkept⟩ | ⟨hwanted, hstored⟩
      · exact .inl ⟨hhit, hkeep hkept⟩
      · exact .inr ⟨hwanted, hstored.touch hc hu hlater ha hwanted htouch⟩
    | dropped => exact hkeep h

/-- What a task knows when it is given up. -/
lemma Holds.giveUp (h : stage.Holds c follow net v named u n) :
    stage.giveUp.Holds c follow net v named u n := by
  cases stage with
  | looking => exact h
  | looked found => exact h.1
  | fetching urls ending => exact h.1
  | storing | abandoned | done | dropped => exact h

end Stage

/-! ## All tasks -/

namespace Resolution

/-- What is known of a resolution along a schedule. -/
structure Sound (c : Config) (follow : Bool) (net : Network) (v : Volume) (named : List Named)
    (r : Resolution) : Prop extends r.Begun v named where
  weaves : Weaves c follow net v named v r.progress.changes
  holds : ∀ t ∈ r.tasks, t.2.Holds c follow net v named r.progress.volume t.1
  requests : r.failure = none →
    (requested r.progress.events ++ r.tasks.flatMap fun t => t.2.left c follow net v t.1).Perm
      (named.flatMap (askedFor c follow net v))

variable {r : Resolution} {position : Nat}

/-- What is where at any point of a resolution that is stopped. -/
lemma Sound.between (hc : Compatible c named) (hv : v.WellFormed)
    (h : r.Sound c follow net v named) (hu : Stopped v r.progress.changes u) :
    Between c follow net v named u :=
  h.weaves.between hc (.refl c follow net hv named) hu

/-- What is where on the volume of a resolution. -/
lemma Sound.now (hc : Compatible c named) (hv : v.WellFormed) (h : r.Sound c follow net v named) :
    Between c follow net v named r.progress.volume := by
  rw [h.volume_eq]
  exact h.between hc hv (Stopped.all v _)

/-- What the task at a position knows. -/
lemma Sound.holds_at (h : r.Sound c follow net v named)
    (htask : r.tasks[position]? = some (n, stage)) :
    stage.Holds c follow net v named r.progress.volume n :=
  h.holds _ (List.mem_of_getElem? htask)

/-- A resolution that has not begun. -/
lemma Sound.start (c : Config) (follow : Bool) (net : Network) (v : Volume) (named : List Named) :
    (Resolution.start (.ofVolume v) named).Sound c follow net v named where
  toBegun := .start v named
  weaves := .nil v
  holds := by
    intro t ht
    obtain ⟨n, -, rfl⟩ := List.mem_map.1 ht
    exact rfl
  requests := by
    intro _
    rw [Resolution.start, List.flatMap_map]
    exact .rfl

/-! ## Turns -/

/-- What the step of the task at a position does and preserves. -/
lemma Sound.steps (hc : Compatible c named) (hv : v.WellFormed) (h : r.Sound c follow net v named)
    {piece : Option Nat} {outcome : Except CacheAbort Stage}
    (htask : r.tasks[position]? = some (n, stage))
    (hstep : Stage.Step c follow net r.progress.volume n piece stage made es outcome) :
    Stage.Steps c follow net v named r.progress.volume n stage made es outcome :=
  (h.holds_at htask).step hc (h.now hc hv).wellFormed (h.now hc hv).later (h.mem htask) hstep

/-- Steps preserve what the tasks know. -/
lemma Sound.preserves (hc : Compatible c named) (hv : v.WellFormed)
    (h : r.Sound c follow net v named) :
    Preserves c follow net r fun u n stage => stage.Holds c follow net v named u n where
  goes htask hstep := ((h.steps hc hv htask hstep).goes _ rfl).1
  stays htask hstep t ht hother := by
    have hnow := h.now hc hv
    have hfixture : t.1 ∈ named := h.names ▸ List.mem_map_of_mem ht
    exact (h.holds t ht).frame hc hnow.wellFormed hnow.later hfixture
      (h.steps hc hv htask hstep).acts hother
  fails htask hstep := ((h.steps hc hv htask hstep).fails _ rfl).2
  quits h := h.giveUp

/-- What was asked for and what is left to be asked for, once the task at a position has gone on. -/
lemma Sound.requests_went (hc : Compatible c named) (hv : v.WellFormed)
    (h : r.Sound c follow net v named) {piece : Option Nat}
    (htask : r.tasks[position]? = some (n, stage))
    (hstep : Stage.Step c follow net r.progress.volume n piece stage made es (.ok next))
    (hnone : r.failure = none) :
    (requested (r.progress.events ++ es) ++
      (r.tasks.set position (n, next)).flatMap fun t => t.2.left c follow net v t.1).Perm
        (named.flatMap (askedFor c follow net v)) := by
  obtain ⟨-, hleft⟩ := (h.steps hc hv htask hstep).goes _ rfl
  have hbefore := h.requests hnone
  obtain ⟨before, after, htasks, hset⟩ := exists_of_task htask next
  rw [htasks, List.flatMap_append, List.flatMap_cons, ← hleft] at hbefore
  rw [hset, List.flatMap_append, List.flatMap_cons, requested_append]
  refine List.Perm.trans ?_ hbefore
  rw [List.append_assoc, List.append_assoc (requested es)]
  exact (List.perm_append_comm_assoc _ _ _).append_left _

/-- **What one turn preserves.** -/
lemma Sound.turn (hc : Compatible c named) (hv : v.WellFormed) (h : r.Sound c follow net v named)
    (turn : Turn) : (r.turn c follow net turn).Sound c follow net v named := by
  have hnodup : (r.tasks.map Prod.fst).Nodup := h.names ▸ hc.accepted.nodup.of_map _
  have hturned := turn_cases c follow net h.quiet turn
  have hbegun := h.turned hturned
  have hholds := Each.turned hnodup h.holds (h.preserves hc hv) hturned
  generalize r.turn c follow net turn = r' at hturned hbegun hholds
  cases hturned with
  | waits | absent => exact h
  | gaveUp hfailed => exact ⟨hbegun, h.weaves, hholds, fun hnone => absurd hnone hfailed⟩
  | @went position piece n stage next made es htask hstep =>
    have hweaves : Weaves c follow net v named (Change.applyAll v r.progress.changes) made :=
      h.volume_eq ▸ (h.steps hc hv htask hstep).acts.weaves
    exact ⟨hbegun, h.weaves.append hweaves, hholds, h.requests_went hc hv htask hstep⟩
  | @failed position piece n stage abort htask hstep =>
    refine ⟨hbegun, ?_, hholds, fun hnone => absurd hnone (failure_fail_ne_none _ _)⟩
    rw [progress_fail]
    exact h.weaves

/-- **What a whole schedule preserves.** -/
lemma Sound.play (hc : Compatible c named) (hv : v.WellFormed) (h : r.Sound c follow net v named)
    (turns : List Turn) : (r.play c follow net turns).Sound c follow net v named := by
  induction turns generalizing r with
  | nil => exact h
  | cons turn turns ih => exact ih (h.turn hc hv turn)

end Resolution

end ParseBench.Fixture
