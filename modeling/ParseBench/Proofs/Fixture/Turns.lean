import ParseBench.Proofs.Fixture.Run

set_option relaxedAutoImplicit false
set_option autoImplicit false

/-!
# Steps and turns

What one step of a task can do, and what one turn of a resolution, told once for all that is to be
shown of schedules; and what the result is when the schedule has come to its end.

## Main definitions

* `ParseBench.Fixture.Stage.Step` — the steps of a task without a log file.
* `ParseBench.Fixture.Resolution.Turned` — what a turn comes to.
* `ParseBench.Fixture.Resolution.Begun` — a resolution that has begun.
* `ParseBench.Fixture.Resolution.Each`, `ParseBench.Fixture.Resolution.Preserves` — what is known of
  each task, and that steps preserve it.

## Main results

* `ParseBench.Fixture.Stage.step_cases` — a step is one of these.
* `ParseBench.Fixture.Resolution.turn_cases` — a turn comes to one of these.
* `ParseBench.Fixture.mem_set_cases` — the tasks after one of them went on.
* `ParseBench.Fixture.Resolution.Each.turned` — what is known of each task is known after a turn.
* `ParseBench.Fixture.Resolution.result_eq_ok_iff` — when a resolution returns.
-/

namespace ParseBench.Fixture

open ParseBench.Bench (Config)
open ParseBench.Files
open ParseBench.Http (FetchFault Network)

variable {c : Config} {follow : Bool} {net : Network} {u : Volume} {n : Named}
  {stage next : Stage} {changes : List Change} {events : List Event}

/-! ## Steps of a task -/

namespace Stage

/-- A step of the task of a fixture, or of its worker, on a volume: what it changes there, the
events that it records, and how the task goes on or fails. -/
inductive Step (c : Config) (follow : Bool) (net : Network) (u : Volume) (n : Named)
    (piece : Option Nat) : Stage → List Change → List Event → Except CacheAbort Stage → Prop where
  | looks : Step c follow net u n piece .looking [] [] (.ok (.looked (look c u n.name)))
  | found {content : String} {es : List Event} (hasked : requested es = []) :
    Step c follow net u n piece (.looked (.hit content)) [] es (.ok (.done content))
  | spoiled {abort : CacheAbort} :
    Step c follow net u n piece (.looked (.fault abort)) [] [] (.error abort)
  | missed {es : List Event} (hasked : requested es = []) :
    Step c follow net u n piece (.looked .miss) [] es (.ok (.ofFetch (Http.fetch follow net n.url)))
  | asks {url : String} {rest : List String} {ending : Option (Except FetchFault String)} :
    Step c follow net u n piece (.fetching (url :: rest) ending) [] [.request url]
      (.ok (.fetching rest ending))
  | waits : Step c follow net u n piece (.fetching [] none) [] [] (.ok (.fetching [] none))
  | lost {fault : FetchFault} :
    Step c follow net u n piece (.fetching [] (some (.error fault))) [] []
      (.error (.ofFetch n.url fault))
  | arrived {content : String} :
    Step c follow net u n piece (.fetching [] (some (.ok content))) [] []
      (.ok (.storing content (.start (entryPath c n.name))))
  | stored {content : String} {es : List Event} (hasked : requested es = []) :
    Step c follow net u n piece (.storing content (.ended (.ok ()))) [] es (.ok (.done content))
  | unstored {content : String} {fault : StoreFault} :
    Step c follow net u n piece (.storing content (.ended (.error fault))) [] []
      (.error (.ofStore (entryPath c n.name) fault))
  | works {content : String} {job : Job} (hgoing : ∀ result, job ≠ .ended result) :
    Step c follow net u n piece (.storing content job)
      (job.step u (entryPath c n.name) (Text.Utf8.encode content) piece).1 []
      (.ok (.storing content
        (job.step u (entryPath c n.name) (Text.Utf8.encode content) piece).2))
  | abandoned {content : String} {job : Job} :
    Step c follow net u n piece (.abandoned content job)
      (job.step u (entryPath c n.name) (Text.Utf8.encode content) piece).1 []
      (.ok (.abandoned content
        (job.step u (entryPath c n.name) (Text.Utf8.encode content) piece).2))
  | done {content : String} :
    Step c follow net u n piece (.done content) [] [] (.ok (.done content))
  | dropped : Step c follow net u n piece .dropped [] [] (.ok .dropped)

/-- **Each step of a task** is one of these, and the rest of the resolution stays as it is. -/
lemma step_cases (c : Config) (follow : Bool) (net : Network) (u : Volume) (n : Named)
    (piece : Option Nat) (stage : Stage) (changes : List Change) (events : List Event) :
    ∃ made es r, stage.step c follow net n piece (.quiet u changes events) =
        (.quiet (Change.applyAll u made) (changes ++ made) (events ++ es), r) ∧
      Step c follow net u n piece stage made es r := by
  have idle : ∀ {es r}, stage.step c follow net n piece (.quiet u changes events) =
        (.quiet u changes (events ++ es), r) → Step c follow net u n piece stage [] es r →
      ∃ made es r, stage.step c follow net n piece (.quiet u changes events) =
          (.quiet (Change.applyAll u made) (changes ++ made) (events ++ es), r) ∧
        Step c follow net u n piece stage made es r := by
    intro es r hstep hcase
    refine ⟨[], es, r, ?_, hcase⟩
    rw [hstep, List.append_nil, Change.applyAll_nil]
  have still : Progress.quiet u changes events = .quiet u changes (events ++ []) := by
    rw [List.append_nil]
  have takes : ∀ made, (Progress.quiet u changes events).take made =
      .quiet (Change.applyAll u made) (changes ++ made) (events ++ []) := by
    intro made
    rw [Progress.quiet_take, List.append_nil]
  cases stage with
  | looking => exact idle (congrArg (·, _) still) .looks
  | looked found =>
    cases found with
    | hit content => exact idle rfl (.found (requested_announce ..))
    | miss => exact idle rfl (.missed (requested_announce ..))
    | fault abort => exact idle (congrArg (·, _) still) .spoiled
  | fetching urls ending =>
    cases urls with
    | cons url rest => exact idle rfl .asks
    | nil =>
      rcases ending with _ | fault | content
      · exact idle (congrArg (·, _) still) .waits
      · exact idle (congrArg (·, _) still) .lost
      · exact idle (congrArg (·, _) still) .arrived
  | storing content job =>
    cases job with
    | ended result =>
      cases result with
      | error fault => exact idle (congrArg (·, _) still) .unstored
      | ok _ => exact idle rfl (.stored rfl)
    | making | checking | opening | writing | moving =>
      exact ⟨_, [], _, congrArg (·, _) (takes _), .works (by simp)⟩
  | abandoned content job => exact ⟨_, [], _, congrArg (·, _) (takes _), .abandoned⟩
  | done content => exact idle (congrArg (·, _) still) .done
  | dropped => exact idle (congrArg (·, _) still) .dropped

/-- A step that fails changes nothing and records nothing. -/
lemma Step.eq_nil_of_error {piece : Option Nat} {made : List Change} {es : List Event}
    {abort : CacheAbort} (h : Step c follow net u n piece stage made es (.error abort)) :
    made = [] ∧ es = [] := by
  cases h with
  | spoiled | lost | unstored => exact ⟨rfl, rfl⟩

end Stage

/-! ## Tasks after one of them went on -/

section Set

variable {tasks : List (Named × Stage)} {position : Nat}

/-- A task at a position, and the tasks before and after it. -/
lemma exists_of_task (htask : tasks[position]? = some (n, stage)) (next : Stage) :
    ∃ before after, tasks = before ++ (n, stage) :: after ∧
      tasks.set position (n, next) = before ++ (n, next) :: after := by
  obtain ⟨hlt, hat⟩ := List.getElem?_eq_some_iff.1 htask
  obtain ⟨before, after, htasks, -, hset⟩ : ∃ before after, tasks =
      before ++ tasks[position] :: after ∧ before.length = position ∧
        tasks.set position (n, next) = before ++ (n, next) :: after :=
    List.exists_of_set hlt
  exact ⟨before, after, hat ▸ htasks, hset⟩

/-- A task that goes on stays that of its fixture. -/
lemma map_fst_set (htask : tasks[position]? = some (n, stage)) (next : Stage) :
    (tasks.set position (n, next)).map Prod.fst = tasks.map Prod.fst := by
  obtain ⟨before, after, htasks, hset⟩ := exists_of_task htask next
  rw [hset, htasks, List.map_append, List.map_append, List.map_cons, List.map_cons]

/-- If all tasks are of different fixtures and one of them goes on, each task is that one, or it is
of another fixture and was there before. -/
lemma mem_set_cases (hnodup : (tasks.map Prod.fst).Nodup)
    (htask : tasks[position]? = some (n, stage)) {t : Named × Stage}
    (ht : t ∈ tasks.set position (n, next)) : t = (n, next) ∨ t ∈ tasks ∧ t.1 ≠ n := by
  obtain ⟨before, after, htasks, hset⟩ := exists_of_task htask next
  rw [htasks, List.map_append, List.map_cons, List.nodup_middle, List.nodup_cons,
    ← List.map_append] at hnodup
  rw [hset, List.mem_append, List.mem_cons, or_left_comm, ← List.mem_append] at ht
  refine ht.imp_right fun hmem => ⟨?_, ?_⟩
  · rw [htasks, List.mem_append, List.mem_cons, or_left_comm, ← List.mem_append]
    exact .inr hmem
  · intro heq
    have hname : t.1 ∈ (before ++ after).map Prod.fst := List.mem_map_of_mem hmem
    exact hnodup.1 (heq ▸ hname)

end Set

/-! ## Turns of a resolution -/

namespace Resolution

variable {r r' : Resolution}

/-- A turn of a resolution without a log file: the tasks are given up, nothing happens, or a task
takes a step and goes on or fails. -/
inductive Turned (c : Config) (follow : Bool) (net : Network) (r : Resolution) :
    Turn → Resolution → Prop where
  | waits (hnone : r.failure = none) : Turned c follow net r .giveUp r
  | gaveUp (hfailed : r.failure ≠ none) : Turned c follow net r .giveUp r.giveUp
  | absent {position : Nat} {piece : Option Nat} (htask : r.tasks[position]? = none) :
    Turned c follow net r (.task position piece) r
  | went {position : Nat} {piece : Option Nat} {n : Named} {stage next : Stage}
    {made : List Change} {es : List Event} (htask : r.tasks[position]? = some (n, stage))
    (hstep : Stage.Step c follow net r.progress.volume n piece stage made es (.ok next)) :
    Turned c follow net r (.task position piece)
      ⟨.quiet (Change.applyAll r.progress.volume made) (r.progress.changes ++ made)
        (r.progress.events ++ es), r.tasks.set position (n, next), r.failure⟩
  | failed {position : Nat} {piece : Option Nat} {n : Named} {stage : Stage} {abort : CacheAbort}
    (htask : r.tasks[position]? = some (n, stage))
    (hstep : Stage.Step c follow net r.progress.volume n piece stage [] [] (.error abort)) :
    Turned c follow net r (.task position piece)
      (fail abort ⟨r.progress, r.tasks.set position (n, .dropped), r.failure⟩)

/-- **Each turn** comes to one of these. -/
lemma turn_cases (c : Config) (follow : Bool) (net : Network)
    (h : r.progress = .quiet r.progress.volume r.progress.changes r.progress.events)
    (turn : Turn) : Turned c follow net r turn (r.turn c follow net turn) := by
  cases turn with
  | giveUp =>
    rw [Resolution.turn]
    split_ifs with hfailed
    · exact .gaveUp (Option.isSome_iff_ne_none.1 hfailed)
    · exact .waits (by simpa using hfailed)
  | task position piece =>
    rw [Resolution.turn]
    split
    · next htask => exact .absent htask
    · next n stage htask =>
      obtain ⟨made, es, outcome, hstep, hcase⟩ := stage.step_cases c follow net r.progress.volume n
        piece r.progress.changes r.progress.events
      rw [← h] at hstep
      rw [hstep]
      cases outcome with
      | ok next => exact .went htask hcase
      | error abort =>
        obtain ⟨rfl, rfl⟩ := hcase.eq_nil_of_error
        rw [Change.applyAll_nil, List.append_nil, List.append_nil, ← h]
        exact .failed htask hcase

/-! ## Resolutions that have begun -/

/-- A failure leaves the progress. -/
lemma progress_fail (abort : CacheAbort) (r : Resolution) : (fail abort r).progress = r.progress := by
  rw [fail]
  split_ifs <;> rfl

/-- Tasks that are given up are of the same fixtures. -/
lemma map_fst_giveUp (r : Resolution) : r.giveUp.tasks.map Prod.fst = r.tasks.map Prod.fst := by
  rw [giveUp, List.map_map]
  rfl

/-- A turn does not change of which fixtures the tasks are. -/
lemma Turned.names {turn : Turn} (h : Turned c follow net r turn r') :
    r'.tasks.map Prod.fst = r.tasks.map Prod.fst := by
  cases h with
  | waits | absent => rfl
  | gaveUp => exact map_fst_giveUp r
  | went htask => exact map_fst_set htask _
  | failed htask =>
    rw [fail]
    split_ifs
    · exact (map_fst_giveUp _).trans (map_fst_set htask _)
    · exact map_fst_set htask _

/-- A resolution that has begun, without a log file: its tasks are those of the fixtures, and its
volume has come of its changes. -/
structure Begun (v : Volume) (named : List Named) (r : Resolution) : Prop where
  names : r.tasks.map Prod.fst = named
  progress : r.progress =
    .quiet (Change.applyAll v r.progress.changes) r.progress.changes r.progress.events

namespace Begun

variable {v : Volume} {named : List Named}

/-- A resolution that has only just begun. -/
lemma start (v : Volume) (named : List Named) : (start (.ofVolume v) named).Begun v named where
  names := by
    rw [Resolution.start, List.map_map]
    exact List.map_id named
  progress := rfl

/-- The volume of a resolution has come of its changes. -/
lemma volume_eq (h : r.Begun v named) : r.progress.volume = Change.applyAll v r.progress.changes := by
  rw [h.progress]
  rfl

/-- The progress of a resolution without a log file. -/
lemma quiet (h : r.Begun v named) :
    r.progress = .quiet r.progress.volume r.progress.changes r.progress.events := by
  rw [h.volume_eq]
  exact h.progress

/-- The task at a position is that of one of the fixtures. -/
lemma mem (h : r.Begun v named) {position : Nat} (htask : r.tasks[position]? = some (n, stage)) :
    n ∈ named := by
  rw [← h.names]
  exact List.mem_map_of_mem (f := Prod.fst) (List.mem_of_getElem? htask)

/-- A turn of a resolution that has begun. -/
lemma turned (h : r.Begun v named) {turn : Turn} (hturned : Turned c follow net r turn r') :
    r'.Begun v named where
  names := hturned.names.trans h.names
  progress := by
    cases hturned with
    | waits | absent | gaveUp => exact h.progress
    | went htask hstep =>
      dsimp only [Progress.quiet]
      rw [h.volume_eq, Change.applyAll_append]
    | failed htask hstep =>
      rw [progress_fail]
      exact h.progress

end Begun

/-! ## What is known of each task -/

/-- After the failure of a task there is a failure. -/
lemma failure_fail_ne_none (abort : CacheAbort) (r : Resolution) :
    (fail abort r).failure ≠ none := by
  rw [fail]
  split_ifs <;> simp

/-- After the failure of a task, the failure is this one or was there before. -/
lemma failure_fail_eq_some {abort abort' : CacheAbort} (h : (fail abort r).failure = some abort') :
    r.failure = some abort' ∨ abort' = abort := by
  rw [fail] at h
  split_ifs at h
  · exact .inr (Option.some.inj h).symm
  · exact (Option.or_eq_some_iff.1 h).imp_right fun hlater => (Option.some.inj hlater.2).symm

/-- Something is known of each task, on the volume of the resolution. -/
def Each (P : Volume → Named → Stage → Prop) (r : Resolution) : Prop :=
  ∀ t ∈ r.tasks, P r.progress.volume t.1 t.2

/-- What is known of each task is preserved by the steps that they can take: the task that goes on
knows it then, and so it does if it fails, the others still know it, and it is not lost when tasks
are given up. -/
structure Preserves (c : Config) (follow : Bool) (net : Network) (r : Resolution)
    (P : Volume → Named → Stage → Prop) : Prop where
  goes {position : Nat} {piece : Option Nat} {n : Named} {stage next : Stage} {made : List Change}
    {es : List Event} (htask : r.tasks[position]? = some (n, stage))
    (hstep : Stage.Step c follow net r.progress.volume n piece stage made es (.ok next)) :
    P (Change.applyAll r.progress.volume made) n next
  stays {position : Nat} {piece : Option Nat} {n : Named} {stage next : Stage} {made : List Change}
    {es : List Event} (htask : r.tasks[position]? = some (n, stage))
    (hstep : Stage.Step c follow net r.progress.volume n piece stage made es (.ok next)) :
    ∀ t ∈ r.tasks, t.1 ≠ n → P (Change.applyAll r.progress.volume made) t.1 t.2
  fails {position : Nat} {piece : Option Nat} {n : Named} {stage : Stage} {abort : CacheAbort}
    (htask : r.tasks[position]? = some (n, stage))
    (hstep : Stage.Step c follow net r.progress.volume n piece stage [] [] (.error abort)) :
    P r.progress.volume n .dropped
  quits {u : Volume} {n : Named} {stage : Stage} (h : P u n stage) : P u n stage.giveUp

/-- **What is known of each task is known after a turn** if steps preserve it. -/
lemma Each.turned {P : Volume → Named → Stage → Prop} {turn : Turn}
    (hnodup : (r.tasks.map Prod.fst).Nodup) (h : r.Each P) (hP : Preserves c follow net r P)
    (hturned : Turned c follow net r turn r') : r'.Each P := by
  have quit : ∀ {q : Resolution}, q.Each P → q.giveUp.Each P := by
    intro q hq t ht
    obtain ⟨s, hs, rfl⟩ := List.mem_map.1 ht
    exact hP.quits (hq s hs)
  cases hturned with
  | waits | absent => exact h
  | gaveUp => exact quit h
  | went htask hstep =>
    intro t ht
    rcases mem_set_cases hnodup htask ht with rfl | ⟨ht, hne⟩
    · exact hP.goes htask hstep
    · exact hP.stays htask hstep t ht hne
  | @failed position piece n stage abort htask hstep =>
    have hput : Each P ⟨r.progress, r.tasks.set position (n, .dropped), r.failure⟩ := by
      intro t ht
      rcases mem_set_cases hnodup htask ht with rfl | ⟨ht, -⟩
      · exact hP.fails htask hstep
      · exact h t ht
    rw [fail]
    split_ifs
    · exact quit hput
    · exact hput

/-! ## Results -/

/-- What is collected are the texts of tasks that are all done. -/
lemma collect_eq_ok_iff {tasks : List (Named × Stage)} {fs : List Bench.Fixture} :
    collect tasks = .ok fs ↔
      List.Forall₂ (fun t f => t.2 = .done f.content ∧ f.identifier = t.1.name.lossy) tasks fs := by
  induction tasks generalizing fs with
  | nil =>
    rw [collect, List.forall₂_nil_left_iff, Except.ok.injEq]
    exact eq_comm
  | cons t tasks ih =>
    obtain ⟨n, stage⟩ := t
    constructor
    · intro h
      cases stage with
      | done content =>
        rw [collect] at h
        cases hrest : collect tasks with
        | error abort => simp [hrest, Except.map] at h
        | ok rest =>
          rw [hrest] at h
          cases h
          exact .cons ⟨rfl, rfl⟩ (ih.1 hrest)
      | looking | looked | fetching | storing | abandoned | dropped => cases h
    · intro h
      cases h with
      | @cons _ f _ rest hf hrest =>
        obtain ⟨identifier, content⟩ := f
        obtain ⟨hstage, hidentifier⟩ := hf
        dsimp only at hstage hidentifier
        rw [hstage, collect, ih.2 hrest, hidentifier]
        rfl

/-- If all tasks are done, their texts are collected. -/
lemma collect_of_done {tasks : List (Named × Stage)}
    (h : ∀ t ∈ tasks, ∃ content, t.2 = .done content) : ∃ fs, collect tasks = .ok fs := by
  choose! content hcontent using h
  refine ⟨tasks.map fun t => ⟨t.1.name.lossy, content t⟩, collect_eq_ok_iff.2 ?_⟩
  rw [List.forall₂_map_right_iff, List.forall₂_same]
  exact fun t ht => ⟨hcontent t ht, rfl⟩

/-- What is not collected is still awaited. -/
lemma eq_endless_of_collect {tasks : List (Named × Stage)} {abort : CacheAbort}
    (h : collect tasks = .error abort) : abort = .endless := by
  induction tasks with
  | nil => cases h
  | cons t tasks ih =>
    obtain ⟨n, stage⟩ := t
    cases stage with
    | done content =>
      rw [collect] at h
      cases hrest : collect tasks with
      | error abort' =>
        rw [hrest] at h
        cases h
        exact ih hrest
      | ok rest =>
        rw [hrest] at h
        cases h
    | looking | looked | fetching | storing | abandoned | dropped =>
      cases h
      rfl

/-- A resolution returns if there is no failure and all tasks are done. -/
lemma result_eq_ok_iff {fs : List Bench.Fixture} :
    r.result = .ok fs ↔ r.failure = none ∧ collect r.tasks = .ok fs := by
  rw [result]
  split
  · next abort hfailure => simp [hfailure]
  · next hfailure => simp [hfailure]

end Resolution

end ParseBench.Fixture
