import ParseBench.Proofs.Fixture.Schedule

set_option relaxedAutoImplicit false
set_option autoImplicit false

/-!
# Tasks that are given up

A resolution that fails along any schedule has the reason of the first of its tasks to fail, or of
one that stops everything. The tasks that are left are given up, but not their workers: an entry
that was being stored then may still come into place, and it is complete if it does. All other
entries are as they were when the tasks were given up.

## Main definitions

* `ParseBench.Fixture.along` — a resolution at the end of a schedule.
* `ParseBench.Fixture.FailsAlong` — what there is to say of a resolution that fails along a
  schedule.

## Main results

* `ParseBench.Fixture.Resolution.mem_play` — what is done or dropped stays so.
* `ParseBench.Fixture.Resolution.Sound.firstToFail` — the first task to fail.
* `ParseBench.Fixture.failsAlong` — what there is to say holds along every schedule.
-/

namespace ParseBench.Fixture

open ParseBench.Bench (Config)
open ParseBench.Files
open ParseBench.Http (Network)

variable {c : Config} {follow : Bool} {net : Network} {v : Volume} {named : List Named}
  {n : Named} {stage : Stage} {r : Resolution} {abort : CacheAbort}

/-! ## Tasks that have come to an end -/

/-- A task is done, or it was dropped without a worker that is left. -/
def Stage.Ended : Stage → Prop
  | .done _ | .dropped => True
  | _ => False

/-- A task that has come to an end is not changed by giving it up. -/
lemma Stage.Ended.giveUp_eq (h : stage.Ended) : stage.giveUp = stage := by
  cases stage with
  | done | dropped => rfl
  | looking | looked | fetching | storing | abandoned => exact h.elim

/-- A task that has come to an end takes no more steps. -/
lemma Stage.Ended.step_eq (h : stage.Ended) (piece : Option Nat) (p : Progress) :
    stage.step c follow net n piece p = (p, .ok stage) := by
  cases stage with
  | done | dropped => rfl
  | looking | looked | fetching | storing | abandoned => exact h.elim

namespace Resolution

/-- What has come to an end stays so when the tasks are given up. -/
lemma mem_giveUp (h : (n, stage) ∈ r.tasks) (hend : stage.Ended) :
    (n, stage) ∈ r.giveUp.tasks :=
  List.mem_map.2 ⟨(n, stage), h, congrArg (n, ·) hend.giveUp_eq⟩

/-- What has come to an end stays so when a task fails. -/
lemma mem_fail (h : (n, stage) ∈ r.tasks) (hend : stage.Ended) (abort : CacheAbort) :
    (n, stage) ∈ (fail abort r).tasks := by
  rw [fail]
  split_ifs
  · exact mem_giveUp h hend
  · exact h

/-- What has come to an end stays so in a turn. -/
lemma mem_turn (h : (n, stage) ∈ r.tasks) (hend : stage.Ended) (turn : Turn) :
    (n, stage) ∈ (r.turn c follow net turn).tasks := by
  cases turn with
  | giveUp =>
    rw [Resolution.turn]
    split_ifs
    · exact mem_giveUp h hend
    · exact h
  | task position piece =>
    have hset : ∀ {m : Named} {stage' next : Stage}, r.tasks[position]? = some (m, stage') →
        (stage'.Ended → next = stage') → (n, stage) ∈ r.tasks.set position (m, next) := by
      intro m stage' next htask hnext
      obtain ⟨i, hi, heq⟩ := List.getElem_of_mem h
      by_cases hposition : position = i
      · subst hposition
        rw [List.getElem?_eq_getElem hi, heq, Option.some.injEq] at htask
        cases htask
        rw [hnext hend]
        exact List.mem_set hi _
      · refine List.mem_of_getElem? (i := i) ?_
        rw [List.getElem?_set_ne hposition, List.getElem?_eq_getElem hi, heq]
    rw [Resolution.turn]
    split
    · exact h
    · next m stage' htask =>
      have hstep : stage'.Ended → stage'.step c follow net m piece r.progress =
          (r.progress, .ok stage') := fun hend' => hend'.step_eq piece r.progress
      split
      · next p next hgoes =>
        refine hset htask fun hend' => ?_
        rw [hstep hend'] at hgoes
        cases hgoes
        rfl
      · next p abort hfails =>
        refine mem_fail (hset htask fun hend' => ?_) hend abort
        rw [hstep hend'] at hfails
        cases hfails

/-- **What has come to an end stays so** along a schedule. -/
lemma mem_play (h : (n, stage) ∈ r.tasks) (hend : stage.Ended) (turns : List Turn) :
    (n, stage) ∈ (r.play c follow net turns).tasks := by
  induction turns generalizing r with
  | nil => exact h
  | cons turn turns ih => exact ih (mem_turn h hend turn)

/-! ## The first task to fail -/

/-- The first failure is told by the task that fails. -/
lemma failure_fail_of_none (abort : CacheAbort) (h : r.failure = none) :
    (fail abort r).failure = some abort := by
  rw [fail]
  split_ifs
  · rfl
  · rw [h]
    rfl

/-- A later failure takes the place of the first if it stops everything. -/
lemma failure_fail_cases {first : CacheAbort} (abort : CacheAbort) (h : r.failure = some first) :
    (fail abort r).failure = some first ∨
      abort.stopsAtOnce = true ∧ (fail abort r).failure = some abort := by
  rw [fail]
  split_ifs with hstop
  · exact .inr ⟨hstop, rfl⟩
  · rw [h]
    exact .inl rfl

/-- The fixture of the task at a position. -/
lemma Sound.named_at (h : r.Sound c follow net v named) {position : Nat}
    (htask : r.tasks[position]? = some (n, stage)) : named[position]? = some n := by
  rw [← h.names, List.getElem?_map, htask]
  rfl

/-- Once a task has failed, its failure stays, unless another task stops everything. -/
lemma Sound.failure_play (hc : Compatible c named) (hv : v.WellFormed)
    (h : r.Sound c follow net v named) {first : CacheAbort} (hfirst : r.failure = some first)
    {turns : List Turn} (habort : (r.play c follow net turns).failure = some abort) :
    abort = first ∨
      abort.stopsAtOnce = true ∧ ∃ m ∈ named, FailsWith c follow net v named m abort := by
  induction turns generalizing r first with
  | nil =>
    rw [Resolution.play, List.foldl_nil, hfirst] at habort
    exact .inl (by simpa using habort.symm)
  | cons turn turns ih =>
    have hturned := turn_cases c follow net h.quiet turn
    have hsound := h.turn hc hv turn
    rw [Resolution.play, List.foldl_cons] at habort
    generalize r.turn c follow net turn = r' at hturned hsound habort
    cases hturned with
    | waits | gaveUp | absent | went => exact ih hsound hfirst habort
    | @failed position piece m stage later htask hstep =>
      obtain ⟨hfails, -⟩ := (h.steps hc hv htask hstep).fails later rfl
      rcases failure_fail_cases
        (r := ⟨r.progress, r.tasks.set position (m, .dropped), r.failure⟩) later hfirst with
        hsame | ⟨hstop, hlater⟩
      · exact ih hsound hsame habort
      · rcases ih hsound hlater habort with rfl | hother
        · exact .inr ⟨hstop, m, h.mem htask, hfails⟩
        · exact .inr hother

/-- **The first task to fail** along a schedule tells the reason, unless a later one stops
everything.

**Proof sketch.** Induction on the schedule. As long as no turn fails, the first failure is that of
the rest; the failure of the first turn that fails stays, or one that stops everything takes its
place (`Sound.failure_play`). -/
lemma Sound.firstToFail (hc : Compatible c named) (hv : v.WellFormed)
    (h : r.Sound c follow net v named) (hnone : r.failure = none) {turns : List Turn}
    (habort : (r.play c follow net turns).failure = some abort) :
    ∃ before position piece after n first, turns = before ++ .task position piece :: after ∧
      named[position]? = some n ∧ (r.play c follow net before).failure = none ∧
      (r.play c follow net (before ++ [.task position piece])).failure = some first ∧
      FailsWith c follow net v named n first ∧
      (abort = first ∨
        abort.stopsAtOnce = true ∧ ∃ m ∈ named, FailsWith c follow net v named m abort) := by
  induction turns generalizing r with
  | nil =>
    rw [Resolution.play, List.foldl_nil, hnone] at habort
    cases habort
  | cons turn turns ih =>
    have hturned := turn_cases c follow net h.quiet turn
    have hsound := h.turn hc hv turn
    rw [Resolution.play, List.foldl_cons] at habort
    have hlater : (r.turn c follow net turn).failure = none →
        ∃ before position piece after n first,
          turn :: turns = before ++ .task position piece :: after ∧
          named[position]? = some n ∧ (r.play c follow net before).failure = none ∧
          (r.play c follow net (before ++ [.task position piece])).failure = some first ∧
          FailsWith c follow net v named n first ∧
          (abort = first ∨
            abort.stopsAtOnce = true ∧ ∃ m ∈ named, FailsWith c follow net v named m abort) := by
      intro hnone'
      obtain ⟨before, position, piece, after, n, first, rfl, hrest⟩ := ih hsound hnone' habort
      exact ⟨turn :: before, position, piece, after, n, first, rfl, hrest⟩
    generalize hr' : r.turn c follow net turn = r' at hturned hsound habort hlater
    cases hturned with
    | waits | gaveUp | absent | went => exact hlater hnone
    | @failed position piece m stage first htask hstep =>
      obtain ⟨hfails, -⟩ := (h.steps hc hv htask hstep).fails first rfl
      have hfirst := failure_fail_of_none
        (r := ⟨r.progress, r.tasks.set position (m, .dropped), r.failure⟩) first hnone
      refine ⟨[], position, piece, turns, m, first, rfl, h.named_at htask, hnone, ?_, hfails,
        hsound.failure_play hc hv hfirst habort⟩
      rw [List.nil_append, Resolution.play, List.foldl_cons, hr', List.foldl_nil]
      exact hfirst

end Resolution

/-! ## What is left -/

/-- A resolution at the end of a schedule. -/
def along (c : Config) (follow : Bool) (net : Network) (v : Volume) (named : List Named)
    (turns : List Turn) : Resolution :=
  (Resolution.start (.ofVolume v) named).play c follow net turns

/-- What there is to say of a resolution that fails along a schedule, with the volume that it
leaves. -/
structure FailsAlong (c : Config) (follow : Bool) (net : Network) (v : Volume) (named : List Named)
    (turns : List Turn) (abort : CacheAbort) (w : Volume) : Prop where
  /-- The first task to fail tells the reason, unless a later one stops everything. -/
  first : ∃ before position piece after n first, turns = before ++ .task position piece :: after ∧
    named[position]? = some n ∧ (along c follow net v named before).failure = none ∧
    (along c follow net v named (before ++ [.task position piece])).failure = some first ∧
    FailsWith c follow net v named n first ∧
    (abort = first ∨
      abort.stopsAtOnce = true ∧ ∃ m ∈ named, FailsWith c follow net v named m abort)
  /-- No entry is there in part, and none is changed that was not missing. -/
  entry : ∀ n ∈ named, Kept c v w n ∨ look c v n.name = .miss ∧
    ∃ text, (Http.fetch follow net n.url).result? = some (.ok text) ∧
      content? c w n.name = some (Text.Utf8.encode text)
  /-- What is done at any time, before or after the failure, is there in the end. -/
  done : ∀ before after, turns = before ++ after → ∀ n content,
    (n, .done content) ∈ (along c follow net v named before).tasks → look c v n.name = .miss →
      content? c w n.name = some (Text.Utf8.encode content)
  /-- What has failed or was given up without a worker leaves its entry as it was. -/
  dropped : ∀ before after, turns = before ++ after → ∀ n,
    (n, .dropped) ∈ (along c follow net v named before).tasks → Kept c v w n
  /-- What had not come to store its text when the tasks were given up leaves its entry as it
  was. -/
  givenUp : ∀ before after, turns = before ++ .giveUp :: after →
    (along c follow net v named before).failure ≠ none → ∀ n stage,
      (n, stage) ∈ (along c follow net v named before).tasks → stage.giveUp = .dropped → Kept c v w n
  /-- A worker that was not stopped has put its entry into place if it has ended well. -/
  working : ∀ n content job, (n, .abandoned content job) ∈ (along c follow net v named turns).tasks →
    (job = .ended (.ok ()) → content? c w n.name = some (Text.Utf8.encode content)) ∧
    (job ≠ .ended (.ok ()) → Kept c v w n)

/-- A longer schedule goes on where a shorter one has ended. -/
lemma along_append (before after : List Turn) :
    along c follow net v named (before ++ after) =
      (along c follow net v named before).play c follow net after :=
  List.foldl_append

/-- What has come to an end stays so in a longer schedule. -/
lemma mem_along_append {before : List Turn}
    (h : (n, stage) ∈ (along c follow net v named before).tasks) (hend : stage.Ended)
    (after : List Turn) : (n, stage) ∈ (along c follow net v named (before ++ after)).tasks := by
  rw [along_append]
  exact Resolution.mem_play h hend after

/-- **What there is to say of a resolution that fails** holds along every schedule.

**Proof sketch.** All is read off what is known of the tasks in the end (`Sound`), because a task
that was dropped or is done stays so (`mem_along_append`); the reason of the failure is that of the
first task to fail (`Sound.firstToFail`). -/
lemma failsAlong (hc : Compatible c named) (hv : v.WellFormed) {turns : List Turn} {p : Progress}
    (h : resolveNamedAlong c follow net turns (.ofVolume v) named = (p, .error abort))
    (hraises : abort ≠ .endless) : FailsAlong c follow net v named turns abort p.volume := by
  obtain ⟨rfl, hresult⟩ := Prod.mk.inj h
  have hstart := Resolution.Sound.start c follow net v named
  have hsound : (along c follow net v named turns).Sound c follow net v named :=
    sound_play follow net hc hv turns
  have hnow := hsound.now hc hv
  have hfailure : (along c follow net v named turns).failure = some abort := by
    rw [Resolution.result] at hresult
    split at hresult
    · next abort' hfailure =>
      cases hresult
      exact hfailure
    · exact absurd (Resolution.eq_endless_of_collect hresult) hraises
  have hcomplete : ∀ {n : Named} {content : String},
      Wanted c follow net v named (n.attempt content) →
      Stored c v (along c follow net v named turns).progress.volume (n.attempt content) →
        content? c (along c follow net v named turns).progress.volume n.name =
          some (Text.Utf8.encode content) :=
    fun hwanted hstored => hstored.content?_eq hc hnow.wellFormed hnow.later (hwanted.for_named hc)
  have hdropped : ∀ before after, turns = before ++ after → ∀ n,
      (n, .dropped) ∈ (along c follow net v named before).tasks →
        Kept c v (along c follow net v named turns).progress.volume n := by
    rintro before after rfl n htask
    have hstays := mem_along_append htask trivial after
    exact hsound.holds _ hstays
  refine ⟨hstart.firstToFail hc hv rfl hfailure, fun n hn => ?_, ?_, hdropped, ?_, ?_⟩
  · rcases hnow.content?_eq hc hv hn with heq | ⟨a, ha, rfl, hstored⟩
    · exact .inl heq
    · exact .inr ⟨ha.missing, a.content, ha.fetched,
        hstored.content?_eq hc hnow.wellFormed hnow.later (ha.for_named hc)⟩
  · rintro before after rfl n content htask hmiss
    have hstays := mem_along_append htask trivial after
    rcases hsound.holds _ hstays with ⟨hhit, -⟩ | ⟨hwanted, hstored⟩
    · simp [hmiss] at hhit
    · exact hcomplete hwanted hstored
  · rintro before after rfl hfailed n stage htask hquit
    refine hdropped (before ++ [.giveUp]) after (by simp) n ?_
    have hgave : (along c follow net v named before).turn c follow net .giveUp =
        (along c follow net v named before).giveUp := by
      rw [Resolution.turn, if_pos (Option.isSome_iff_ne_none.2 hfailed)]
    rw [along_append, Resolution.play, List.foldl_cons, List.foldl_nil, hgave]
    exact List.mem_map.2 ⟨_, htask, congrArg (n, ·) hquit⟩
  · intro n content job htask
    obtain ⟨hwanted, hjob, hkept⟩ := hsound.holds _ htask
    refine ⟨?_, hkept⟩
    rintro rfl
    exact hcomplete hwanted hjob

end ParseBench.Fixture
