import ParseBench.Proofs.Fixture.Tasks

set_option relaxedAutoImplicit false
set_option autoImplicit false

/-!
# Schedules

If nothing keeps the fixtures of a list from being resolved, then nothing fails along any schedule,
and every schedule in which each task has enough turns comes to the end. Where a schedule comes to
the end, all texts are stored, each fixture is what it has to be, and so are the requests up to
their order.

## Main definitions

* `ParseBench.Fixture.Turn.advances` — the turns in which a task gets on.
* `ParseBench.Fixture.Stage.turns` — how many turns a task needs at most.
* `ParseBench.Fixture.Stage.Smooth`, `ParseBench.Fixture.Resolution.Going` — nothing has failed so
  far.
* `ParseBench.Fixture.Finished` — what a resolution comes to that returns.

## Main results

* `ParseBench.Fixture.Stage.Holds.smooth` — no step of a task fails if nothing is in its way.
* `ParseBench.Fixture.Resolution.Going.play` — nothing fails along a schedule.
* `ParseBench.Fixture.finished_of_resolveNamedAlong` — what a resolution comes to, along any
  schedule.
* `ParseBench.Fixture.resolveNamedAlong_of_resolvable` — a resolution fails along no schedule.
* `ParseBench.Fixture.resolveNamedAlong_returns` — enough turns for each task are enough.
-/

namespace ParseBench.Fixture

open ParseBench.Bench (Config)
open ParseBench.Files
open ParseBench.Http (FetchFault Network)
open ParseBench.Text (Bytes Points)

variable {c : Config} {follow : Bool} {net : Network} {v u w : Volume} {named : List Named}
  {n : Named} {stage next : Stage}

/-! ## Turns that are left -/

/-- Whether the task at a position gets on in a turn: a worker that writes has to write
something. -/
def Turn.advances (position : Nat) : Turn → Bool
  | .task i piece => i == position && piece != some 0
  | .giveUp => false

namespace Job

/-- How many turns a worker needs at most to store so many bytes. -/
def turns (size : Nat) : Job → Nat
  | .making directory climbing below => (making directory climbing below).rank + size
  | .checking directory fault below => (checking directory fault below).rank + size
  | .opening hidden => (opening hidden).rank + size
  | .writing _ _ written => size - written + 2
  | .moving _ => 1
  | .ended _ => 0

variable {job : Job}

/-- A worker needs no more turns than its rank and the bytes say. -/
lemma turns_le (size : Nat) (job : Job) : job.turns size ≤ job.rank + size := by
  cases job <;> simp only [turns, rank] <;> omega

/-- A worker that has not ended needs a turn at least. -/
lemma turns_pos (size : Nat) (hjob : ∀ result, job ≠ .ended result) : 0 < job.turns size := by
  cases job with
  | making directory climbing below =>
    have := rank_making_ge directory climbing below
    rw [turns]
    omega
  | checking | opening | writing | moving => simp only [turns, rank]; omega
  | ended result => exact absurd rfl (hjob result)

/-- Writing a piece lowers the number of turns that are left, unless the piece is empty. -/
lemma turns_put (v : Volume) (hidden : Path) (place : Location) (data : Bytes) (written : Nat)
    (piece : Option Nat) :
    (put v hidden place data written piece).2.turns data.length ≤ data.length - written + 2 ∧
      (piece ≠ some 0 → (put v hidden place data written piece).2.turns data.length ≤
        data.length - written + 1) := by
  simp only [put]
  split
  · simp [failed, turns]
  · dsimp only
    split_ifs with hpart
    · cases piece with
      | none => exact absurd hpart (lt_irrefl _)
      | some size =>
        dsimp only at hpart ⊢
        rw [turns]
        refine ⟨by omega, fun hsize => ?_⟩
        have : size ≠ 0 := fun h => hsize (h ▸ rfl)
        omega
    · rw [turns]
      exact ⟨by omega, fun _ => by omega⟩

/-- **A step of a worker lowers the number of turns that are left**, unless it writes nothing. -/
lemma turns_step (v : Volume) (entry : Path) (data : Bytes) (piece : Option Nat) (job : Job) :
    (job.step v entry data piece).2.turns data.length ≤ job.turns data.length ∧
      (piece ≠ some 0 → (job.step v entry data piece).2.turns data.length ≤
        job.turns data.length - 1) := by
  have whole : (∀ result, job ≠ .ended result) →
      (job.step v entry data none).2.turns data.length < job.rank + data.length := by
    intro hjob
    have hlt := rank_step_lt v entry data hjob
    have hle := turns_le data.length (job.step v entry data none).2
    omega
  cases job with
  | making directory climbing below =>
    have hlt : ((making directory climbing below).step v entry data piece).2.turns data.length <
      (making directory climbing below).rank + data.length := whole nofun
    rw [turns.eq_1]
    exact ⟨by omega, fun _ => by omega⟩
  | checking directory fault below =>
    have hlt : ((checking directory fault below).step v entry data piece).2.turns data.length <
      (checking directory fault below).rank + data.length := whole nofun
    rw [turns.eq_2]
    exact ⟨by omega, fun _ => by omega⟩
  | opening hidden =>
    have hlt : ((opening hidden).step v entry data piece).2.turns data.length ≤ data.length + 2 := by
      rw [step]
      split
      · exact (turns_put v hidden _ data 0 piece).1
      · simp [failed, turns]
    rw [turns.eq_3, rank]
    exact ⟨by omega, fun _ => by omega⟩
  | writing hidden place written =>
    obtain ⟨hle, hlt⟩ := turns_put v hidden place data written piece
    rw [turns.eq_4]
    exact ⟨hle, fun hpiece => by have := hlt hpiece; rw [step]; omega⟩
  | moving hidden =>
    have hlt : ((moving hidden).step v entry data piece).2.turns data.length = 0 := by
      rw [step]
      split <;> rfl
    exact ⟨by omega, fun _ => by omega⟩
  | ended result => exact ⟨le_rfl, fun _ => le_rfl⟩

end Job

namespace Stage

/-- How many turns a task needs at most from its requests on. -/
def turnsToFetch (c : Config) (n : Named) (urls : List String) :
    Option (Except FetchFault String) → Nat
  | some (.ok content) => urls.length + 2 +
    (Job.start (entryPath c n.name)).turns (Text.Utf8.encode content).length
  | _ => urls.length

/-- How many turns a task needs at most until it is done, if it does not fail. -/
def turns (c : Config) (follow : Bool) (net : Network) (n : Named) : Stage → Nat
  | .looking => turnsToFetch c n (Http.fetch follow net n.url).urls
    (Http.fetch follow net n.url).result? + 2
  | .looked _ => turnsToFetch c n (Http.fetch follow net n.url).urls
    (Http.fetch follow net n.url).result? + 1
  | .fetching urls ending => turnsToFetch c n urls ending
  | .storing content job => job.turns (Text.Utf8.encode content).length + 1
  | .abandoned _ _ | .done _ | .dropped => 0

/-- **A step of a task lowers the number of turns that are left**, unless its worker writes
nothing. -/
lemma turns_step {piece : Option Nat} {made : List Change} {es : List Event}
    (hstep : Step c follow net u n piece stage made es (.ok next)) :
    next.turns c follow net n ≤ stage.turns c follow net n ∧
      (piece ≠ some 0 → next.turns c follow net n ≤ stage.turns c follow net n - 1) := by
  cases hstep with
  | looks =>
    simp only [turns]
    omega
  | found => simp [turns]
  | missed => exact ⟨Nat.le_succ _, fun _ => le_rfl⟩
  | asks =>
    simp only [turns, turnsToFetch]
    split <;> simp only [List.length_cons] <;> omega
  | waits => simp [turns, turnsToFetch]
  | arrived =>
    simp only [turns, turnsToFetch, List.length_nil]
    omega
  | stored => simp [turns]
  | @works content job hgoing =>
    have hpos := Job.turns_pos (Text.Utf8.encode content).length hgoing
    obtain ⟨hle, hlt⟩ := Job.turns_step u (entryPath c n.name) (Text.Utf8.encode content) piece job
    simp only [turns]
    refine ⟨by omega, fun hpiece => ?_⟩
    have := hlt hpiece
    omega
  | abandoned | done | dropped => simp [turns]

/-! ## Nothing fails -/

/-- A task has not failed and was not given up, and its worker has not failed. -/
def Smooth (u : Volume) : Stage → Prop
  | .storing _ job => job.Smooth u
  | .abandoned _ _ | .dropped => False
  | .looking | .looked _ | .fetching _ _ | .done _ => True

/-- Nothing fails because of later changes. -/
lemma Smooth.later (h : stage.Smooth u) (hlater : u.Later w) : stage.Smooth w := by
  cases stage with
  | storing content job => exact Job.Smooth.later h hlater
  | abandoned | dropped => exact h
  | looking | looked | fetching | done => trivial

/-- **No step of a task fails if nothing keeps its fixture from being resolved.** -/
lemma Holds.smooth (hc : Compatible c named) (hu : Between c follow net v named u)
    (hr : Resolvable c follow net v named) (hn : n ∈ named)
    (h : stage.Holds c follow net v named u n) (hsmooth : stage.Smooth u) {piece : Option Nat}
    {made : List Change} {es : List Event} {outcome : Except CacheAbort Stage}
    (hstep : Step c follow net u n piece stage made es outcome) :
    ∃ next, outcome = .ok next ∧ next.Smooth (Change.applyAll u made) := by
  cases hstep with
  | looks | found | missed | asks | stored | done => exact ⟨_, rfl, trivial⟩
  | spoiled =>
    obtain ⟨-, hlook⟩ := h
    rcases hr.each n hn with ⟨content, hhit⟩ | ⟨hmiss, -⟩
    · simp [hhit] at hlook
    · simp [hmiss] at hlook
  | waits | arrived => exact ⟨_, rfl, trivial⟩
  | lost =>
    obtain ⟨-, hmiss, hending⟩ := h
    rcases hr.each n hn with ⟨content, hhit⟩ | ⟨-, content, hfetch, -⟩
    · simp [hmiss] at hhit
    · simp [hfetch] at hending
  | unstored => cases hsmooth
  | @works content job hgoing =>
    obtain ⟨hwanted, hjob, -⟩ := h
    have hs : Storable v ((n.attempt content).entry c) (n.attempt content).data := by
      rcases hr.each n hn with ⟨content', hhit⟩ | ⟨-, content', hfetch, hs⟩
      · have hmiss : look c v n.name = .miss := hwanted.missing
        simp [hmiss] at hhit
      · obtain rfl : content = content' := by
          have hfetched := hwanted.fetched
          rw [Named.attempt, hfetch] at hfetched
          simpa using hfetched.symm
        exact hs
    exact ⟨_, rfl, hjob.smooth hc (hwanted.for_named hc) hu.wellFormed hu.later
      (hu.storable hc hr.alone hwanted hs) hsmooth rfl⟩
  | abandoned | dropped => exact hsmooth.elim

/-- A task that needs no more turns is done. -/
lemma Holds.done (hr : Resolvable c follow net v named) (hn : n ∈ named)
    (h : stage.Holds c follow net v named u n) (hsmooth : stage.Smooth u)
    (hturns : stage.turns c follow net n = 0) : ∃ content, stage = .done content := by
  cases stage with
  | looking => simp [turns] at hturns
  | looked found => simp [turns] at hturns
  | fetching urls ending =>
    obtain ⟨-, hmiss, hending⟩ := h
    rcases hr.each n hn with ⟨content, hhit⟩ | ⟨-, content, hfetch, -⟩
    · simp [hmiss] at hhit
    · obtain rfl : ending = some (.ok content) := hending.trans hfetch
      simp [turns, turnsToFetch] at hturns
  | storing content job => simp [turns] at hturns
  | abandoned | dropped => exact hsmooth.elim
  | done content => exact ⟨content, rfl⟩

end Stage

namespace Resolution

variable {r : Resolution} {position : Nat}

/-- No task of a resolution has failed or was given up. -/
structure Going (r : Resolution) : Prop where
  failure : r.failure = none
  smooth : ∀ t ∈ r.tasks, t.2.Smooth r.progress.volume

/-- Nothing has failed before the beginning. -/
lemma Going.start (d : Log.Desk) (named : List Named) : (Resolution.start d named).Going where
  failure := rfl
  smooth := by
    intro t ht
    obtain ⟨n, -, rfl⟩ := List.mem_map.1 ht
    trivial

/-- **Nothing fails in a turn** if nothing keeps the fixtures from being resolved. -/
lemma Going.turn (hc : Compatible c named) (hv : v.WellFormed)
    (hr : Resolvable c follow net v named) (hsound : r.Sound c follow net v named) (h : r.Going)
    (turn : Turn) : (r.turn c follow net turn).Going := by
  have hturned := turn_cases c follow net hsound.quiet turn
  have smooth : ∀ {position : Nat} {piece : Option Nat} {n : Named} {stage : Stage}
      {made : List Change} {es : List Event} {outcome : Except CacheAbort Stage},
      r.tasks[position]? = some (n, stage) →
      Stage.Step c follow net r.progress.volume n piece stage made es outcome →
        ∃ next, outcome = .ok next ∧ next.Smooth (Change.applyAll r.progress.volume made) := by
    intro position piece n stage made es outcome htask hstep
    exact (hsound.holds_at htask).smooth hc (hsound.now hc hv) hr (hsound.mem htask)
      (h.smooth _ (List.mem_of_getElem? htask)) hstep
  generalize r.turn c follow net turn = r' at hturned
  cases hturned with
  | waits hnone => exact h
  | gaveUp hfailed => exact absurd h.failure hfailed
  | absent htask => exact h
  | @went position piece n stage next made es htask hstep =>
    obtain ⟨_, hnext, hsmooth⟩ := smooth htask hstep
    cases hnext
    have hlater : r.progress.volume.Later (Change.applyAll r.progress.volume made) :=
      (hsound.steps hc hv htask hstep).acts.weaves.legal.later
    refine ⟨h.failure, fun t ht => ?_⟩
    rcases List.mem_or_eq_of_mem_set ht with ht | rfl
    · exact (h.smooth t ht).later hlater
    · exact hsmooth
  | failed htask hstep =>
    obtain ⟨_, hnext, -⟩ := smooth htask hstep
    cases hnext

/-- **Nothing fails along a schedule** if nothing keeps the fixtures from being resolved. -/
lemma Going.play (hc : Compatible c named) (hv : v.WellFormed)
    (hr : Resolvable c follow net v named) (hsound : r.Sound c follow net v named) (h : r.Going)
    (turns : List Turn) : (r.play c follow net turns).Going := by
  induction turns generalizing r with
  | nil => exact h
  | cons turn turns ih => exact ih (hsound.turn hc hv turn) (h.turn hc hv hr hsound turn)

/-- A turn in which a task gets on lowers the number of turns that it needs. -/
lemma Going.turns_turn (hc : Compatible c named) (hv : v.WellFormed)
    (hr : Resolvable c follow net v named) (hsound : r.Sound c follow net v named) (h : r.Going)
    (htask : r.tasks[position]? = some (n, stage)) (turn : Turn) :
    ∃ next, (r.turn c follow net turn).tasks[position]? = some (n, next) ∧
      next.turns c follow net n ≤
        stage.turns c follow net n - if turn.advances position then 1 else 0 := by
  have hturned := turn_cases c follow net hsound.quiet turn
  have hgoing := h.turn hc hv hr hsound turn
  generalize r.turn c follow net turn = r' at hturned hgoing
  cases hturned with
  | waits hnone => exact ⟨stage, htask, by simp [Turn.advances]⟩
  | gaveUp hfailed => exact absurd h.failure hfailed
  | @absent i piece htask' =>
    have hne : i ≠ position := by
      rintro rfl
      simp [htask] at htask'
    exact ⟨stage, htask, by simp [Turn.advances, hne]⟩
  | @went i piece m stage' next made es htask' hstep =>
    obtain ⟨hle, hlt⟩ := Stage.turns_step hstep
    by_cases hi : i = position
    · subst hi
      rw [htask] at htask'
      cases htask'
      refine ⟨next, ?_, ?_⟩
      · rw [List.getElem?_set_self (List.getElem?_eq_some_iff.1 htask).1]
      · by_cases hpiece : piece = some 0
        · simpa [Turn.advances, hpiece] using hle
        · simpa [Turn.advances, hpiece] using hlt hpiece
    · refine ⟨stage, ?_, by simp [Turn.advances, hi]⟩
      rw [List.getElem?_set_ne hi]
      exact htask
  | failed htask' hstep =>
    exact absurd hgoing.failure (failure_fail_ne_none _ _)

/-- **Turns in which a task gets on lower the number of turns that it needs.** -/
lemma Going.turns_play (hc : Compatible c named) (hv : v.WellFormed)
    (hr : Resolvable c follow net v named) (hsound : r.Sound c follow net v named) (h : r.Going)
    (htask : r.tasks[position]? = some (n, stage)) (turns : List Turn) :
    ∃ last, (r.play c follow net turns).tasks[position]? = some (n, last) ∧
      last.turns c follow net n ≤
        stage.turns c follow net n - turns.countP (Turn.advances position) := by
  induction turns generalizing r stage with
  | nil => exact ⟨stage, htask, by simp⟩
  | cons turn turns ih =>
    obtain ⟨next, hnext, hle⟩ := h.turns_turn hc hv hr hsound htask turn
    obtain ⟨last, hlast, hle'⟩ := ih (hsound.turn hc hv turn) (h.turn hc hv hr hsound turn) hnext
    refine ⟨last, hlast, ?_⟩
    rw [List.countP_cons]
    split_ifs at hle ⊢ <;> omega

/-! ## Results -/

/-- A resolution of which no task has failed returns, or is not over yet. -/
lemma Going.result_cases (h : r.Going) :
    r.result = .error .endless ∨ ∃ fs, r.result = .ok fs := by
  rw [result, h.failure]
  dsimp only
  cases hcollect : collect r.tasks with
  | error abort => exact .inl (congrArg _ (eq_endless_of_collect hcollect))
  | ok fs => exact .inr ⟨fs, rfl⟩

end Resolution

/-- What a resolution comes to that returns: nothing has kept the fixtures from being resolved,
their texts are stored, and the result and the requests are what they have to be. -/
structure Finished (c : Config) (follow : Bool) (net : Network) (v : Volume) (named : List Named)
    (fs : List Bench.Fixture) (p : Progress) : Prop where
  resolvable : Resolvable c follow net v named
  overlay : Overlay c v (wanted c follow net v named) p.volume
  fixtures : List.Forall₂ (IsFixture c follow net v) named fs
  requests : (requested p.events).Perm (named.flatMap (askedFor c follow net v))

variable {fs : List Bench.Fixture} {p : Progress} {turns : List Turn}
  {result : Except CacheAbort (List Bench.Fixture)}

/-- **What a resolution comes to that returns**, from what is known of its tasks. -/
lemma Resolution.Sound.finished {r : Resolution} (hc : Compatible c named) (hv : v.WellFormed)
    (h : r.Sound c follow net v named) (hok : r.result = .ok fs) :
    Finished c follow net v named fs r.progress := by
  obtain ⟨hnone, hcollect⟩ := Resolution.result_eq_ok_iff.1 hok
  have hall := (List.forall₂_and_left _ _).2 ⟨h.holds, Resolution.collect_eq_ok_iff.1 hcollect⟩
  have hdone : ∀ t ∈ r.tasks, ∃ content, t.2 = .done content := by
    intro t ht
    obtain ⟨i, hi, rfl⟩ := List.getElem_of_mem ht
    exact ⟨_, (hall.get hi (hall.length_eq ▸ hi)).2.1⟩
  obtain ⟨hresolvable, hoverlay⟩ := (h.now hc hv).complete hc fun n hn => by
    rw [← h.names] at hn
    obtain ⟨⟨n, stage⟩, ht, rfl⟩ := List.mem_map.1 hn
    obtain ⟨content, rfl⟩ := hdone _ ht
    rcases h.holds _ ht with ⟨hhit, -⟩ | ⟨hwanted, hstored⟩
    · exact .inl ⟨content, hhit⟩
    · exact .inr ⟨_, hwanted, rfl, hstored⟩
  refine ⟨hresolvable, hoverlay, ?_, ?_⟩
  · rw [← h.names, List.forall₂_map_left_iff]
    refine hall.imp ?_
    rintro ⟨n, stage⟩ f ⟨hholds, rfl, hidentifier⟩
    refine ⟨hidentifier, ?_⟩
    rcases hholds with ⟨hhit, -⟩ | ⟨hwanted, -⟩
    · exact .inl hhit
    · exact .inr ⟨hwanted.missing, hwanted.fetched⟩
  · have hleft : (r.tasks.flatMap fun t => t.2.left c follow net v t.1) = [] := by
      rw [List.flatMap_eq_nil_iff]
      intro t ht
      obtain ⟨content, hcontent⟩ := hdone t ht
      rw [hcontent, Stage.left]
    have hrequests := h.requests hnone
    rwa [hleft, List.append_nil] at hrequests

/-! ## Resolutions along schedules -/

/-- What is known at the end of a schedule. -/
lemma sound_play (follow : Bool) (net : Network) (hc : Compatible c named) (hv : v.WellFormed)
    (turns : List Turn) :
    ((Resolution.start (.ofVolume v) named).play c follow net turns).Sound c follow net v named :=
  (Resolution.Sound.start c follow net v named).play hc hv turns

/-- **What a resolution comes to that returns**, along any schedule. -/
lemma finished_of_resolveNamedAlong (hc : Compatible c named) (hv : v.WellFormed)
    (h : resolveNamedAlong c follow net turns (.ofVolume v) named = (p, .ok fs)) :
    Finished c follow net v named fs p := by
  obtain ⟨rfl, hok⟩ := Prod.mk.inj h
  exact (sound_play follow net hc hv turns).finished hc hv hok

/-- **A resolution fails along no schedule** if nothing keeps its fixtures from being resolved. -/
lemma resolveNamedAlong_of_resolvable (hc : Compatible c named) (hv : v.WellFormed)
    (hr : Resolvable c follow net v named)
    (h : resolveNamedAlong c follow net turns (.ofVolume v) named = (p, result)) :
    result = .error .endless ∨ ∃ fs, result = .ok fs := by
  obtain ⟨-, rfl⟩ := Prod.mk.inj h
  have hgoing := (Resolution.Going.start (.ofVolume v) named).play hc hv hr
    (Resolution.Sound.start c follow net v named) turns
  exact hgoing.result_cases

/-- How many turns each task needs at most to resolve its fixture. -/
def enoughTurns (c : Config) (follow : Bool) (net : Network) : List Named → Nat
  | [] => 0
  | n :: rest => Stage.looking.turns c follow net n + enoughTurns c follow net rest

/-- These are enough turns for the task of each fixture. -/
lemma turns_le_enoughTurns (h : n ∈ named) :
    Stage.looking.turns c follow net n ≤ enoughTurns c follow net named := by
  induction h with
  | head rest => exact Nat.le_add_right _ _
  | tail m _ ih => exact ih.trans (Nat.le_add_left _ _)

/-- **Every schedule in which each task has enough turns comes to the end** if nothing keeps the
fixtures from being resolved. -/
lemma resolveNamedAlong_returns (hc : Compatible c named) (hv : v.WellFormed)
    (hr : Resolvable c follow net v named)
    (hturns : ∀ i < named.length,
      enoughTurns c follow net named ≤ turns.countP (Turn.advances i)) :
    ∃ p fs, resolveNamedAlong c follow net turns (.ofVolume v) named = (p, .ok fs) := by
  have hstart := Resolution.Going.start (.ofVolume v) named
  have hsound := Resolution.Sound.start c follow net v named
  have hgoing := hstart.play hc hv hr hsound turns
  have hend := sound_play follow net hc hv turns
  rw [resolveNamedAlong]
  generalize hr' : (Resolution.start (.ofVolume v) named).play c follow net turns = r
    at hgoing hend
  refine ⟨r.progress, ?_⟩
  have hdone : ∀ t ∈ r.tasks, ∃ content, t.2 = .done content := by
    intro t ht
    obtain ⟨i, hi, rfl⟩ := List.getElem_of_mem ht
    have hlength : r.tasks.length = named.length := by rw [← hend.names, List.length_map]
    have hin : i < named.length := hlength ▸ hi
    have hfirst : (Resolution.start (.ofVolume v) named).tasks[i]? = some (named[i], .looking) := by
      simp [Resolution.start, hin]
    obtain ⟨last, hlast, hle⟩ := hstart.turns_play hc hv hr hsound hfirst turns
    rw [hr', List.getElem?_eq_getElem hi, Option.some.injEq] at hlast
    have hbound : Stage.looking.turns c follow net named[i] ≤ enoughTurns c follow net named :=
      turns_le_enoughTurns (List.getElem_mem hin)
    have henough := hturns i hin
    have hholds := hend.holds _ (List.getElem_mem hi)
    have hsmooth := hgoing.smooth _ (List.getElem_mem hi)
    rw [hlast] at hholds hsmooth ⊢
    exact hholds.done hr (List.getElem_mem hin) hsmooth (by dsimp only; omega)
  obtain ⟨fs, hcollect⟩ := Resolution.collect_of_done hdone
  exact ⟨fs, by rw [Resolution.result_eq_ok_iff.2 ⟨hgoing.failure, hcollect⟩]⟩

end ParseBench.Fixture
