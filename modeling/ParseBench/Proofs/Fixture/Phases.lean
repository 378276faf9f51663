import ParseBench.Proofs.Fixture.Prompt

set_option relaxedAutoImplicit false
set_option autoImplicit false

/-!
# The two phases of a resolution

What the fetches that are awaited do is put on a line, in the order of time. A resolution along the
prompt schedule starts all fixtures and follows this line.

## Main definitions

* `ParseBench.Fixture.placedLine` — what the awaited fetches do, with the positions of their
  fixtures.
* `ParseBench.Fixture.Account` — what is known of fixtures that were started on any volume.

## Main results

* `ParseBench.Fixture.own_placedLine` — what is on the line for each fixture.
* `ParseBench.Fixture.Starts.account` — what the first phase comes to on any volume.
* `ParseBench.Fixture.resolveNamed_runs` — a resolution along the prompt schedule is a run in two
  phases.
-/

namespace ParseBench.Fixture

open ParseBench.Bench (Config)
open ParseBench.Files
open ParseBench.Http (Fetch FetchFault Network)
open ParseBench.Text (Points)

variable {c : Config} {follow : Bool} {net : Network} {named : List Named}
  {statuses : List (Named × Status)}

/-! ## The line of all moments -/

/-- What the fetch of a fixture does if it is awaited, with the times and a position. -/
def placedAt (s : Named × Status) (position : Nat) : List (Nat × Nat × Moment) :=
  match s.2 with
  | .waiting f => (moments s.1 f).map fun m => (m.1, position, m.2)
  | _ => []

/-- What the awaited fetches do, with the times and positions, fixture by fixture. -/
def placedFrom (position : Nat) (statuses : List (Named × Status)) : List (Nat × Nat × Moment) :=
  (statuses.zipIdx position).flatMap fun s => placedAt s.1 s.2

/-- What the awaited fetches do, with the positions, in the order of time. -/
def placedLine (statuses : List (Named × Status)) : List (Nat × Moment) :=
  ((placedFrom 0 statuses).mergeSort fun a b => a.1 ≤ b.1).map Prod.snd

/-- The moments of the next fixture come before those of the others. -/
lemma placedFrom_cons (position : Nat) (s : Named × Status) (statuses : List (Named × Status)) :
    placedFrom position (s :: statuses) =
      placedAt s position ++ placedFrom (position + 1) statuses := by
  rw [placedFrom, List.zipIdx_cons, List.flatMap_cons]
  rfl

/-- Without their positions the moments are those of the timeline. -/
lemma map_placedFrom (position : Nat) (statuses : List (Named × Status)) :
    (placedFrom position statuses).map (fun e => (e.1, e.2.2)) = awaited statuses := by
  induction statuses generalizing position with
  | nil => rfl
  | cons s statuses ih =>
    obtain ⟨n, status⟩ := s
    rw [placedFrom_cons, List.map_append, ih, awaited, awaited, List.flatMap_cons, placedAt]
    cases status with
    | waiting f => simp [Function.comp_def]
    | done content => rfl
    | failed abort => rfl

/-- **Without its positions the line is the timeline.** -/
lemma map_placedLine (statuses : List (Named × Status)) :
    (placedLine statuses).map Prod.snd = timeline statuses := by
  have hsort : ((placedFrom 0 statuses).mergeSort fun a b => a.1 ≤ b.1).map
      (fun e => (e.1, e.2.2)) = schedule statuses := by
    rw [schedule, ← map_placedFrom 0]
    exact List.map_mergeSort fun _ _ _ _ => rfl
  rw [timeline, ← hsort, placedLine, List.map_map, List.map_map]
  rfl

/-- The turns of a task that awaits an answer are those at its moments. -/
lemma laterTurns_eq (c : Config) (follow : Bool) (net : Network) (position : Nat) (n : Named) :
    laterTurns c follow net position n =
      (placedAt (n, .waiting (Http.fetch follow net n.url)) position).map
        fun e => (e.1, turnsAt c e.2) := by
  simp only [laterTurns, placedAt, moments, List.map_append, List.map_map]
  congr 1
  cases (Http.fetch follow net n.url).ending with
  | none => rfl
  | some e => rfl

/-- The turns of a task at a stage that awaits an answer, with their times. -/
def awaitedAt (c : Config) (follow : Bool) (net : Network) (position : Nat) (n : Named) :
    Stage → List (Nat × List Turn)
  | .fetching _ _ => laterTurns c follow net position n
  | _ => []

/-- **The turns of all tasks that await answers are those along the line.** -/
lemma awaitedTurns_eq (c : Config) (follow : Bool) (net : Network)
    (hfetch : ∀ n f, (n, .waiting f) ∈ statuses → f = Http.fetch follow net n.url) :
    awaitedTurns c follow net (statuses.map fun s => (s.1, s.2.stage)) =
      (placedLine statuses).flatMap (turnsAt c) := by
  have hall : ∀ position, ((statuses.map fun s => (s.1, s.2.stage)).zipIdx position).flatMap
      (fun s => awaitedAt c follow net s.2 s.1.1 s.1.2) =
      (placedFrom position statuses).map fun e => (e.1, turnsAt c e.2) := by
    induction statuses with
    | nil => exact fun _ => rfl
    | cons s statuses ih =>
      intro position
      obtain ⟨n, status⟩ := s
      rw [List.map_cons, List.zipIdx_cons, List.flatMap_cons, placedFrom_cons, List.map_append,
        ih (fun n f hmem => hfetch n f (List.mem_cons_of_mem _ hmem))]
      congr 1
      cases status with
      | waiting f =>
        obtain rfl := hfetch n f List.mem_cons_self
        exact laterTurns_eq c follow net position n
      | done content => rfl
      | failed abort => rfl
  have hsort : ((placedFrom 0 statuses).map fun e => (e.1, turnsAt c e.2)).mergeSort
      (fun a b => a.1 ≤ b.1) =
      ((placedFrom 0 statuses).mergeSort fun a b => a.1 ≤ b.1).map fun e => (e.1, turnsAt c e.2) :=
    (List.map_mergeSort (f := fun e : Nat × Nat × Moment => (e.1, turnsAt c e.2))
      (r := fun a b => a.1 ≤ b.1) (s := fun a b => a.1 ≤ b.1) fun _ _ _ _ => rfl).symm
  have hturns := congrArg (fun l => (l.mergeSort fun a b => a.1 ≤ b.1).flatMap Prod.snd) (hall 0)
  rw [hsort, List.flatMap_map] at hturns
  rw [placedLine, List.flatMap_map]
  exact hturns

/-- All moments of a line have the positions of their fixtures. -/
lemma position_of_placedFrom {position : Nat} {e : Nat × Nat × Moment}
    (he : e ∈ placedFrom position statuses) :
    position ≤ e.2.1 ∧ e.2.1 < position + statuses.length := by
  induction statuses generalizing position with
  | nil => simp [placedFrom] at he
  | cons s statuses ih =>
    rw [placedFrom_cons, List.mem_append] at he
    rw [List.length_cons]
    rcases he with he | he
    · rw [placedAt] at he
      split at he
      · obtain ⟨m, -, rfl⟩ := List.mem_map.1 he
        dsimp only
        omega
      · cases he
    · have := ih he
      omega

/-- What is on the line at a position, before it is put in the order of time. -/
lemma filter_placedFrom (position : Nat) {i : Nat} {s : Named × Status}
    (hs : statuses[i]? = some s) :
    (placedFrom position statuses).filter (fun e => e.2.1 == position + i) =
      placedAt s (position + i) := by
  induction statuses generalizing position i with
  | nil => simp at hs
  | cons first statuses ih =>
    rw [placedFrom_cons, List.filter_append]
    have hfirst : ∀ e ∈ placedAt first position, e.2.1 = position := by
      intro e he
      rw [placedAt] at he
      split at he
      · obtain ⟨m, -, rfl⟩ := List.mem_map.1 he
        rfl
      · cases he
    cases i with
    | zero =>
      obtain rfl : first = s := by simpa using hs
      rw [List.filter_eq_self.2 fun e he => by simp [hfirst e he], List.filter_eq_nil_iff.2,
        List.append_nil, Nat.add_zero]
      intro e he
      have := (position_of_placedFrom he).1
      simp only [beq_iff_eq]
      omega
    | succ i =>
      rw [List.filter_eq_nil_iff.2 fun e he => by simp [hfirst e he], List.nil_append]
      have hrest := ih (position + 1) (by simpa using hs)
      rw [Nat.add_right_comm] at hrest
      rw [← Nat.add_assoc, hrest]

/-- What a fetch does after its start is in the order of time. -/
lemma pairwise_moments (n : Named) (follow : Bool) (net : Network) (url : Points) :
    (moments n (Http.fetch follow net url)).Pairwise fun a b => a.1 ≤ b.1 := by
  rw [moments, List.pairwise_append]
  refine ⟨?_, ?_, ?_⟩
  · rw [List.pairwise_map]
    exact (Http.fetch_pairwise follow net url).filter _
  · cases (Http.fetch follow net url).ending <;> simp
  · intro a ha b hb
    obtain ⟨q, hq, rfl⟩ := List.mem_map.1 ha
    cases hend : (Http.fetch follow net url).ending with
    | none => simp [hend] at hb
    | some e =>
      rw [hend, List.mem_singleton] at hb
      rw [hb]
      exact Http.fetch_times hend q (List.mem_of_mem_filter hq)

/-- Sorting does not change the order of what is in order already. -/
lemma filter_mergeSort {α : Type} (key : α → Nat) {keep : α → Bool} {l : List α}
    (h : (l.filter keep).Pairwise fun a b => key a ≤ key b) :
    (l.mergeSort fun a b => key a ≤ key b).filter keep = l.filter keep := by
  have hsub : (l.filter keep).Sublist (l.mergeSort fun a b => key a ≤ key b) := by
    refine List.sublist_mergeSort ?_ ?_ (by simpa using h) List.filter_sublist
    · simp only [decide_eq_true_eq]
      omega
    · simp only [Bool.or_eq_true, decide_eq_true_eq]
      omega
  have hfilter := hsub.filter keep
  rw [List.filter_filter] at hfilter
  simp only [Bool.and_self] at hfilter
  refine (hfilter.eq_of_length ?_).symm
  exact ((List.mergeSort_perm l _).filter keep).length_eq.symm

/-- **What is on the line at a position** is what is left of the fetch of its fixture. -/
lemma own_placedLine {i : Nat} {n : Named} {status : Status}
    (hfetch : ∀ f, status = .waiting f → f = Http.fetch follow net n.url)
    (hs : statuses[i]? = some (n, status)) :
    own (placedLine statuses) i = status.stage.moments n := by
  have hplaced := filter_placedFrom 0 hs
  rw [Nat.zero_add] at hplaced
  have hfilter : ((placedFrom 0 statuses).mergeSort fun a b => a.1 ≤ b.1).filter
      (fun e => e.2.1 == i) = placedAt (n, status) i := by
    rw [← hplaced]
    refine filter_mergeSort Prod.fst ?_
    rw [hplaced, placedAt]
    cases status with
    | waiting f =>
      obtain rfl := hfetch f rfl
      rw [List.pairwise_map]
      exact pairwise_moments n follow net n.url
    | done content => exact .nil
    | failed abort => exact .nil
  rw [own, placedLine, List.filter_map]
  have hsame : ((fun e : Nat × Moment => e.1 == i) ∘ Prod.snd : Nat × Nat × Moment → Bool) =
    fun e => e.2.1 == i := rfl
  rw [hsame, hfilter, placedAt]
  cases status with
  | waiting f =>
    dsimp only [Status.stage, Stage.moments]
    simp only [moments, List.map_append, List.map_map, Stage.urlsLater]
    congr 1
    cases f.ending <;> rfl
  | done content => rfl
  | failed abort => rfl


/-! ## Fixtures that were started -/

/-- The text of an attempt has been fetched. -/
def Attempt.Fetched (follow : Bool) (net : Network) (a : Attempt) : Prop :=
  ∃ t, (Http.fetch follow net a.named.url).ending = some (t, .ok a.content)

/-- What is known of fixtures that were started on any volume: each began on some volume, and only
one that stops everything keeps others from being started. -/
structure Account (c : Config) (follow : Bool) (net : Network) (named : List Named)
    (log : List Attempt) (statuses : List (Named × Status)) : Prop where
  attempts : ∀ a ∈ log, a.named ∈ named ∧ a.Fetched follow net
  began : ∀ s ∈ statuses, s.1 ∈ named ∧ ∃ w now asked, Began c follow net w s.1 s.2 now asked
  names : (∀ s ∈ statuses, s.2.stopsAtOnce = false) → statuses.map Prod.fst = named

/-- If no fixture failed at its start, all were started. -/
lemma Account.names_of_ok {log : List Attempt} {statuses : List (Named × Status)}
    (h : Account c follow net named log statuses)
    (hno : ∀ s ∈ statuses, ∀ abort, s.2 ≠ .failed abort) : statuses.map Prod.fst = named := by
  refine h.names ?_
  rintro ⟨n, status⟩ hs
  cases status with
  | failed abort => exact absurd rfl (hno _ hs abort)
  | done content => rfl
  | waiting f => rfl

/-- What is awaited is the fetch of one of the fixtures. -/
lemma Account.awaited {log : List Attempt} {statuses : List (Named × Status)}
    (h : Account c follow net named log statuses) {n : Named} {f : Fetch}
    (hs : (n, .waiting f) ∈ statuses) : n ∈ named ∧ f = Http.fetch follow net n.url := by
  obtain ⟨hn, w, now, asked, hbegan⟩ := h.began _ hs
  exact ⟨hn, hbegan.waiting.1⟩

/-- A start accounts for what it did. -/
lemma Starts.account {w : Volume} {rest : List Named} {log : List Attempt} {steps : List Change}
    {statuses : List (Named × Status)} {asked : List String}
    (h : Starts c follow net w rest log steps statuses asked) :
    Account c follow net rest log statuses := by
  have hnow : ∀ {w n status now asked}, Began c follow net w n status now asked →
      ∀ a ∈ now, a.named = n ∧ a.Fetched follow net := by
    intro w n status now asked hbegan a ha
    obtain ⟨-, rfl, -, hend, -⟩ := hbegan.attempt ha
    exact ⟨rfl, 0, hend⟩
  induction h with
  | nil w => exact ⟨by simp, by simp, fun _ => rfl⟩
  | stop h _ hstop =>
    refine ⟨fun a ha => ⟨by simp [(hnow h a ha).1], (hnow h a ha).2⟩, ?_, fun hgo => ?_⟩
    · simpa using ⟨_, _, _, h⟩
    · simp [hstop] at hgo
  | cons h _ _ _ ih =>
    refine ⟨List.forall_mem_append.2 ⟨fun a ha => ?_, fun a ha => ?_⟩,
      List.forall_mem_cons.2 ⟨⟨List.mem_cons_self, _, _, _, h⟩, fun s hs => ?_⟩, fun hgo => ?_⟩
    · exact ⟨by simp [(hnow h a ha).1], (hnow h a ha).2⟩
    · obtain ⟨hmem, hfetched⟩ := ih.attempts a ha
      exact ⟨List.mem_cons_of_mem _ hmem, hfetched⟩
    · obtain ⟨hmem, hs⟩ := ih.began s hs
      exact ⟨List.mem_cons_of_mem _ hmem, hs⟩
    · rw [List.forall_mem_cons] at hgo
      rw [List.map_cons, ih.names hgo.2]

/-- A text that has arrived was awaited. -/
lemma Played.awaited {log : List Attempt} {asked : List String}
    {r : Except CacheAbort (List (Points × String))}
    (h : Played c (timeline statuses) log r asked) {a : Attempt} (ha : a ∈ log) :
    ∃ f t, (a.named, .waiting f) ∈ statuses ∧ f.ending = some (t, .ok a.content) :=
  mem_timeline_ending_iff.1 (h.attempt ha)

/-! ## What has arrived -/

/-- There is no first failure exactly if no fixture has failed. -/
lemma firstFailed_eq_none_iff :
    firstFailed statuses = none ↔ ∀ s ∈ statuses, ∀ abort, s.2 ≠ .failed abort := by
  induction statuses with
  | nil => simp [firstFailed]
  | cons s statuses ih =>
    obtain ⟨n, status⟩ := s
    cases status <;> simp [firstFailed, ih]

/-- There is no failure exactly if no fixture has failed. -/
lemma firstFailure_eq_none_iff :
    firstFailure statuses = none ↔ ∀ s ∈ statuses, ∀ abort, s.2 ≠ .failed abort := by
  rw [← firstFailed_eq_none_iff, firstFailure]
  split
  · next n abort hlast =>
    have hfailed : firstFailed statuses ≠ none := by
      intro hnone
      exact firstFailed_eq_none_iff.1 hnone _ (List.mem_of_getLast? hlast) abort rfl
    split_ifs <;> simp [hfailed]
  · rfl

/-- A text that has arrived under a name was stored. -/
lemma lookup_arrived {log : List Attempt} {name : Points} {content : String}
    (h : (log.map fun a => (a.named.name, a.content)).lookup name = some content) :
    ∃ a ∈ log, a.named.name = name ∧ a.content = content := by
  induction log with
  | nil => simp at h
  | cons a log ih =>
    rw [List.map_cons, List.lookup_cons] at h
    split at h
    · next heq =>
      cases h
      exact ⟨a, by simp, (eq_of_beq heq).symm, rfl⟩
    · obtain ⟨b, hb, hrest⟩ := ih h
      exact ⟨b, by simp [hb], hrest⟩

/-- If nothing has arrived under a name, then no attempt was for it. -/
lemma lookup_arrived_of_none {log : List Attempt} {name : Points}
    (h : (log.map fun a => (a.named.name, a.content)).lookup name = none) :
    ∀ a ∈ log, a.named.name ≠ name := by
  intro a ha heq
  rw [List.lookup_eq_none_iff] at h
  have := h (a.named.name, a.content) (List.mem_map.2 ⟨a, ha, rfl⟩)
  simp [heq] at this

/-- Among fixtures of which none stops everything, the failure is the first one. -/
lemma firstFailure_of_go (h : ∀ s ∈ statuses, s.2.stopsAtOnce = false) :
    firstFailure statuses = firstFailed statuses := by
  rw [firstFailure]
  split
  · next n abort hlast =>
    have hgo := h _ (List.mem_of_getLast? hlast)
    rw [if_neg (by simpa [Status.stopsAtOnce] using hgo)]
  · rfl

/-- The failure of the last fixture, if it stops everything. -/
lemma firstFailure_of_stop {first : List (Named × Status)} {n : Named} {abort : CacheAbort}
    (h : abort.stopsAtOnce = true) : firstFailure (first ++ [(n, .failed abort)]) = some abort := by
  rw [firstFailure, List.getLast?_concat]
  exact if_pos h

/-- The text of a fixture has arrived exactly if its fetch is awaited and ends with the text. -/
lemma Played.lookup_eq {arrived : List (Points × String)} {log : List Attempt} {asked : List String}
    (h : Played c (timeline statuses) log (.ok arrived) asked)
    (hnodup : (statuses.map fun s => s.1.name).Nodup) {n : Named} {f : Fetch}
    (hn : (n, .waiting f) ∈ statuses) (content : String) :
    arrived.lookup n.name = some content ↔ ∃ t, f.ending = some (t, .ok content) := by
  obtain ⟨hlog, hline, rfl, -⟩ := h.of_ok rfl
  have harrived : ∀ {content : String},
      (log.map fun a => (a.named.name, a.content)).lookup n.name = some content →
        ∃ t, f.ending = some (t, .ok content) := by
    intro content hlookup
    obtain ⟨a, ha, hname, rfl⟩ := lookup_arrived hlookup
    obtain ⟨g, t, hg, hend⟩ := mem_timeline_ending_iff.1 (hlog a ha).2
    have hsame : (a.named, Status.waiting g) = (n, .waiting f) :=
      List.inj_on_of_nodup_map hnodup hg hn hname
    cases hsame
    exact ⟨t, hend⟩
  refine ⟨harrived, fun ⟨t, hend⟩ => ?_⟩
  obtain ⟨a, ha, hnamed, hcontent⟩ := hline n _ (mem_timeline_ending_iff.2 ⟨f, t, hn, hend⟩)
  cases hlookup : (log.map fun a => (a.named.name, a.content)).lookup n.name with
  | none => exact absurd (congrArg Named.name hnamed) (lookup_arrived_of_none hlookup a ha)
  | some content' =>
    obtain ⟨t', hend'⟩ := harrived hlookup
    rw [hend] at hend'
    cases hend'
    rfl

/-- **What is collected** from the tasks once all that is awaited has come. -/
lemma collect_arrive {arrived : List (Points × String)}
    (hno : ∀ s ∈ statuses, ∀ abort, s.2 ≠ .failed abort)
    (harrived : ∀ n f, (n, .waiting f) ∈ statuses → ∀ content,
      arrived.lookup n.name = some content ↔ ∃ t, f.ending = some (t, .ok content)) :
    Resolution.collect (statuses.map fun s => (s.1, s.2.stage.arrive)) =
      collect arrived statuses := by
  induction statuses with
  | nil => rfl
  | cons s statuses ih =>
    obtain ⟨n, status⟩ := s
    rw [List.forall_mem_cons] at hno
    have hrest := ih hno.2 fun n f hn => harrived n f (List.mem_cons_of_mem _ hn)
    rw [List.map_cons]
    generalize statuses.map (fun s => (s.1, s.2.stage.arrive)) = tail at hrest
    cases status with
    | failed abort => exact absurd rfl (hno.1 abort)
    | done content =>
      dsimp only [Status.stage, Stage.arrive]
      rw [Resolution.collect, hrest, collect]
    | waiting f =>
      have hlookup := harrived n f List.mem_cons_self
      have hnone : (∀ t content, f.ending ≠ some (t, .ok content)) →
          arrived.lookup n.name = none := by
        intro hend
        cases hcontent : arrived.lookup n.name with
        | none => rfl
        | some content =>
          obtain ⟨t, ht⟩ := (hlookup content).1 hcontent
          exact absurd ht (hend t content)
      dsimp only [Status.stage]
      rw [collect]
      match hend : f.ending with
      | none =>
        rw [hnone (by simp [hend])]
        rfl
      | some (t, .error fault) =>
        rw [hnone (by simp [hend])]
        rfl
      | some (t, .ok content) =>
        rw [(hlookup content).2 ⟨t, hend⟩, Option.map_some, Stage.arrive]
        dsimp only
        rw [Resolution.collect, hrest]

/-! ## Both phases -/

namespace Resolution

/-- After the first failure among tasks that await answers they are given up, and the rest of the
turns do nothing. -/
lemma play_giveUp_failed (c : Config) (follow : Bool) (net : Network) {r : Resolution}
    {abort : CacheAbort} (hfailure : r.failure = some abort)
    (hcalm : ∀ t ∈ r.tasks, CalmStage t.2) (turns : List Turn) :
    ∃ r', r.play c follow net (.giveUp :: turns) = r' ∧ r'.progress = r.progress ∧
      r'.result = .error abort := by
  have hgiveUp : r.turn c follow net .giveUp = r.giveUp := by
    rw [turn, hfailure]
    rfl
  refine ⟨r.giveUp, ?_, rfl, ?_⟩
  · rw [play, List.foldl_cons, hgiveUp]
    exact (idle_giveUp hcalm).play_eq turns
  · rw [result, giveUp, hfailure]

/-- Nothing is given up before there is a failure. -/
lemma turn_giveUp_of_none {r : Resolution} (h : r.failure = none) :
    r.turn c follow net .giveUp = r := by
  rw [turn, h]
  rfl

/-- Tasks that have been started follow the line of what they await. -/
lemma follows_placedLine
    (hfetch : ∀ n f, (n, .waiting f) ∈ statuses → f = Http.fetch follow net n.url) :
    Follows (placedLine statuses) (statuses.map fun s => (s.1, s.2.stage)) where
  own := by
    intro i n stage htask
    rw [List.getElem?_map, Option.map_eq_some_iff] at htask
    obtain ⟨⟨m, status⟩, hs, heq⟩ := htask
    obtain ⟨rfl, rfl⟩ := Prod.mk.inj heq
    refine own_placedLine (fun f hf => hfetch m f ?_) hs
    rw [← hf]
    exact List.mem_of_getElem? hs
  position := by
    intro e he
    obtain ⟨e', he', rfl⟩ := List.mem_map.1 he
    have := (position_of_placedFrom (List.mem_mergeSort.1 he')).2
    rw [List.length_map]
    omega
  calm := by
    intro t ht
    obtain ⟨s, -, rfl⟩ := List.mem_map.1 ht
    exact calm_stage s.2

end Resolution

/-- **A resolution along the prompt schedule is a run in two phases.**

**Proof sketch.** At their start one of the tasks has stopped everything, or all have come to the
stages of their statuses. If one has failed then, the tasks are given up, and the rest of the turns
do nothing. Otherwise the turns that are left follow the line of what is awaited. -/
lemma resolveNamed_runs (c : Config) (follow : Bool) (net : Network) (v : Volume)
    {named : List Named} (hnodup : (named.map Named.name).Nodup) :
    ∃ log changes es r, resolveNamed c follow net (.ofVolume v) named =
        (.quiet (Change.applyAll v changes) changes es, r) ∧
      Runs c follow net v named log changes r (requested es) := by
  obtain ⟨statuses, log, made, es, r, hplay, hstarts, hprogress, hall⟩ :=
    Resolution.play_starts c follow net named [] v [] [] none (by simp)
  have hstart : (Resolution.start (.ofVolume v) named).play c follow net
      (Resolution.startAllTurns c follow net 0 named) = r := hplay
  have haccount := hstarts.account
  rw [List.nil_append, List.nil_append] at hprogress
  -- The rest of the schedule depends on what the start leads to.
  have hrun : ∀ r' after, (r.turn c follow net .giveUp).tasks = after →
      r.play c follow net (.giveUp :: awaitedTurns c follow net after) = r' →
        resolveNamed c follow net (.ofVolume v) named = (r'.progress, r'.result) := by
    rintro r' after rfl rfl
    have hprompt : prompt c follow net (.ofVolume v) named =
        Resolution.startAllTurns c follow net 0 named ++ [.giveUp] ++
          awaitedTurns c follow net ((Resolution.start (.ofVolume v) named).play c follow net
            (Resolution.startAllTurns c follow net 0 named ++ [.giveUp])).tasks := rfl
    rw [resolveNamed, resolveNamedAlong, hprompt]
    rw [Resolution.play_append, Resolution.play_append, hstart]
    rfl
  have hfailed : ∀ {abort : CacheAbort}, r.failure = some abort →
      (∀ t ∈ r.tasks, Resolution.CalmStage t.2) → firstFailure statuses = some abort →
      ∃ log changes es r, resolveNamed c follow net (.ofVolume v) named =
          (.quiet (Change.applyAll v changes) changes es, r) ∧
        Runs c follow net v named log changes r (requested es) := by
    intro abort hfailure hcalm hfirst
    obtain ⟨r', hplay', hprogress', hresult⟩ :=
      Resolution.play_giveUp_failed c follow net hfailure hcalm
        (awaitedTurns c follow net (r.turn c follow net .giveUp).tasks)
    refine ⟨log, made, es, .error abort, ?_, .first hstarts hfirst⟩
    rw [hrun r' _ rfl hplay', hprogress', hresult, hprogress]
  cases hall with
  | @stopped first n abort hstops hfailure hidle =>
    refine hfailed hfailure (fun t ht => ?_) (firstFailure_of_stop hstops)
    rcases hidle t ht with hdropped | ⟨content, hdone⟩
    · rw [hdropped]
      exact Resolution.calm_stage (.failed abort)
    · rw [hdone]
      exact Resolution.calm_stage (.done content)
  | going hgo hfailure htasks =>
    rw [List.nil_append] at htasks
    rw [Option.none_or, ← firstFailure_of_go hgo] at hfailure
    have hfetch : ∀ n f, (n, .waiting f) ∈ statuses → f = Http.fetch follow net n.url :=
      fun n f hn => (haccount.awaited hn).2
    have hfollows := Resolution.follows_placedLine hfetch
    cases hfirst : firstFailure statuses with
    | some abort =>
      refine hfailed (hfailure.trans hfirst) ?_ hfirst
      rw [htasks]
      exact hfollows.calm
    | none =>
      rw [hfirst] at hfailure
      have hno := firstFailure_eq_none_iff.1 hfirst
      have hnames : (statuses.map fun s => s.1.name).Nodup := by
        have hmap : (statuses.map fun s => s.1.name) = (statuses.map Prod.fst).map Named.name := by
          rw [List.map_map]
          rfl
        rwa [hmap, haccount.names_of_ok hno]
      obtain ⟨log', made', es', outcome, r', hplay', hstores, hplayed, hprogress', herror, hok⟩ :=
        Resolution.play_timeline c follow net (placedLine statuses)
          (statuses.map fun s => (s.1, s.2.stage)) (Change.applyAll v made) made es hfollows
      have hcome : r = ⟨.quiet (Change.applyAll v made) made es,
          statuses.map fun s => (s.1, s.2.stage), none⟩ := by
        rw [← hprogress, ← htasks, ← hfailure]
      have hwait : r.turn c follow net .giveUp = r := Resolution.turn_giveUp_of_none hfailure
      have hresolve := hrun r' r.tasks (by rw [hwait]) (by
        rw [Resolution.play, List.foldl_cons, hwait, htasks, awaitedTurns_eq c follow net hfetch,
          hcome]
        exact hplay')
      rw [map_placedLine] at hplayed
      refine ⟨log ++ log', made ++ made', es ++ es', r'.result, ?_, ?_⟩
      · rw [hresolve, hprogress', Change.applyAll_append]
      · rw [requested_append]
        cases outcome with
        | error abort =>
          rw [Resolution.result, herror abort rfl]
          exact .second hstarts hfirst hstores hplayed
        | ok arrived =>
          obtain ⟨hnone, htasks'⟩ := hok arrived rfl
          rw [Resolution.result, hnone, htasks', List.map_map]
          have hcollect := collect_arrive hno fun n f hn content =>
            hplayed.lookup_eq hnames hn content
          have hrun' := Runs.both hstarts hfirst hstores hplayed
          rw [← hcollect] at hrun'
          exact hrun'

end ParseBench.Fixture
