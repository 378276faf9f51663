import ParseBench.Proofs.Fixture.GivenUp

set_option relaxedAutoImplicit false
set_option autoImplicit false

/-!
# Resolutions that fail

The first failure is the result of a resolution, and gives up whatever is still awaited. If
operations on files take no time, then fixtures that fail without being awaited come first, in the
order of the list, and then those that are awaited, in the order of time. A fault that stops
everything at once comes before all others and keeps the rest of the list from being started.

## Main definitions

* `ParseBench.Fixture.DistinctDelays` — no two fetches that are awaited end at the same time.
* `ParseBench.Fixture.Attempted` — which fixtures were attempted to be stored.
* `ParseBench.Fixture.FirstFailure` — the failure that a resolution ends with.
* `ParseBench.Fixture.FailsPromptly` — what there is to say of it if operations on files take no
  time.

## Main results

* `ParseBench.Fixture.Phases.firstFailure` — a resolution that fails ends with its first failure.
* `ParseBench.Fixture.resolve_first_failure` — what such a resolution ends with and leaves, along
  any schedule and along the prompt one.
-/

namespace ParseBench.Fixture

open ParseBench.Bench (Config)
open ParseBench.Files
open ParseBench.Http (FetchFault Network)
open ParseBench.Text (Points)

/-- No two fetches that are awaited end at the same time. -/
def DistinctDelays (follow : Bool) (net : Network) (urls : List Points) : Prop :=
  ∀ url ∈ urls, ∀ url' ∈ urls, ∀ t r r', 0 < t → (Http.fetch follow net url).ending = some (t, r) →
    (Http.fetch follow net url').ending = some (t, r') → url = url'

/-- The fixtures that were attempted to be stored are those of a list whose texts arrive in time. -/
def Attempted (c : Config) (follow : Bool) (net : Network) (v : Volume) (log : List Attempt)
    (started : List Named) (t : Nat) : Prop :=
  ∀ m content, (∃ a ∈ log, a.named = m ∧ a.content = content) ↔
    m ∈ started ∧ ∃ t' ≤ t, Arrives c follow net v m t' content

/-- The failure that a resolution ends with, and what was attempted until then. -/
inductive FirstFailure (c : Config) (follow : Bool) (net : Network) (v : Volume)
    (named : List Named) (log : List Attempt) : CacheAbort → Prop where
  /-- A failure that is not awaited stops everything, so that the rest is not started. -/
  | interrupted {before after : List Named} {n : Named} {abort : CacheAbort}
    (hnamed : named = before ++ n :: after) (hfails : Fails c follow net v log n 0 abort)
    (hstops : abort.stopsAtOnce = true)
    (hbefore : ∀ m ∈ before, ∀ abort', Fails c follow net v log m 0 abort' →
      abort'.stopsAtOnce = false)
    (hlog : Attempted c follow net v log before 0) : FirstFailure c follow net v named log abort
  /-- Of the failures that are not awaited, none of which stops everything, it is the first of the
  list. -/
  | atOnce {before after : List Named} {n : Named} {abort : CacheAbort}
    (hnamed : named = before ++ n :: after) (hfails : Fails c follow net v log n 0 abort)
    (hbefore : ∀ m ∈ before, ∀ abort', ¬ Fails c follow net v log m 0 abort')
    (hgo : ∀ m ∈ named, ∀ abort', Fails c follow net v log m 0 abort' → abort'.stopsAtOnce = false)
    (hlog : Attempted c follow net v log named 0) : FirstFailure c follow net v named log abort
  /-- Every failure is awaited, and it is the first of them in time. -/
  | delayed {n : Named} {t : Nat} {abort : CacheAbort} (hn : n ∈ named) (ht : 0 < t)
    (hfails : Fails c follow net v log n t abort)
    (hfirst : ∀ m ∈ named, ∀ t' abort', Fails c follow net v log m t' abort' →
      m = n ∧ t' = t ∨ t < t')
    (hstored : ∀ m ∈ named, ∀ t' content, t' < t → Arrives c follow net v m t' content →
      ∃ a ∈ log, a.named = m ∧ a.content = content ∧ a.result = .ok ())
    (hlog : Attempted c follow net v log named t) : FirstFailure c follow net v named log abort

variable {c : Config} {follow : Bool} {net : Network} {v : Volume} {named : List Named}

/-! ## Failures are determined -/

/-- What cannot be stored does not stop everything. -/
lemma CacheAbort.stopsAtOnce_ofStore (entry : Path) (e : StoreFault) :
    (CacheAbort.ofStore entry e).stopsAtOnce = false := by
  rw [CacheAbort.ofStore.eq_def]
  split <;> rfl

/-- An entry that cannot be read does not stop everything. -/
lemma stopsAtOnce_of_look {name : Points} {abort : CacheAbort} (h : look c v name = .fault abort) :
    abort.stopsAtOnce = false := by
  rw [look] at h
  split at h
  · cases h
    rfl
  · split at h
    · split at h
      · cases h
      · cases h
        rfl
    · cases h
      rfl
    · cases h

/-- A fixture whose failure stops everything has no text. -/
lemma Fails.not_arrives {log : List Attempt} {n : Named} {t t' : Nat} {abort : CacheAbort}
    {content : String} (h : Fails c follow net v log n t abort)
    (hstops : abort.stopsAtOnce = true) :
    ¬ Arrives c follow net v n t' content := by
  intro harrives
  cases h with
  | entry hlook => simp [stopsAtOnce_of_look hlook] at hstops
  | fetch hmiss hend => simp [harrives.ending] at hend
  | store ha hn h he => simp [CacheAbort.stopsAtOnce_ofStore] at hstops

section Determined

variable {log : List Attempt} {statuses : List (Named × Status)} {asked : List String} {m : Named}
  {status : Status} {abort : CacheAbort}

/-- **Which fixtures fail without being awaited**: those with the status of a failure. -/
lemma Started.fails_iff (h : Started c follow net v named log statuses asked)
    (hnodup : (log.map Attempt.named).Nodup) (hs : (m, status) ∈ statuses) :
    Fails c follow net v log m 0 abort ↔ status = .failed abort := by
  refine ⟨fun hfails => ?_, fun hstatus => h.failed (hstatus ▸ hs)⟩
  obtain ⟨now, asked', hbegan, hnow⟩ := h.began hs
  dsimp only at hbegan
  cases hbegan with
  | hit hlook =>
    cases hfails with
    | entry hfault => simp [hlook] at hfault
    | fetch hmiss _ => simp [hlook] at hmiss
    | store _ _ harrives _ => simp [harrives.missing] at hlook
  | fault hlook =>
    cases hfails with
    | entry hfault => simpa [hlook] using hfault
    | fetch hmiss _ => simp [hlook] at hmiss
    | store _ _ harrives _ => simp [harrives.missing] at hlook
  | lost hlook hend =>
    cases hfails with
    | entry hfault => simp [hlook] at hfault
    | fetch _ hend' =>
      rw [hend] at hend'
      cases hend'
      rfl
    | store _ _ harrives _ => simp [harrives.ending] at hend
  | @tried a hlook ha hend =>
    cases hfails with
    | entry hfault => simp [hlook] at hfault
    | fetch _ hend' => simp [hend] at hend'
    | @store b _ e hb hn _ he =>
      obtain rfl := List.inj_on_of_nodup_map hnodup (hnow a (by simp)) hb (ha.trans hn.symm)
      rw [Attempt.outcome, he]
      rfl
  | waits hlook hend =>
    cases hfails with
    | entry hfault => simp [hlook] at hfault
    | fetch _ hend' => exact absurd hend' (hend _)
    | store _ _ harrives _ => exact absurd harrives.ending (hend _)

/-- A text that arrives without being awaited is attempted to be stored. -/
lemma Started.arrives (h : Started c follow net v named log statuses asked)
    (hs : (m, status) ∈ statuses) {content : String}
    (harrives : Arrives c follow net v m 0 content) :
    ∃ a ∈ log, a.named = m ∧ a.content = content := by
  obtain ⟨now, asked', hbegan, hnow⟩ := h.began hs
  dsimp only at hbegan
  cases hbegan with
  | hit hlook => simp [harrives.missing] at hlook
  | fault hlook => simp [harrives.missing] at hlook
  | lost hlook hend => simp [harrives.ending] at hend
  | @tried a hlook ha hend =>
    refine ⟨a, hnow a (by simp), ha, ?_⟩
    rw [harrives.ending] at hend
    simpa using hend.symm
  | waits hlook hend => exact absurd harrives.ending (hend _)

/-- A missing fixture whose fetch does not end at once is awaited. -/
lemma Started.awaits (h : Started c follow net v named log statuses asked)
    (hs : (m, status) ∈ statuses) {t : Nat} {r : Except FetchFault String} (ht : 0 < t)
    (hmiss : look c v m.name = .miss) (hend : (Http.fetch follow net m.url).ending = some (t, r)) :
    status = .waiting (Http.fetch follow net m.url) := by
  have hlater : ∀ r', (Http.fetch follow net m.url).ending ≠ some (0, r') := by
    intro r' h
    rw [hend] at h
    simp only [Option.some.injEq, Prod.mk.injEq] at h
    omega
  obtain ⟨now, asked', hbegan, hnow⟩ := h.began hs
  dsimp only at hbegan
  cases hbegan with
  | hit hlook => simp [hmiss] at hlook
  | fault hlook => simp [hmiss] at hlook
  | lost hlook hend => exact absurd hend (hlater _)
  | tried hlook ha hend => exact absurd hend (hlater _)
  | waits hlook hend => rfl

/-- The attempts of the first phase are those for the texts that need not be awaited. -/
lemma Started.attempted (h : Started c follow net v named log statuses asked) :
    Attempted c follow net v log (statuses.map Prod.fst) 0 := by
  intro m content
  constructor
  · rintro ⟨a, ha, rfl, rfl⟩
    obtain ⟨hmiss, hend, hs⟩ := h.attempt ha
    exact ⟨List.mem_map.2 ⟨_, hs, rfl⟩, 0, le_rfl, hmiss, hend⟩
  · rintro ⟨hm, t, ht, harrives⟩
    obtain ⟨⟨m, status⟩, hs, rfl⟩ := List.mem_map.1 hm
    obtain rfl : t = 0 := by omega
    exact h.arrives hs harrives

end Determined

/-! ## The first failure -/

section First

variable {log log' : List Attempt} {statuses : List (Named × Status)} {asked asked' : List String}
  {abort : CacheAbort}

/-- **Failures that are not awaited.**

**Proof sketch.** Either the last fixture that was started stops everything, or all were started,
and the first with the status of a failure tells the reason. In both cases a status is a failure
exactly if its fixture fails without being awaited (`Started.fails_iff`). -/
lemma Started.firstFailure (h : Started c follow net v named log statuses asked)
    (hnodup : (log.map Attempt.named).Nodup) (hfailure : firstFailure statuses = some abort) :
    FirstFailure c follow net v named log abort := by
  have hattempted := h.attempted
  rcases firstFailure_eq_some hfailure with ⟨before, n, hs, hstops⟩ | ⟨hfirst, hlast⟩
  · -- the last fixture that was started has stopped everything
    have hfails : Fails c follow net v log n 0 abort := h.failed (by rw [hs]; simp)
    obtain ⟨after, hafter⟩ := h.names
    rw [hs, List.map_append, List.append_assoc] at hafter
    refine .interrupted hafter.symm hfails hstops
      (fun m hm abort' hfails' => ?_) fun m content => ?_
    · obtain ⟨⟨m, status⟩, hmem, rfl⟩ := List.mem_map.1 hm
      have hstarted : (m, status) ∈ statuses := by rw [hs]; simp [hmem]
      have hstatus := (h.fails_iff hnodup hstarted).1 hfails'
      obtain ⟨first, rest, rfl⟩ := List.append_of_mem hmem
      have hsplit : statuses = first ++ (m, status) :: (rest ++ [(n, .failed abort)]) := by
        rw [hs, List.append_assoc, List.cons_append]
      have hgo := h.go_of_append hsplit (by simp)
      rwa [hstatus] at hgo
    · rw [hattempted m content, hs, List.map_append, List.mem_append]
      constructor
      · rintro ⟨hm | hm, t, ht, harrives⟩
        · exact ⟨hm, t, ht, harrives⟩
        · obtain rfl : m = n := by simpa using hm
          exact absurd harrives (hfails.not_arrives hstops)
      · rintro ⟨hm, harrives⟩
        exact ⟨.inl hm, harrives⟩
  · have hgo := h.go hlast
    have hnames := h.names_eq hgo
    rw [hnames] at hattempted
    obtain ⟨before, n, after, hs, hbefore⟩ := firstFailed_eq_some hfirst
    have hnamed : named = before.map Prod.fst ++ n :: after.map Prod.fst := by
      rw [← hnames, hs, List.map_append, List.map_cons]
    refine .atOnce hnamed (h.failed (by rw [hs]; simp)) (fun m hm abort' hfails => ?_)
      (fun m hm abort' hfails => ?_) hattempted
    · obtain ⟨⟨m, status⟩, hmem, rfl⟩ := List.mem_map.1 hm
      have hstarted : (m, status) ∈ statuses := by rw [hs]; simp [hmem]
      exact hbefore _ hmem abort' ((h.fails_iff hnodup hstarted).1 hfails)
    · rw [← hnames] at hm
      obtain ⟨⟨m, status⟩, hmem, rfl⟩ := List.mem_map.1 hm
      have hstatus := (h.fails_iff hnodup hmem).1 hfails
      have hgo := hgo _ hmem
      rwa [hstatus] at hgo

/-- Two fixtures that are awaited for the same time are the same. -/
lemma DistinctDelays.eq (h : DistinctDelays follow net (named.map Named.url))
    (haccepted : Accepted named)
    {m n : Named} (hm : m ∈ named) (hn : n ∈ named) {t : Nat} {r r' : Except FetchFault String}
    (ht : 0 < t) (hend : (Http.fetch follow net m.url).ending = some (t, r))
    (hend' : (Http.fetch follow net n.url).ending = some (t, r')) : m = n := by
  have hurl := h m.url (List.mem_map_of_mem hm) n.url (List.mem_map_of_mem hn) t r r' ht hend hend'
  refine haccepted.eq_of_name hm hn ?_
  have hname := haccepted.identifier m hm
  rw [hurl, haccepted.identifier n hn] at hname
  simpa using hname.symm

/-- Where the ending of a fetch is on the timeline, as seen from another. -/
lemma schedule_cases (haccepted : Accepted named)
    (hdistinct : DistinctDelays follow net (named.map Named.url))
    (h : Started c follow net v named log statuses asked) {before after : List (Nat × Moment)}
    {n m : Named} {t t' : Nat} {result r : Except FetchFault String}
    (hsplit : schedule statuses = before ++ (t, .ending n result) :: after)
    (hm : (m, .waiting (Http.fetch follow net m.url)) ∈ statuses)
    (hend : (Http.fetch follow net m.url).ending = some (t', r)) :
    (.ending m r ∈ before.map Prod.snd ∧ t' ≤ t) ∨ (m = n ∧ t' = t ∧ r = result) ∨ t < t' := by
  have hmem : (t', .ending m r) ∈ schedule statuses := mem_schedule_ending_iff.2 ⟨_, hm, hend⟩
  have hsorted := pairwise_schedule statuses
  rw [hsplit, List.pairwise_append, List.pairwise_cons] at hsorted
  obtain ⟨-, ⟨hafter, -⟩, hbefore⟩ := hsorted
  rw [hsplit, List.mem_append, List.mem_cons] at hmem
  rcases hmem with hmem | hmem | hmem
  · exact .inl ⟨List.mem_map.2 ⟨_, hmem, rfl⟩, hbefore _ hmem _ List.mem_cons_self⟩
  · cases hmem
    exact .inr (.inl ⟨rfl, rfl, rfl⟩)
  · have hle : t ≤ t' := hafter _ hmem
    rcases hle.lt_or_eq with hlt | rfl
    · exact .inr (.inr hlt)
    · have hn : (t, .ending n result) ∈ schedule statuses := by rw [hsplit]; simp
      obtain ⟨f, hf, hend'⟩ := mem_schedule_ending_iff.1 hn
      obtain ⟨rfl, -, hlater⟩ := h.waiting hf
      have ht : 0 < t := Nat.pos_of_ne_zero fun h0 => hlater _ (h0 ▸ hend')
      obtain rfl := hdistinct.eq haccepted (h.mem_of_status hm) (h.mem_of_status hf) ht hend hend'
      rw [hend] at hend'
      cases hend'
      exact .inr (.inl ⟨rfl, rfl, rfl⟩)

/-- What ends before a point of the timeline ends no later. -/
lemma ending_of_before (h : Started c follow net v named log statuses asked)
    {before after : List (Nat × Moment)} {t : Nat} {moment : Moment}
    (hsplit : schedule statuses = before ++ (t, moment) :: after) {m : Named}
    {r : Except FetchFault String} (hm : .ending m r ∈ before.map Prod.snd) :
    ∃ t' ≤ t, (Http.fetch follow net m.url).ending = some (t', r) := by
  obtain ⟨⟨t', moment'⟩, hmem, rfl⟩ := List.mem_map.1 hm
  have hsorted := pairwise_schedule statuses
  rw [hsplit, List.pairwise_append] at hsorted
  have hschedule : (t', .ending m r) ∈ schedule statuses := by rw [hsplit]; simp [hmem]
  obtain ⟨f, hf, hend⟩ := mem_schedule_ending_iff.1 hschedule
  obtain ⟨rfl, -⟩ := h.waiting hf
  exact ⟨t', hsorted.2.2 _ hmem _ List.mem_cons_self, hend⟩

/-- A failure at a point of the timeline, and where the other endings are as seen from there: `log`
are the attempts of the first phase and `log'` those until the failure. -/
structure LateFailure (c : Config) (follow : Bool) (net : Network) (v : Volume) (named : List Named)
    (log log' : List Attempt) (before : List Moment) (n : Named) (t : Nat)
    (result : Except FetchFault String) (abort : CacheAbort) : Prop where
  point : Played.FailsAt c log' abort before n result
  ending : (Http.fetch follow net n.url).ending = some (t, result)
  quiet : ∀ m ∈ named, ∀ abort', ¬ Fails c follow net v log m 0 abort'
  attempted : Attempted c follow net v log named 0
  awaited : ∀ a ∈ log', a.named ∈ named ∧ look c v a.named.name = .miss
  endings : ∀ m r, .ending m r ∈ before →
    ∃ t' ≤ t, (Http.fetch follow net m.url).ending = some (t', r)
  placed : ∀ m ∈ named, ∀ t' r, 0 < t' → look c v m.name = .miss →
    (Http.fetch follow net m.url).ending = some (t', r) →
    (.ending m r ∈ before ∧ t' ≤ t) ∨ (m = n ∧ t' = t ∧ r = result) ∨ t < t'

/-- Where the second phase fails, the endings are placed as the times say. -/
lemma Played.lateFailure (hc : Compatible c named)
    (hdistinct : DistinctDelays follow net (named.map Named.url))
    (h : Started c follow net v named log statuses asked) (hfailure : firstFailure statuses = none)
    (hplayed : Played c (timeline statuses) log' (.error abort) asked') :
    ∃ before n t result, n ∈ named ∧ 0 < t ∧ Fails c follow net v log' n t abort ∧
      LateFailure c follow net v named log log' before n t result abort := by
  have hno := firstFailure_eq_none_iff.1 hfailure
  have hnames := h.names_of_not_failed hno
  have hnodup : (log.map Attempt.named).Nodup := (hc.accepted.nodup.of_map _).sublist h.sublist
  have hstatus : ∀ {m : Named}, m ∈ named → ∃ status, (m, status) ∈ statuses := by
    intro m hm
    rw [← hnames] at hm
    obtain ⟨⟨m, status⟩, hs, rfl⟩ := List.mem_map.1 hm
    exact ⟨status, hs⟩
  obtain ⟨before, n, t, result, after, hsplit, hat, ht, hn, hfails⟩ := hplayed.fails h
  refine ⟨before.map Prod.snd, n, t, result, h.mem_of_status hn, ht, hfails, hat, ?_, ?_,
    hnames ▸ h.attempted, ?_,
    fun m r hm => ending_of_before h hsplit hm, ?_⟩
  · have hmem : (t, .ending n result) ∈ schedule statuses := by rw [hsplit]; simp
    obtain ⟨f, hf, hend⟩ := mem_schedule_ending_iff.1 hmem
    rwa [← (h.waiting hf).1]
  · intro m hm abort' hfails'
    obtain ⟨status, hs⟩ := hstatus hm
    exact hno _ hs _ ((h.fails_iff hnodup hs).1 hfails')
  · intro a ha
    obtain ⟨hs, hmiss, -⟩ := hplayed.waiting h ha
    exact ⟨h.mem_of_status hs, hmiss⟩
  · intro m hm t' r ht' hmiss hend
    obtain ⟨status, hs⟩ := hstatus hm
    obtain rfl := h.awaits hs ht' hmiss hend
    exact schedule_cases hc.accepted hdistinct h hsplit hs hend

namespace LateFailure

variable {before : List Moment} {n : Named} {t : Nat} {result : Except FetchFault String}

/-- What arrives before the failure is stored. -/
lemma stored (h : LateFailure c follow net v named log log' before n t result abort) {m : Named}
    (hm : m ∈ named) {t' : Nat} {content : String} (hlt : t' < t)
    (harrives : Arrives c follow net v m t' content) :
    ∃ a ∈ log ++ log', a.named = m ∧ a.content = content ∧ a.result = .ok () := by
  rcases Nat.eq_zero_or_pos t' with rfl | hpos
  · obtain ⟨a, ha, rfl, rfl⟩ := (h.attempted m content).2 ⟨hm, 0, le_rfl, harrives⟩
    refine ⟨a, by simp [ha], rfl, rfl, ?_⟩
    cases hresult : a.result with
    | ok _ => rfl
    | error e => exact absurd (.store ha rfl harrives hresult) (h.quiet _ hm _)
  · rcases h.placed m hm t' _ hpos harrives.missing harrives.ending with
      ⟨hbefore, -⟩ | ⟨-, rfl, -⟩ | hgt
    · obtain ⟨a, ha, hname, hcontent, hok⟩ := h.point.stored m _ hbefore
      exact ⟨a, by simp [ha], hname, by simpa using hcontent.symm, hok⟩
    · omega
    · omega

/-- What fails otherwise fails later. -/
lemma first (h : LateFailure c follow net v named log log' before n t result abort) {m : Named}
    (hm : m ∈ named) {t' : Nat} {abort' : CacheAbort}
    (hfails : Fails c follow net v (log ++ log') m t' abort') : m = n ∧ t' = t ∨ t < t' := by
  cases hfails with
  | entry hlook => exact absurd (.entry hlook) (h.quiet m hm _)
  | fetch hmiss hend =>
    rcases Nat.eq_zero_or_pos t' with rfl | hpos
    · exact absurd (.fetch hmiss hend) (h.quiet m hm _)
    · rcases h.placed m hm t' _ hpos hmiss hend with ⟨hbefore, -⟩ | ⟨rfl, rfl, -⟩ | hgt
      · obtain ⟨a, -, -, hcontent, -⟩ := h.point.stored m _ hbefore
        cases hcontent
      · exact .inl ⟨rfl, rfl⟩
      · exact .inr hgt
  | @store a _ e ha hname harrives he =>
    rcases List.mem_append.1 ha with ha | ha
    · -- an attempt of the first phase did not wait
      obtain ⟨-, t'', ht'', harrives'⟩ := (h.attempted a.named a.content).1 ⟨a, ha, rfl, rfl⟩
      obtain rfl : t'' = 0 := by omega
      have hend := harrives'.ending
      rw [hname, harrives.ending] at hend
      cases hend
      exact absurd (.store ha hname harrives he) (h.quiet m hm _)
    · rcases h.point.attempts a ha with ⟨hok, -⟩ | ⟨rfl, -, -⟩
      · rw [hok] at he
        cases he
      · have hend := harrives.ending
        rw [← hname, h.ending] at hend
        cases hend
        exact .inl ⟨hname.symm, rfl⟩

/-- What was attempted until the failure has arrived until then. -/
lemma attempted_until (h : LateFailure c follow net v named log log' before n t result abort)
    (ht : 0 < t) : Attempted c follow net v (log ++ log') named t := by
  intro m content
  constructor
  · rintro ⟨a, ha, rfl, rfl⟩
    rcases List.mem_append.1 ha with ha | ha
    · obtain ⟨hm, t', hle, harrives⟩ := (h.attempted a.named a.content).1 ⟨a, ha, rfl, rfl⟩
      exact ⟨hm, t', by omega, harrives⟩
    · obtain ⟨hm, hmiss⟩ := h.awaited a ha
      refine ⟨hm, ?_⟩
      rcases h.point.attempts a ha with ⟨-, hbefore⟩ | ⟨rfl, rfl, -⟩
      · obtain ⟨t', hle, hend⟩ := h.endings _ _ hbefore
        exact ⟨t', hle, hmiss, hend⟩
      · exact ⟨t, le_rfl, hmiss, h.ending⟩
  · rintro ⟨hm, t', hle, harrives⟩
    rcases hle.lt_or_eq with hlt | rfl
    · obtain ⟨a, ha, hname, hcontent, -⟩ := h.stored hm hlt harrives
      exact ⟨a, ha, hname, hcontent⟩
    · rcases h.placed m hm t' _ ht harrives.missing harrives.ending with
        ⟨hbefore, -⟩ | ⟨rfl, -, rfl⟩ | hgt
      · obtain ⟨a, ha, hname, hcontent, -⟩ := h.point.stored m _ hbefore
        exact ⟨a, by simp [ha], hname, by simpa using hcontent.symm⟩
      · rcases h.point.reason with ⟨f, hlost, -⟩ | ⟨a, ha, e, hname, hcontent, -⟩
        · cases hlost
        · exact ⟨a, by simp [ha], hname, by simpa using hcontent.symm⟩
      · omega

end LateFailure

/-- **A resolution that fails ends with its first failure.** -/
lemma Phases.firstFailure {r : Except CacheAbort (List Bench.Fixture)} (hc : Compatible c named)
    (hdistinct : DistinctDelays follow net (named.map Named.url))
    (h : Phases c follow net v named log r asked) (hr : r = .error abort)
    (hraises : abort ≠ .endless) :
    FirstFailure c follow net v named log abort := by
  have htried := h.tried hc
  cases h with
  | first hstarted hfailure =>
    cases hr
    exact hstarted.firstFailure htried.nodup hfailure
  | second hstarted hfailure hplayed =>
    cases hr
    obtain ⟨before, n, t, result, hn, ht, hfails, hlate⟩ :=
      hplayed.lateFailure hc hdistinct hstarted hfailure
    exact .delayed hn ht (hfails.mono fun a ha => by simp [ha])
      (fun m hm t' abort' => hlate.first hm)
      (fun m hm t' content => hlate.stored hm) (hlate.attempted_until ht)
  | @both _ _ _ _ _ arrived hstarted hfailure hplayed =>
    rcases collect_cases arrived (firstFailure_eq_none_iff.1 hfailure) with ⟨fs, hfs, -⟩ | ⟨hend, -⟩
    · rw [hfs] at hr
      cases hr
    · rw [hend] at hr
      cases hr
      exact absurd rfl hraises

end First

/-! ## Lists of URLs -/

/-- Whether there is a failure, with a reason of a kind. -/
def failsWith {α : Type} (kind : CacheAbort → Bool) : Except CacheAbort α → Bool
  | .error abort => kind abort
  | .ok _ => false

/-- The reason of a failure, from its kind. -/
lemma exists_abort {kind : CacheAbort → Bool}
    {run : Progress × Except CacheAbort (List Bench.Fixture)} (h : failsWith kind run.2 = true) :
    ∃ p abort, run = (p, .error abort) ∧ kind abort = true := by
  obtain ⟨p, r⟩ := run
  cases r with
  | error abort => exact ⟨p, abort, rfl, h⟩
  | ok fs => cases h

/-- There is nothing to be distinct where nothing is awaited that ever ends. -/
lemma distinctDelays_of_times {urls : List Points}
    (h : ∀ url ∈ urls, (Http.fetch follow net url).ending.map Prod.fst ∈ [none, some 0]) :
    DistinctDelays follow net urls := by
  intro url hurl url' hurl' t r r' ht hend hend'
  have htime := h url hurl
  rw [hend, Option.map_some] at htime
  simp only [List.mem_cons, Option.some.injEq, reduceCtorEq, List.not_mem_nil, or_false,
    false_or] at htime
  omega

/-- What there is to say of a resolution along the prompt schedule that fails: it ends with its
first failure, all that was stored until then holds the complete text, and every other entry holds
what it held before. -/
structure FailsPromptly (c : Config) (follow : Bool) (net : Network) (v : Volume)
    (named : List Named) (abort : CacheAbort) (p : Progress) (log : List Attempt) : Prop where
  volume : p.volume = Change.applyAll v p.changes
  stores : Stores c v log p.changes
  first : FirstFailure c follow net v named log abort
  stored : ∀ a ∈ log, a.result = .ok () →
    content? c p.volume a.named.name = some (Text.Utf8.encode a.content)
  kept : ∀ n ∈ named, (∀ a ∈ log, a.named = n → a.result ≠ .ok ()) → Kept c v p.volume n

/-- **Resolutions that fail.** If a list of URLs was accepted and its resolution fails along any
schedule, then it ends with the first failure along that schedule, unless a later one stops
everything. What is done holds the complete text, what had not come to be stored when the tasks were
given up holds what it held before, and what was being stored then is one or the other, as its
worker ends. If operations on files take no time, the first failure is the first of the list that is
not awaited, or else the first in time, and all that was stored until then holds the complete text,
and every other entry what it held before. -/
theorem resolve_first_failure {urls : List Points} (hv : v.WellFormed)
    (hdots : ".." ∉ c.cache.names) (hhidden : Unhidden urls) (hcheck : checkUrls urls = .ok named) :
    (∀ turns p abort, resolveAlong c follow net turns (.ofVolume v) urls = (p, .error abort) →
      abort ≠ .endless → FailsAlong c follow net v named turns abort p.volume) ∧
    (DistinctDelays follow net urls → ∀ p abort,
      resolve c follow net (.ofVolume v) urls = (p, .error abort) → abort ≠ .endless →
        ∃ log, FailsPromptly c follow net v named abort p log) := by
  have hc := compatible_of_checkUrls hdots hcheck hhidden
  refine ⟨fun turns p abort h hraises => ?_, fun hdistinct p abort h hraises => ?_⟩
  · rw [resolveAlong_of_checkUrls hcheck] at h
    exact failsAlong hc hv h hraises
  · rw [resolve_of_checkUrls hcheck] at h
    obtain ⟨rfl, -⟩ := checkUrls_eq_ok_iff.1 hcheck
    obtain ⟨log, hvolume, hstores, htried, hphases⟩ := stores_of_resolveNamed hc hv h
    refine ⟨log, hvolume, hstores, hphases.firstFailure hc hdistinct rfl hraises, ?_, ?_⟩
    · intro a ha hok
      rw [hvolume]
      exact hstores.content?_stored hc hv htried.for_named htried.nodup ha hok
    · intro n hn hnone
      rw [hvolume]
      exact hstores.content?_untouched hc hv htried.for_named hn hnone (Stopped.all v p.changes)

/-- A network that gives a text for `b`, refuses `c`, and never answers otherwise. -/
def refusingNetwork : Network := fun url =>
  if url = "http://h/b" then ⟨.after 0, .ok ⟨200, [104, 105], none, none⟩⟩
  else if url = "http://h/c" then ⟨.after 0, .ok ⟨404, [], none, none⟩⟩
  else ⟨.never, .ok ⟨200, [], none, none⟩⟩

/-- A schedule along which `c` fails while `b` is being stored, and the worker of `b` goes on when
the tasks have been given up. -/
def overtaken : List Turn :=
  turnsOf 0 2 ++ List.replicate 7 (.task 1 (some 1)) ++ turnsOf 2 4 ++ [.giveUp] ++ turnsOf 1 3

/-- Beside a fixture that is there, one is stored and one is refused. The entry of the first comes
into place although its task has been given up. -/
theorem resolve_first_failure_refused :
    (∃ p abort, resolveAlong sampleConfig false refusingNetwork overtaken (.ofVolume sampleVolume)
        sampleUrls = (p, .error abort) ∧
      FailsAlong sampleConfig false refusingNetwork sampleVolume sampleNamed overtaken abort p.volume ∧
      content? sampleConfig sampleVolume (.ofString "b") = none ∧
      content? sampleConfig p.volume (.ofString "b") = some (Text.Utf8.encode "hi")) ∧
    ∃ p abort log, resolve sampleConfig false refusingNetwork (.ofVolume sampleVolume) sampleUrls =
        (p, .error abort) ∧
      FailsPromptly sampleConfig false refusingNetwork sampleVolume sampleNamed abort p log := by
  have hdots : ".." ∉ sampleConfig.cache.names := by decide
  obtain ⟨halong, hprompt⟩ := @resolve_first_failure sampleConfig false refusingNetwork sampleVolume
    sampleNamed sampleUrls sampleVolume_wellFormed hdots unhidden_sampleUrls checkUrls_sampleUrls
  have raises : ∀ {abort : CacheAbort}, (abort matches .fetch _ _) = true → abort ≠ .endless := by
    rintro abort hkind rfl
    cases hkind
  constructor
  · have hfetch : failsWith (fun abort => abort matches .fetch _ _) (resolveAlong sampleConfig false
        refusingNetwork overtaken (.ofVolume sampleVolume) sampleUrls).2 = true := by
      decide +kernel
    have hbefore : content? sampleConfig sampleVolume (.ofString "b") = none := by decide +kernel
    have hafter : content? sampleConfig (resolveAlong sampleConfig false refusingNetwork overtaken
        (.ofVolume sampleVolume) sampleUrls).1.volume (.ofString "b") =
          some (Text.Utf8.encode "hi") := by
      decide +kernel
    obtain ⟨p, abort, hrun, hkind⟩ := exists_abort hfetch
    rw [hrun] at hafter
    exact ⟨p, abort, hrun, halong _ _ _ hrun (raises hkind), hbefore, hafter⟩
  · have hfetch : failsWith (fun abort => abort matches .fetch _ _)
        (resolve sampleConfig false refusingNetwork (.ofVolume sampleVolume) sampleUrls).2 =
          true := by
      decide +kernel
    have htimes : ∀ url ∈ sampleUrls,
        (Http.fetch false refusingNetwork url).ending.map Prod.fst ∈ [none, some 0] := by
      decide +kernel
    obtain ⟨p, abort, hrun, hkind⟩ := exists_abort hfetch
    obtain ⟨log, hfails⟩ := hprompt (distinctDelays_of_times htimes) p abort hrun (raises hkind)
    exact ⟨p, abort, log, hrun, hfails⟩

/-- A network that is interrupted by the request for `c`, and refuses all others at once. -/
def interruptedNetwork : Network := fun url =>
  if url = "http://h/c" then ⟨.after 0, .error (.foreign ⟨"KeyboardInterrupt", []⟩)⟩
  else ⟨.after 0, .ok ⟨404, [], none, none⟩⟩

/-- The first fixture of a list that fails without being awaited is not always the one that a
resolution ends with: here the first is found and the second is refused, but the third stops
everything. -/
theorem resolve_interrupted :
    Unhidden sampleUrls ∧ checkUrls sampleUrls = .ok sampleNamed ∧
    DistinctDelays false interruptedNetwork sampleUrls ∧
    look sampleConfig sampleVolume (.ofString "a") = .hit "x" ∧
    ∃ p abort, resolve sampleConfig false interruptedNetwork (.ofVolume sampleVolume) sampleUrls =
        (p, .error abort) ∧ abort ≠ .endless ∧
      ∃ abort', abort' ≠ abort ∧ ∀ log, Fails sampleConfig false interruptedNetwork sampleVolume log
        ⟨.ofString "http://h/b", .ofString "b"⟩ 0 abort' := by
  have htimes : ∀ url ∈ sampleUrls,
      (Http.fetch false interruptedNetwork url).ending.map Prod.fst ∈ [none, some 0] := by
    decide +kernel
  have hfound : content? sampleConfig sampleVolume (.ofString "a") =
    some (Text.Utf8.encode "x") := by
    decide +kernel
  have hlook : (look sampleConfig sampleVolume (.ofString "b")).isMiss = true := by decide +kernel
  have hstops : failsWith CacheAbort.stopsAtOnce
      (resolve sampleConfig false interruptedNetwork (.ofVolume sampleVolume) sampleUrls).2 =
        true := by
    decide +kernel
  have hrefused :
    ((Http.fetch false interruptedNetwork (.ofString "http://h/b")).ending.any fun e =>
      e.1 == 0 && failsWith (fun abort => !abort.stopsAtOnce)
        (e.2.mapError (.ofFetch (.ofString "http://h/b")))) = true := by
    decide +kernel
  obtain ⟨p, abort, hrun, hkind⟩ := exists_abort hstops
  have hmiss : look sampleConfig sampleVolume (.ofString "b") = .miss := by
    revert hlook
    cases look sampleConfig sampleVolume (.ofString "b") <;> simp [Look.isMiss]
  refine ⟨unhidden_sampleUrls, checkUrls_sampleUrls, distinctDelays_of_times htimes,
    look_of_readEntry (content?_eq_some_iff.1 hfound), p, abort, hrun, ?_, ?_⟩
  · rintro rfl
    cases hkind
  · obtain ⟨⟨t, r⟩, hend, h⟩ := (Option.any_eq_true _ _).1 hrefused
    rw [Bool.and_eq_true, beq_iff_eq] at h
    obtain ⟨rfl, hgo⟩ := h
    cases r with
    | ok content => cases hgo
    | error fault =>
      refine ⟨_, ?_, fun log => .fetch hmiss hend⟩
      rintro rfl
      rw [Except.mapError, failsWith, hkind] at hgo
      cases hgo

end ParseBench.Fixture
