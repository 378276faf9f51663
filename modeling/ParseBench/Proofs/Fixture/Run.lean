import ParseBench.Fixture.Resolution
import ParseBench.Proofs.Fixture.Attempts

set_option relaxedAutoImplicit false
set_option autoImplicit false

/-!
# Runs of a resolution

If operations on files take no time, a resolution first starts all fixtures, in order, and then
follows the timeline of the fetches that are awaited. All that it does to the volume are attempts to
store fixtures. The first phase is described here also in terms of the volume before it, since no
attempt changes what is found in the place of another fixture.

## Main definitions

* `ParseBench.Fixture.Progress.quiet` — a resolution without a log file.
* `ParseBench.Fixture.Status` — what is known of a fixture after its start.
* `ParseBench.Fixture.Moment`, `ParseBench.Fixture.timeline` — what the awaited fetches do.
* `ParseBench.Fixture.Began`, `ParseBench.Fixture.Starts` — what the start of fixtures comes to, and
  `ParseBench.Fixture.Started` — the same in terms of the volume before all of them.
* `ParseBench.Fixture.Played` — what following a timeline comes to.
* `ParseBench.Fixture.Runs` — how a resolution runs in both phases.

## Main results

* `ParseBench.Fixture.Starts.started` — the first phase, in terms of the volume before it.
* `ParseBench.Fixture.mem_schedule_ending_iff`, `ParseBench.Fixture.pairwise_schedule` — what is on
  a timeline, and in which order.
* `ParseBench.Fixture.Runs.stores` — what a run does to the volume.
-/

namespace ParseBench.Fixture

open ParseBench.Bench (Config)
open ParseBench.Files
open ParseBench.Http (Fetch FetchFault Network)
open ParseBench.Text (Points)

/-! ## Progress without a log file -/

/-- The requests among events. -/
def requested (es : List Event) : List String :=
  es.filterMap fun
    | .request url => some url
    | _ => none

/-- Two rows of events request what each of them requests. -/
lemma requested_append (es es' : List Event) :
    requested (es ++ es') = requested es ++ requested es' :=
  List.filterMap_append

namespace Progress

/-- A resolution without a log file, as far as it has come. -/
def quiet (w : Volume) (changes : List Change) (events : List Event) : Progress :=
  ⟨.ofVolume w, changes, events⟩

variable (w : Volume) (changes steps : List Change) (events es : List Event)

/-- The volume of a quiet progress. -/
@[simp] lemma quiet_volume : (quiet w changes events).volume = w := rfl

/-- What a quiet progress notes comes after its events. -/
@[simp] lemma quiet_note : (quiet w changes events).note es = quiet w changes (events ++ es) := rfl

/-- What a quiet progress takes is applied to its volume and comes after its changes. -/
@[simp] lemma quiet_take :
    (quiet w changes events).take steps =
      quiet (Change.applyAll w steps) (changes ++ steps) events := by
  have hdesk : (Log.Desk.ofVolume w).take steps = .ofVolume (Change.applyAll w steps) := by
    induction steps generalizing w with
    | nil => rfl
    | cons step steps ih =>
      have hfollow : Log.Sink.none.follow step = Log.Sink.none := by
        cases step <;> rfl
      rw [Log.Desk.take, List.foldl_cons, Change.applyAll_cons, ← ih (step.apply w), Log.Desk.take,
        Log.Desk.ofVolume, Log.Desk.ofVolume, hfollow]
  rw [take, quiet, quiet, hdesk]

end Progress

/-! ## Statuses and moments -/

/-- What is known of a fixture after its start. -/
inductive Status where
  | done (content : String)
  | failed (abort : CacheAbort)
  | waiting (fetch : Fetch)

/-- The status of a result. -/
def Status.ofResult : Except CacheAbort String → Status
  | .ok content => .done content
  | .error abort => .failed abort

/-- Whether a status stops everything that is under way at once. -/
def Status.stopsAtOnce : Status → Bool
  | .failed abort => abort.stopsAtOnce
  | _ => false

/-- What an awaited fetch does. -/
inductive Moment where
  | request (url : String)
  | ending (n : Named) (result : Except FetchFault String)

/-- What an awaited fetch does after its start, with the times. -/
def moments (n : Named) (f : Fetch) : List (Nat × Moment) :=
  ((f.requests.filter fun (time, _) => time != 0).map fun (time, url) => (time, .request url)) ++
    (match f.ending with
    | some (time, result) => [(time, .ending n result)]
    | none => [])

/-- What the awaited fetches do, with the times, fixture by fixture. -/
def awaited (statuses : List (Named × Status)) : List (Nat × Moment) :=
  statuses.flatMap fun (n, status) =>
    match status with
    | .waiting f => moments n f
    | _ => []

/-- What the awaited fetches do, with the times, in the order of time. -/
def schedule (statuses : List (Named × Status)) : List (Nat × Moment) :=
  (awaited statuses).mergeSort fun a b => a.1 ≤ b.1

/-- What the awaited fetches do, in the order of time. -/
def timeline (statuses : List (Named × Status)) : List Moment := (schedule statuses).map Prod.snd

/-- The first failure among statuses. -/
def firstFailed : List (Named × Status) → Option CacheAbort
  | [] => none
  | (_, .failed abort) :: _ => some abort
  | _ :: rest => firstFailed rest

/-- The failure that the statuses after the start end the resolution with: one that stopped
everything, or else the first. -/
def firstFailure (statuses : List (Named × Status)) : Option CacheAbort :=
  match statuses.getLast? with
  | some (_, .failed abort) => if abort.stopsAtOnce then some abort else firstFailed statuses
  | _ => firstFailed statuses

/-- The fixtures of statuses in order, given the contents that have arrived. -/
def collect (arrived : List (Points × String)) :
    List (Named × Status) → Except CacheAbort (List Bench.Fixture)
  | [] => .ok []
  | (n, .done content) :: rest => (collect arrived rest).map (⟨n.name.lossy, content⟩ :: ·)
  | (_, .failed abort) :: _ => .error abort
  | (n, .waiting _) :: rest =>
    match arrived.lookup n.name with
    | some content => (collect arrived rest).map (⟨n.name.lossy, content⟩ :: ·)
    | none => .error .endless

/-! ## The start of a fixture -/

/-- What an attempt comes to for its fixture. -/
def Attempt.outcome (c : Config) (a : Attempt) : Except CacheAbort String :=
  match a.result with
  | .ok () => .ok a.content
  | .error e => .error (.ofStore (a.entry c) e)

/-- What the start of a fixture on a volume comes to: its status, the attempt to store it if there
is one, and the requests for it. -/
inductive Began (c : Config) (follow : Bool) (net : Network) (v : Volume) (n : Named) :
    Status → List Attempt → List String → Prop where
  | hit {content : String} (h : look c v n.name = .hit content) :
    Began c follow net v n (.done content) [] []
  | fault {abort : CacheAbort} (h : look c v n.name = .fault abort) :
    Began c follow net v n (.failed abort) [] []
  | lost {f : FetchFault} (h : look c v n.name = .miss)
    (hend : (Http.fetch follow net n.url).ending = some (0, .error f)) :
    Began c follow net v n (.failed (.ofFetch n.url f)) [] (Http.fetch follow net n.url).urls
  | tried {a : Attempt} (h : look c v n.name = .miss) (ha : a.named = n)
    (hend : (Http.fetch follow net n.url).ending = some (0, .ok a.content)) :
    Began c follow net v n (.ofResult (a.outcome c)) [a] (Http.fetch follow net n.url).urls
  | waits (h : look c v n.name = .miss)
    (hend : ∀ r, (Http.fetch follow net n.url).ending ≠ some (0, r)) :
    Began c follow net v n (.waiting (Http.fetch follow net n.url)) []
      (((Http.fetch follow net n.url).requests.filter fun q => q.1 == 0).map Prod.snd)

section Start

variable {c : Config} {follow : Bool} {net : Network}

/-- An announcement requests nothing. -/
lemma requested_announce (c : Config) (logged shown : String) :
    requested (announce c logged shown) = [] := by
  rw [announce]
  split <;> rfl

/-- All requests of a fetch that need not be awaited are made at its start. -/
lemma requests_atOnce {url : Points} {r : Except FetchFault String}
    (h : (Http.fetch follow net url).ending = some (0, r)) :
    ((Http.fetch follow net url).requests.filter fun q => q.1 == 0).map Prod.snd =
      (Http.fetch follow net url).urls := by
  rw [Fetch.urls, List.filter_eq_self.2]
  intro q hq
  have := Http.fetch_times h q hq
  simpa using this

/-- The start of a fixture depends on the content of its entry alone. -/
lemma Began.of_content? {v w : Volume} {n : Named} {status : Status} {log : List Attempt}
    {asked : List String} (h : Began c follow net w n status log asked)
    (hsame : content? c w n.name = content? c v n.name) :
    Began c follow net v n status log asked := by
  have hlook := look_eq_of_content? hsame
  cases h with
  | hit h => exact .hit (hlook ▸ h)
  | fault h => exact .fault (hlook ▸ h)
  | lost h hend => exact .lost (hlook ▸ h) hend
  | tried h ha hend => exact .tried (hlook ▸ h) ha hend
  | waits h hend => exact .waits (hlook ▸ h) hend

/-- An attempt at the start of a fixture is for that fixture, whose text has come at once. -/
lemma Began.attempt {v : Volume} {n : Named} {status : Status} {log : List Attempt}
    {asked : List String} (h : Began c follow net v n status log asked) {a : Attempt}
    (ha : a ∈ log) :
    log = [a] ∧ a.named = n ∧ look c v n.name = .miss ∧
      (Http.fetch follow net n.url).ending = some (0, .ok a.content) ∧
      status = .ofResult (a.outcome c) := by
  cases h with
  | hit h => simp at ha
  | fault h => simp at ha
  | lost h hend => simp at ha
  | waits h hend => simp at ha
  | tried h hn hend =>
    rw [List.mem_singleton] at ha
    subst ha
    exact ⟨rfl, hn, h, hend, rfl⟩

/-- A fixture that is done after its start was found, or its text has come at once and was
stored. -/
lemma Began.done {v : Volume} {n : Named} {content : String} {log : List Attempt}
    {asked : List String} (h : Began c follow net v n (.done content) log asked) :
    log = [] ∧ look c v n.name = .hit content ∨
      ∃ a, log = [a] ∧ a.named = n ∧ a.content = content ∧ a.result = .ok () := by
  generalize hstatus : Status.done content = status at h
  cases h with
  | hit h =>
    cases hstatus
    exact .inl ⟨rfl, h⟩
  | fault h => cases hstatus
  | lost h hend => cases hstatus
  | @tried a h ha hend =>
    rw [Attempt.outcome] at hstatus
    split at hstatus
    · next hok =>
      cases hstatus
      exact .inr ⟨a, rfl, ha, rfl, hok⟩
    · cases hstatus
  | waits h hend => cases hstatus

/-- A fixture that is awaited after its start was missing, and its fetch does not end at once. -/
lemma Began.waiting {v : Volume} {n : Named} {f : Fetch} {log : List Attempt} {asked : List String}
    (h : Began c follow net v n (.waiting f) log asked) :
    f = Http.fetch follow net n.url ∧ look c v n.name = .miss ∧ ∀ r, f.ending ≠ some (0, r) := by
  generalize hstatus : Status.waiting f = status at h
  cases h with
  | hit h => cases hstatus
  | fault h => cases hstatus
  | lost h hend => cases hstatus
  | tried h ha hend =>
    rw [Attempt.outcome] at hstatus
    split at hstatus <;> cases hstatus
  | waits h hend =>
    cases hstatus
    exact ⟨rfl, h, hend⟩

/-! ## The start of several fixtures -/

/-- How fixtures are started on a volume, in order, up to one that stops everything: each on what
those before it have left. -/
inductive Starts (c : Config) (follow : Bool) (net : Network) : Volume → List Named →
    List Attempt → List Change → List (Named × Status) → List String → Prop where
  | nil (w : Volume) : Starts c follow net w [] [] [] [] []
  | stop {w : Volume} {n : Named} {rest : List Named} {status : Status} {log : List Attempt}
    {steps : List Change} {asked : List String} (h : Began c follow net w n status log asked)
    (hstores : Stores c w log steps) (hstop : status.stopsAtOnce = true) :
    Starts c follow net w (n :: rest) log steps [(n, status)] asked
  | cons {w : Volume} {n : Named} {rest : List Named} {status : Status} {now log : List Attempt}
    {steps steps' : List Change} {statuses : List (Named × Status)} {asked asked' : List String}
    (h : Began c follow net w n status now asked) (hstores : Stores c w now steps)
    (hgo : status.stopsAtOnce = false)
    (hrest : Starts c follow net (Change.applyAll w steps) rest log steps' statuses asked') :
    Starts c follow net w (n :: rest) (now ++ log) (steps ++ steps') ((n, status) :: statuses)
      (asked ++ asked')

/-- The changes of a start are those of the stores that it logs. -/
lemma Starts.stores {w : Volume} {rest : List Named} {log : List Attempt} {steps : List Change}
    {statuses : List (Named × Status)} {asked : List String}
    (h : Starts c follow net w rest log steps statuses asked) : Stores c w log steps := by
  induction h with
  | nil w => exact .nil w
  | stop _ hstores _ => exact hstores
  | cons _ hstores _ _ ih => exact hstores.append ih

/-- What the start of fixtures comes to, up to one that stops everything. -/
inductive Started (c : Config) (follow : Bool) (net : Network) (v : Volume) :
    List Named → List Attempt → List (Named × Status) → List String → Prop where
  | nil : Started c follow net v [] [] [] []
  | stop {n : Named} {rest : List Named} {status : Status} {log : List Attempt}
    {asked : List String}
    (h : Began c follow net v n status log asked) (hstop : status.stopsAtOnce = true) :
    Started c follow net v (n :: rest) log [(n, status)] asked
  | cons {n : Named} {rest : List Named} {status : Status} {now log : List Attempt}
    {statuses : List (Named × Status)} {asked asked' : List String}
    (h : Began c follow net v n status now asked) (hgo : status.stopsAtOnce = false)
    (hrest : Started c follow net v rest log statuses asked') :
    Started c follow net v (n :: rest) (now ++ log) ((n, status) :: statuses) (asked ++ asked')

/-- **The first phase of a resolution**, in terms of the volume `v` before it.

**Proof sketch.** By induction on the start of the fixtures: what was stored before does not change
what is found in the place of any that is still to be started. -/
lemma Starts.started {named rest : List Named} {v w : Volume} {log : List Attempt}
    {steps : List Change} {statuses : List (Named × Status)} {asked : List String}
    (hc : Compatible c named) (h : Starts c follow net w rest log steps statuses asked)
    (hsub : rest ⊆ named) (hnodup : rest.Nodup) (hw : w.WellFormed)
    (hsame : ∀ n ∈ rest, content? c w n.name = content? c v n.name) :
    Started c follow net v rest log statuses asked := by
  induction h with
  | nil w => exact .nil
  | stop h _ hstop => exact .stop (h.of_content? (hsame _ (by simp))) hstop
  | @cons w n rest status now log steps _ _ _ _ h hstores hgo _ ih =>
    rw [List.nodup_cons] at hnodup
    have hfor : ∀ a ∈ now, a.For named := by
      intro a ha
      obtain ⟨-, rfl, -, hend, -⟩ := h.attempt ha
      have hn : a.named ∈ named := hsub (by simp)
      exact ⟨hn, isText_of_fetch (hc.accepted.identifier _ hn)
        (Fetch.result?_eq_some_iff.2 ⟨0, hend⟩)⟩
    have hsame' : ∀ m ∈ rest, content? c (Change.applyAll w steps) m.name =
        content? c v m.name := by
      intro m hm
      rw [Stores.content?_untouched hc hw hstores hfor (hsub (by simp [hm])) _ (Stopped.all _ _)]
      · exact hsame m (by simp [hm])
      · intro a ha hname
        obtain ⟨-, rfl, -⟩ := h.attempt ha
        exact absurd (hname ▸ hm) hnodup.1
    exact .cons (h.of_content? (hsame n (by simp))) hgo (ih (fun m hm => hsub (by simp [hm]))
      hnodup.2 ((hstores.legal hw).wellFormed hw) hsame')

namespace Started

variable {v : Volume} {rest : List Named} {log : List Attempt} {statuses : List (Named × Status)}
  {asked : List String}

/-- The fixtures that were started, in order. -/
lemma names (h : Started c follow net v rest log statuses asked) :
    statuses.map Prod.fst <+: rest := by
  induction h with
  | nil => simp
  | stop h hstop => simp
  | cons h hgo hrest ih =>
    rw [List.map_cons]
    exact List.cons_prefix_cons.2 ⟨rfl, ih⟩

/-- Only fixtures of the list are started. -/
lemma mem_of_status (h : Started c follow net v rest log statuses asked) {n : Named} {status : Status}
    (hs : (n, status) ∈ statuses) : n ∈ rest :=
  h.names.subset (List.mem_map.2 ⟨_, hs, rfl⟩)

/-- If nothing stops everything, all fixtures were started. -/
lemma names_eq (h : Started c follow net v rest log statuses asked)
    (hgo : ∀ s ∈ statuses, s.2.stopsAtOnce = false) : statuses.map Prod.fst = rest := by
  induction h with
  | nil => rfl
  | stop h hstop =>
    have := hgo _ (List.mem_singleton_self _)
    simp [hstop] at this
  | cons h _ hrest ih => rw [List.map_cons, ih fun s hs => hgo s (by simp [hs])]

/-- Only the last fixture that was started can stop everything. -/
lemma go_of_append {before after : List (Named × Status)} {last : Named × Status}
    (h : Started c follow net v rest log statuses asked) (hs : statuses = before ++ last :: after)
    (hafter : after ≠ []) : last.2.stopsAtOnce = false := by
  induction h generalizing before with
  | nil => simp at hs
  | stop h hstop =>
    cases before with
    | nil =>
      rw [List.nil_append, List.cons.injEq] at hs
      exact absurd hs.2.symm hafter
    | cons first before => simp at hs
  | cons h hgo hrest ih =>
    cases before with
    | nil =>
      rw [List.nil_append, List.cons.injEq] at hs
      rw [← hs.1]
      exact hgo
    | cons first before =>
      rw [List.cons_append, List.cons.injEq] at hs
      exact ih hs.2

/-- How each fixture began. -/
lemma began (h : Started c follow net v rest log statuses asked) {s : Named × Status}
    (hs : s ∈ statuses) :
    ∃ now asked', Began c follow net v s.1 s.2 now asked' ∧ ∀ a ∈ now, a ∈ log := by
  induction h with
  | nil => simp at hs
  | @stop n rest status log asked h hstop =>
    rw [List.mem_singleton] at hs
    subst hs
    exact ⟨log, asked, h, fun a ha => ha⟩
  | @cons n rest status now log statuses asked asked' h hgo hrest ih =>
    rcases List.mem_cons.1 hs with rfl | hs
    · exact ⟨now, asked, h, fun a ha => by simp [ha]⟩
    · obtain ⟨now', asked'', hbegan, hsub⟩ := ih hs
      exact ⟨now', asked'', hbegan, fun a ha => by simp [hsub a ha]⟩

/-- What each attempt was made for. -/
lemma attempt (h : Started c follow net v rest log statuses asked) {a : Attempt} (ha : a ∈ log) :
    look c v a.named.name = .miss ∧
      (Http.fetch follow net a.named.url).ending = some (0, .ok a.content) ∧
      (a.named, .ofResult (a.outcome c)) ∈ statuses := by
  induction h with
  | nil => simp at ha
  | stop h hstop =>
    obtain ⟨-, rfl, hlook, hend, rfl⟩ := h.attempt ha
    exact ⟨hlook, hend, by simp⟩
  | cons h hgo hrest ih =>
    rcases List.mem_append.1 ha with ha | ha
    · obtain ⟨-, rfl, hlook, hend, rfl⟩ := h.attempt ha
      exact ⟨hlook, hend, by simp⟩
    · obtain ⟨hlook, hend, hmem⟩ := ih ha
      exact ⟨hlook, hend, by simp [hmem]⟩

/-- At most one attempt is made for each fixture. -/
lemma sublist (h : Started c follow net v rest log statuses asked) :
    (log.map Attempt.named).Sublist rest := by
  have hone : ∀ {n : Named} {status : Status} {now : List Attempt} {asked : List String},
      Began c follow net v n status now asked → (now.map Attempt.named).Sublist [n] := by
    intro n status now asked h
    cases h with
    | hit h => simp
    | fault h => simp
    | lost h hend => simp
    | tried h hn hend => simp [hn]
    | waits h hend => simp
  induction h with
  | nil => simp
  | stop h hstop => exact (hone h).trans (by simp)
  | cons h hgo hrest ih =>
    rw [List.map_append]
    exact (hone h).append ih

end Started

end Start

/-! ## The timeline -/

/-- The fixture that a moment ends the fetch of. -/
def Moment.named? : Moment → Option Named
  | .request _ => none
  | .ending n _ => some n

/-- The URL that is requested at a moment. -/
def Moment.request? : Moment → Option String
  | .request url => some url
  | .ending _ _ => none

section Timeline

variable {statuses : List (Named × Status)}

/-- The timeline is the schedule without its times. -/
lemma timeline_eq (statuses : List (Named × Status)) :
    timeline statuses = (schedule statuses).map Prod.snd := rfl

/-- The schedule has the moments that are awaited, in another order. -/
lemma schedule_perm (statuses : List (Named × Status)) :
    (schedule statuses).Perm (awaited statuses) :=
  List.mergeSort_perm _ _

/-- A timeline is in the order of time. -/
lemma pairwise_schedule (statuses : List (Named × Status)) :
    (schedule statuses).Pairwise fun a b => a.1 ≤ b.1 := by
  have hsorted : (schedule statuses).Pairwise fun a b => decide (a.1 ≤ b.1) = true :=
    List.pairwise_mergeSort (by simp only [decide_eq_true_eq]; omega)
      (by simp only [Bool.or_eq_true, decide_eq_true_eq]; omega) _
  simpa only [decide_eq_true_eq] using hsorted

/-- Among the moments of a fetch, the ending is that of the fetch. -/
lemma mem_moments_ending_iff {n m : Named} {f : Fetch} {t : Nat} {r : Except FetchFault String} :
    (t, Moment.ending n r) ∈ moments m f ↔ m = n ∧ f.ending = some (t, r) := by
  rw [moments, List.mem_append]
  cases f.ending with
  | none => simp
  | some e =>
    obtain ⟨t', r'⟩ := e
    simp only [List.mem_map, List.mem_filter, List.mem_singleton, Prod.mk.injEq,
      Moment.ending.injEq,
      reduceCtorEq, and_false, exists_false, false_or, Option.some.injEq]
    constructor
    · rintro ⟨rfl, rfl, rfl⟩
      exact ⟨rfl, rfl, rfl⟩
    · rintro ⟨rfl, rfl, rfl⟩
      exact ⟨rfl, rfl, rfl⟩

/-- **What is on a timeline**: the endings of the fetches that are awaited. -/
lemma mem_schedule_ending_iff {n : Named} {t : Nat} {r : Except FetchFault String} :
    (t, .ending n r) ∈ schedule statuses ↔ ∃ f, (n, .waiting f) ∈ statuses ∧
      f.ending = some (t, r) := by
  rw [(schedule_perm statuses).mem_iff, awaited, List.mem_flatMap]
  constructor
  · rintro ⟨⟨m, status⟩, hmem, h⟩
    cases status with
    | done content => simp at h
    | failed abort => simp at h
    | waiting f =>
      obtain ⟨rfl, hend⟩ := mem_moments_ending_iff.1 h
      exact ⟨f, hmem, hend⟩
  · rintro ⟨f, hmem, hend⟩
    exact ⟨_, hmem, mem_moments_ending_iff.2 ⟨rfl, hend⟩⟩

/-- The timeline has an ending exactly if a fetch that is waited for has it. -/
lemma mem_timeline_ending_iff {n : Named} {r : Except FetchFault String} :
    .ending n r ∈ timeline statuses ↔ ∃ f t, (n, .waiting f) ∈ statuses ∧
      f.ending = some (t, r) := by
  rw [timeline_eq, List.mem_map]
  constructor
  · rintro ⟨⟨t, moment⟩, hmem, rfl⟩
    obtain ⟨f, hf, hend⟩ := mem_schedule_ending_iff.1 hmem
    exact ⟨f, t, hf, hend⟩
  · rintro ⟨f, t, hf, hend⟩
    exact ⟨_, mem_schedule_ending_iff.2 ⟨f, hf, hend⟩, rfl⟩

/-- Each fetch ends at most once. -/
lemma nodup_schedule (h : (statuses.map Prod.fst).Nodup) :
    ((schedule statuses).filterMap fun x => x.2.named?).Nodup := by
  rw [((schedule_perm statuses).filterMap _).nodup_iff]
  refine List.Sublist.nodup ?_ h
  clear h
  induction statuses with
  | nil => simp [awaited]
  | cons s statuses ih =>
    obtain ⟨n, status⟩ := s
    rw [awaited, List.flatMap_cons, List.filterMap_append, List.map_cons, ← List.singleton_append]
    refine List.Sublist.append ?_ ih
    cases status with
    | done content => simp
    | failed abort => simp
    | waiting f =>
      dsimp only
      rw [moments, List.filterMap_append, List.filterMap_map,
        List.filterMap_eq_nil_iff.2 (by simp [Moment.named?]), List.nil_append]
      cases f.ending with
      | none => simp
      | some e => simp [Moment.named?]

end Timeline

/-! ## Following a timeline -/

/-- What following a timeline comes to, up to the first failure. -/
inductive Played (c : Config) :
    List Moment → List Attempt → Except CacheAbort (List (Points × String)) → List String →
      Prop where
  | nil : Played c [] [] (.ok []) []
  | request {url : String} {rest : List Moment} {log : List Attempt}
    {r : Except CacheAbort (List (Points × String))} {asked : List String}
    (hrest : Played c rest log r asked) : Played c (.request url :: rest) log r (url :: asked)
  | lost {n : Named} {f : FetchFault} {rest : List Moment} :
    Played c (.ending n (.error f) :: rest) [] (.error (.ofFetch n.url f)) []
  | failed {a : Attempt} {e : StoreFault} {rest : List Moment} (ha : a.result = .error e) :
    Played c (.ending a.named (.ok a.content) :: rest) [a] (.error (.ofStore (a.entry c) e)) []
  | stored {a : Attempt} {rest : List Moment} {log : List Attempt}
    {r : Except CacheAbort (List (Points × String))} {asked : List String} (ha : a.result = .ok ())
    (hrest : Played c rest log r asked) :
    Played c (.ending a.named (.ok a.content) :: rest) (a :: log)
      (r.map ((a.named.name, a.content) :: ·)) asked

namespace Played

variable {c : Config} {line : List Moment} {log : List Attempt}
  {r : Except CacheAbort (List (Points × String))} {asked : List String}

/-- At most one attempt is made for each ending. -/
lemma sublist (h : Played c line log r asked) :
    (log.map Attempt.named).Sublist (line.filterMap Moment.named?) := by
  induction h with
  | nil => simp
  | request hrest ih => rwa [List.filterMap_cons, Moment.named?]
  | lost => simp
  | failed ha => simp [Moment.named?]
  | stored ha hrest ih => simpa [Moment.named?] using ih

/-- An attempt is made where a text arrives. -/
lemma attempt (h : Played c line log r asked) {a : Attempt} (ha : a ∈ log) :
    .ending a.named (.ok a.content) ∈ line := by
  induction h with
  | nil => simp at ha
  | request hrest ih => exact List.mem_cons_of_mem _ (ih ha)
  | lost => simp at ha
  | failed h => simp [List.mem_singleton.1 ha]
  | stored h hrest ih =>
    rcases List.mem_cons.1 ha with rfl | ha
    · exact List.mem_cons_self
    · exact List.mem_cons_of_mem _ (ih ha)

/-- If nothing fails, a text arrives at each ending and is stored. -/
lemma of_ok {arrived : List (Points × String)} (h : Played c line log r asked)
    (hr : r = .ok arrived) :
    (∀ a ∈ log, a.result = .ok () ∧ .ending a.named (.ok a.content) ∈ line) ∧
    (∀ n result, .ending n result ∈ line → ∃ a ∈ log, a.named = n ∧ result = .ok a.content) ∧
    arrived = log.map (fun a => (a.named.name, a.content)) ∧
      asked = line.filterMap Moment.request? := by
  induction h generalizing arrived with
  | nil =>
    cases hr
    simp
  | request hrest ih =>
    obtain ⟨hlog, hline, harrived, hasked⟩ := ih hr
    refine ⟨fun a ha => ⟨(hlog a ha).1, by simp [(hlog a ha).2]⟩, fun n result hmem => ?_,
      harrived, ?_⟩
    · exact hline n result (by simpa using hmem)
    · rw [List.filterMap_cons, Moment.request?, hasked]
  | lost => cases hr
  | failed ha => cases hr
  | @stored a rest log r asked ha hrest ih =>
    cases r with
    | error e => cases hr
    | ok arrived' =>
      cases hr
      obtain ⟨hlog, hline, rfl, hasked⟩ := ih rfl
      refine ⟨fun b hb => ?_, fun n result hmem => ?_, rfl, ?_⟩
      · rcases List.mem_cons.1 hb with rfl | hb
        · exact ⟨ha, by simp⟩
        · exact ⟨(hlog b hb).1, by simp [(hlog b hb).2]⟩
      · rcases List.mem_cons.1 hmem with heq | hmem
        · cases heq
          exact ⟨a, by simp, rfl, rfl⟩
        · obtain ⟨b, hb, hrest⟩ := hline n result hmem
          exact ⟨b, by simp [hb], hrest⟩
      · rw [List.filterMap_cons, Moment.request?, hasked]

/-- The ending `n` with `result` is the first failure: before it everything is stored, and after it
nothing is attempted. -/
structure FailsAt (c : Config) (log : List Attempt) (abort : CacheAbort) (before : List Moment)
    (n : Named) (result : Except FetchFault String) : Prop where
  stored : ∀ m r, .ending m r ∈ before → ∃ a ∈ log, a.named = m ∧ r = .ok a.content ∧
    a.result = .ok ()
  attempts : ∀ a ∈ log, (a.result = .ok () ∧ .ending a.named (.ok a.content) ∈ before) ∨
    a.named = n ∧ result = .ok a.content ∧ a.result ≠ .ok ()
  reason : (∃ f, result = .error f ∧ abort = .ofFetch n.url f) ∨
    ∃ a ∈ log, ∃ e, a.named = n ∧ result = .ok a.content ∧ a.result = .error e ∧
      abort = .ofStore (a.entry c) e

/-- **The first failure on a timeline.**

**Proof sketch.** Induction on the run: what comes before the ending that fails has been stored, in
front of the rest or as its first ending. -/
lemma of_error {abort : CacheAbort} (h : Played c line log r asked) (hr : r = .error abort) :
    ∃ before n result after, line = before ++ .ending n result :: after ∧
      FailsAt c log abort before n result := by
  induction h with
  | nil => cases hr
  | @request url rest log r asked hrest ih =>
    obtain ⟨before, n, result, after, rfl, hstored, hattempts, hreason⟩ := ih hr
    refine ⟨.request url :: before, n, result, after, rfl, fun m r hmem => ?_, fun a ha => ?_,
      hreason⟩
    · exact hstored m r (by simpa using hmem)
    · rcases hattempts a ha with ⟨hok, hmem⟩ | hlast
      · exact .inl ⟨hok, by simp [hmem]⟩
      · exact .inr hlast
  | @lost n f rest =>
    cases hr
    exact ⟨[], n, _, rest, rfl, by simp, by simp, .inl ⟨f, rfl, rfl⟩⟩
  | @failed a e rest ha =>
    cases hr
    refine ⟨[], a.named, _, rest, rfl, by simp, fun b hb => ?_, .inr ⟨a, by simp, e, rfl, rfl,
      ha, rfl⟩⟩
    rw [List.mem_singleton.1 hb]
    exact .inr ⟨rfl, rfl, by simp [ha]⟩
  | @stored a rest log r asked ha hrest ih =>
    cases r with
    | ok arrived => cases hr
    | error abort' =>
      cases hr
      obtain ⟨before, n, result, after, rfl, hstored, hattempts, hreason⟩ := ih rfl
      refine ⟨.ending a.named (.ok a.content) :: before, n, result, after, rfl, fun m r hmem => ?_,
        fun b hb => ?_, ?_⟩
      · rcases List.mem_cons.1 hmem with heq | hmem
        · cases heq
          exact ⟨a, by simp, rfl, rfl, ha⟩
        · obtain ⟨b, hb, hrest⟩ := hstored m r hmem
          exact ⟨b, by simp [hb], hrest⟩
      · rcases List.mem_cons.1 hb with rfl | hb
        · exact .inl ⟨ha, by simp⟩
        · rcases hattempts b hb with ⟨hok, hmem⟩ | hlast
          · exact .inl ⟨hok, by simp [hmem]⟩
          · exact .inr hlast
      · rcases hreason with hlost | ⟨b, hb, hrest⟩
        · exact .inl hlost
        · exact .inr ⟨b, by simp [hb], hrest⟩

end Played

/-! ## Both phases -/

/-- How a resolution runs on a volume: the fixtures are started, and if none of them has failed then
the timeline of what is awaited is followed. -/
inductive Runs (c : Config) (follow : Bool) (net : Network) (v : Volume) (named : List Named) :
    List Attempt → List Change → Except CacheAbort (List Bench.Fixture) → List String → Prop where
  | first {log : List Attempt} {steps : List Change} {statuses : List (Named × Status)}
    {asked : List String} {abort : CacheAbort}
    (hstarts : Starts c follow net v named log steps statuses asked)
    (hfailure : firstFailure statuses = some abort) :
    Runs c follow net v named log steps (.error abort) asked
  | second {log log' : List Attempt} {steps steps' : List Change} {statuses : List (Named × Status)}
    {asked asked' : List String} {abort : CacheAbort}
    (hstarts : Starts c follow net v named log steps statuses asked)
    (hfailure : firstFailure statuses = none) (hstores : Stores c (Change.applyAll v steps) log' steps')
    (hplayed : Played c (timeline statuses) log' (.error abort) asked') :
    Runs c follow net v named (log ++ log') (steps ++ steps') (.error abort) (asked ++ asked')
  | both {log log' : List Attempt} {steps steps' : List Change} {statuses : List (Named × Status)}
    {asked asked' : List String} {arrived : List (Points × String)}
    (hstarts : Starts c follow net v named log steps statuses asked)
    (hfailure : firstFailure statuses = none) (hstores : Stores c (Change.applyAll v steps) log' steps')
    (hplayed : Played c (timeline statuses) log' (.ok arrived) asked') :
    Runs c follow net v named (log ++ log') (steps ++ steps') (collect arrived statuses)
      (asked ++ asked')

/-- All that a resolution does is to store entries. -/
lemma Runs.stores {c : Config} {follow : Bool} {net : Network} {v : Volume} {named : List Named}
    {log : List Attempt} {changes : List Change} {r : Except CacheAbort (List Bench.Fixture)}
    {asked : List String} (h : Runs c follow net v named log changes r asked) :
    Stores c v log changes := by
  cases h with
  | first hstarts _ => exact hstarts.stores
  | second hstarts _ hstores _ => exact hstarts.stores.append hstores
  | both hstarts _ hstores _ => exact hstarts.stores.append hstores

end ParseBench.Fixture
