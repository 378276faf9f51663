import ParseBench.Proofs.Fixture.Phases
import ParseBench.Proofs.Fixture.Urls

set_option relaxedAutoImplicit false
set_option autoImplicit false

/-!
# Outcomes of a resolution

Along the prompt schedule, a resolution returns its fixtures exactly if none of them fails: each is
found, or its text arrives and nothing is in the way of its entry. What it returns and what it asks
for is told by the volume before and by what the network answers.

## Main definitions

* `ParseBench.Fixture.Arrives`, `ParseBench.Fixture.Fails` — what becomes of a fixture, and when.
* `ParseBench.Fixture.IsFixture` — what a fixture has to be.
* `ParseBench.Fixture.Resolvable` — nothing keeps a list of fixtures from being resolved.

## Main results

* `ParseBench.Fixture.resolveNamed_phases` — a resolution is its two phases.
* `ParseBench.Fixture.returned_of_resolveNamed` — all about a resolution that returns.
* `ParseBench.Fixture.Phases.cases` — a resolution that does not return has failed somewhere.
* `ParseBench.Fixture.resolveNamed_returns_iff` — when a resolution returns.
-/

namespace ParseBench.Fixture

open ParseBench.Bench (Config)
open ParseBench.Files
open ParseBench.Http (Fetch FetchFault Network)
open ParseBench.Text (Points)

variable {c : Config} {follow : Bool} {net : Network} {v : Volume} {named : List Named}

/-! ## The two phases -/

/-- The attempts of a resolution are for its fixtures, at most one for each; the fixtures were
missing and their texts have arrived. -/
structure Tried (c : Config) (follow : Bool) (net : Network) (v : Volume) (named : List Named)
    (log : List Attempt) : Prop where
  for_named : ∀ a ∈ log, a.For named
  nodup : (log.map Attempt.named).Nodup
  missing : ∀ a ∈ log, look c v a.named.name = .miss
  fetched : ∀ a ∈ log, (Http.fetch follow net a.named.url).result? = some (.ok a.content)

/-- How the two phases of a resolution lead to its result. -/
inductive Phases (c : Config) (follow : Bool) (net : Network) (v : Volume) (named : List Named) :
    List Attempt → Except CacheAbort (List Bench.Fixture) → List String → Prop where
  | first {log : List Attempt} {statuses : List (Named × Status)} {asked : List String}
    {abort : CacheAbort} (hstarted : Started c follow net v named log statuses asked)
    (hfailure : firstFailure statuses = some abort) :
    Phases c follow net v named log (.error abort) asked
  | second {log log' : List Attempt} {statuses : List (Named × Status)} {asked asked' : List String}
    {abort : CacheAbort} (hstarted : Started c follow net v named log statuses asked)
    (hfailure : firstFailure statuses = none)
    (hplayed : Played c (timeline statuses) log' (.error abort) asked') :
    Phases c follow net v named (log ++ log') (.error abort) (asked ++ asked')
  | both {log log' : List Attempt} {statuses : List (Named × Status)} {asked asked' : List String}
    {arrived : List (Points × String)} (hstarted : Started c follow net v named log statuses asked)
    (hfailure : firstFailure statuses = none)
    (hplayed : Played c (timeline statuses) log' (.ok arrived) asked') :
    Phases c follow net v named (log ++ log') (collect arrived statuses) (asked ++ asked')

/-- A run goes through its phases: this is what is left of it when its changes are forgotten. -/
lemma Runs.phases {log : List Attempt} {changes : List Change}
    {r : Except CacheAbort (List Bench.Fixture)} {asked : List String} (hc : Compatible c named)
    (hv : v.WellFormed) (h : Runs c follow net v named log changes r asked) :
    Phases c follow net v named log r asked := by
  have hstarted : ∀ {log steps statuses asked},
      Starts c follow net v named log steps statuses asked →
        Started c follow net v named log statuses asked :=
    fun h => h.started hc (fun _ hn => hn) (hc.accepted.nodup.of_map _) hv fun _ _ => rfl
  cases h with
  | first hstarts hfailure => exact .first (hstarted hstarts) hfailure
  | second hstarts hfailure _ hplayed => exact .second (hstarted hstarts) hfailure hplayed
  | both hstarts hfailure _ hplayed => exact .both (hstarted hstarts) hfailure hplayed

/-- **A resolution is its two phases.** -/
lemma resolveNamed_phases (hc : Compatible c named) (hv : v.WellFormed) (follow : Bool)
    (net : Network) :
    ∃ log changes es r, resolveNamed c follow net (.ofVolume v) named =
        (.quiet (Change.applyAll v changes) changes es, r) ∧
      Stores c v log changes ∧ Phases c follow net v named log r (requested es) := by
  obtain ⟨log, changes, es, r, hrun, hruns⟩ := resolveNamed_runs c follow net v hc.accepted.nodup
  exact ⟨log, changes, es, r, hrun, hruns.stores, hruns.phases hc hv⟩

/-! ## The statuses after the first phase -/

section Statuses

variable {statuses : List (Named × Status)} {log log' : List Attempt} {asked asked' : List String}

/-- The first failure among statuses is one that no failure is listed before. -/
lemma firstFailed_eq_some {abort : CacheAbort} (h : firstFailed statuses = some abort) :
    ∃ before n after, statuses = before ++ (n, .failed abort) :: after ∧
      ∀ s ∈ before, ∀ abort', s.2 ≠ .failed abort' := by
  induction statuses with
  | nil => simp [firstFailed] at h
  | cons s statuses ih =>
    obtain ⟨n, status⟩ := s
    have hskip : ∀ {status : Status}, (∀ abort', status ≠ .failed abort') →
        firstFailed statuses = some abort → ∃ before m after,
          (n, status) :: statuses = before ++ (m, .failed abort) :: after ∧
          ∀ s ∈ before, ∀ abort', s.2 ≠ .failed abort' := by
      intro status hstatus h
      obtain ⟨before, m, after, rfl, hbefore⟩ := ih h
      refine ⟨(n, status) :: before, m, after, rfl, fun s hs => ?_⟩
      rcases List.mem_cons.1 hs with rfl | hs
      · exact hstatus
      · exact hbefore s hs
    cases status with
    | failed abort' =>
      cases h
      exact ⟨[], n, statuses, rfl, by simp⟩
    | done content => exact hskip (by simp) h
    | waiting f => exact hskip (by simp) h

/-- The failure of the first phase is the last one, which stops everything, or else the first. -/
lemma firstFailure_eq_some {abort : CacheAbort} (h : firstFailure statuses = some abort) :
    (∃ before n, statuses = before ++ [(n, .failed abort)] ∧ abort.stopsAtOnce = true) ∨
    firstFailed statuses = some abort ∧
      ∀ before last, statuses = before ++ [last] → last.2.stopsAtOnce = false := by
  rw [firstFailure] at h
  split at h
  · next n abort' hlast =>
    obtain ⟨before, hbefore⟩ := List.getLast?_eq_some_iff.1 hlast
    split_ifs at h with hstop
    · cases h
      exact .inl ⟨before, n, hbefore, hstop⟩
    · refine .inr ⟨h, fun before' last hs => ?_⟩
      have heq : last = (n, .failed abort') := by
        rw [hbefore] at hs
        simpa using (List.append_inj' hs rfl).2.symm
      rw [heq]
      simpa [Status.stopsAtOnce] using hstop
  · next hlast =>
    refine .inr ⟨h, fun before last hs => ?_⟩
    obtain ⟨n, status⟩ := last
    cases status with
    | failed abort' => exact absurd (by rw [hs]; simp) (hlast n abort')
    | done content => rfl
    | waiting f => rfl

/-- The failure of the first phase is that of one of the fixtures. -/
lemma exists_of_firstFailure {abort : CacheAbort} (h : firstFailure statuses = some abort) :
    ∃ n, (n, .failed abort) ∈ statuses := by
  rcases firstFailure_eq_some h with ⟨before, n, rfl, -⟩ | ⟨hfirst, -⟩
  · exact ⟨n, by simp⟩
  · obtain ⟨before, n, after, rfl, -⟩ := firstFailed_eq_some hfirst
    exact ⟨n, by simp⟩

/-- If the last fixture that was started does not stop everything, none does. -/
lemma Started.go (h : Started c follow net v named log statuses asked)
    (hlast : ∀ before last, statuses = before ++ [last] → last.2.stopsAtOnce = false) :
    ∀ s ∈ statuses, s.2.stopsAtOnce = false := by
  intro s hs
  obtain ⟨before, after, hsplit⟩ := List.append_of_mem hs
  by_cases hafter : after = []
  · subst hafter
    exact hlast before s hsplit
  · exact h.go_of_append hsplit hafter

/-- If no fixture has failed, all were started. -/
lemma Started.names_of_not_failed (h : Started c follow net v named log statuses asked)
    (hno : ∀ s ∈ statuses, ∀ abort, s.2 ≠ .failed abort) : statuses.map Prod.fst = named := by
  refine h.names_eq fun s hs => ?_
  cases hstatus : s.2 with
  | failed abort => exact absurd hstatus (hno s hs abort)
  | done content => rfl
  | waiting f => rfl

/-- A start has one status for each URL. -/
lemma Started.nodup (hc : Compatible c named)
    (h : Started c follow net v named log statuses asked) :
    (statuses.map Prod.fst).Nodup :=
  (hc.accepted.nodup.of_map _).sublist h.names.sublist

/-- A fixture that is awaited was missing, and its fetch does not end at once. -/
lemma Started.waiting (h : Started c follow net v named log statuses asked) {n : Named} {f : Fetch}
    (hs : (n, .waiting f) ∈ statuses) :
    f = Http.fetch follow net n.url ∧ look c v n.name = .miss ∧ ∀ r, f.ending ≠ some (0, r) := by
  obtain ⟨now, asked', hbegan, -⟩ := h.began hs
  exact hbegan.waiting

/-- A fixture that is done was found, or its text has arrived at once and was stored. -/
lemma Started.done (h : Started c follow net v named log statuses asked) {n : Named}
    {content : String} (hs : (n, .done content) ∈ statuses) :
    look c v n.name = .hit content ∨
      ∃ a ∈ log, a.named = n ∧ a.content = content ∧ a.result = .ok () := by
  obtain ⟨now, asked', hbegan, hnow⟩ := h.began hs
  rcases hbegan.done with ⟨-, hlook⟩ | ⟨a, rfl, ha⟩
  · exact .inl hlook
  · exact .inr ⟨a, hnow a (by simp), ha⟩

/-- The second phase stores each fixture at most once. -/
lemma Played.nodup {r : Except CacheAbort (List (Points × String))}
    (h : Played c (timeline statuses) log r asked) (hnodup : (statuses.map Prod.fst).Nodup) :
    (log.map Attempt.named).Nodup := by
  have hsub := h.sublist
  rw [timeline_eq, List.filterMap_map] at hsub
  exact hsub.nodup (nodup_schedule hnodup)

/-- An attempt of the second phase is for a fixture that was awaited. -/
lemma Played.waiting (hstarted : Started c follow net v named log statuses asked)
    {r : Except CacheAbort (List (Points × String))}
    (hplayed : Played c (timeline statuses) log' r asked') {a : Attempt} (ha : a ∈ log') :
    (a.named, .waiting (Http.fetch follow net a.named.url)) ∈ statuses ∧
      look c v a.named.name = .miss ∧
      ∃ t, 0 < t ∧ (Http.fetch follow net a.named.url).ending = some (t, .ok a.content) := by
  obtain ⟨f, t, hf, hend⟩ := hplayed.awaited ha
  obtain ⟨rfl, hlook, hlater⟩ := hstarted.waiting hf
  refine ⟨hf, hlook, t, ?_, hend⟩
  rcases Nat.eq_zero_or_pos t with rfl | ht
  · exact absurd hend (hlater _)
  · exact ht

/-- The attempts of the first phase. -/
lemma Started.tried (hc : Compatible c named)
    (h : Started c follow net v named log statuses asked) : Tried c follow net v named log := by
  have hmem : ∀ a ∈ log, a.named ∈ named := fun a ha => h.sublist.subset (List.mem_map_of_mem ha)
  have hresult : ∀ a ∈ log, (Http.fetch follow net a.named.url).result? = some (.ok a.content) :=
    fun a ha => Fetch.result?_eq_some_iff.2 ⟨0, (h.attempt ha).2.1⟩
  exact ⟨fun a ha => ⟨hmem a ha,
    isText_of_fetch (hc.accepted.identifier _ (hmem a ha)) (hresult a ha)⟩,
    (hc.accepted.nodup.of_map _).sublist h.sublist, fun a ha => (h.attempt ha).1, hresult⟩

/-- The attempts of the second phase. -/
lemma Played.tried (hc : Compatible c named)
    (hstarted : Started c follow net v named log statuses asked)
    {r : Except CacheAbort (List (Points × String))}
    (hplayed : Played c (timeline statuses) log' r asked') : Tried c follow net v named log' := by
  have hmem : ∀ a ∈ log', a.named ∈ named := by
    intro a ha
    obtain ⟨hs, -⟩ := hplayed.waiting hstarted ha
    exact hstarted.mem_of_status hs
  have hresult : ∀ a ∈ log', (Http.fetch follow net a.named.url).result? =
      some (.ok a.content) := by
    intro a ha
    obtain ⟨-, -, t, -, hend⟩ := hplayed.waiting hstarted ha
    exact Fetch.result?_eq_some_iff.2 ⟨t, hend⟩
  exact ⟨fun a ha => ⟨hmem a ha,
    isText_of_fetch (hc.accepted.identifier _ (hmem a ha)) (hresult a ha)⟩,
    hplayed.nodup (hstarted.nodup hc), fun a ha => (hplayed.waiting hstarted ha).2.1, hresult⟩

/-- A fixture of the first phase is not awaited. -/
lemma Played.named_ne (hstarted : Started c follow net v named log statuses asked)
    {r : Except CacheAbort (List (Points × String))}
    (hplayed : Played c (timeline statuses) log' r asked') {a b : Attempt} (ha : a ∈ log)
    (hb : b ∈ log') : a.named ≠ b.named := by
  intro heq
  obtain ⟨-, -, t, ht, hend⟩ := hplayed.waiting hstarted hb
  rw [← heq, (hstarted.attempt ha).2.1] at hend
  simp only [Option.some.injEq, Prod.mk.injEq] at hend
  omega

/-- Attempts at different URLs are tried one after another. -/
lemma Tried.append (h : Tried c follow net v named log) (h' : Tried c follow net v named log')
    (hne : ∀ a ∈ log, ∀ b ∈ log', a.named ≠ b.named) :
    Tried c follow net v named (log ++ log') where
  for_named := List.forall_mem_append.2 ⟨h.for_named, h'.for_named⟩
  nodup := by
    rw [List.map_append, List.nodup_append]
    refine ⟨h.nodup, h'.nodup, fun n hn m hm => ?_⟩
    obtain ⟨a, ha, rfl⟩ := List.mem_map.1 hn
    obtain ⟨b, hb, rfl⟩ := List.mem_map.1 hm
    exact hne a ha b hb
  missing := List.forall_mem_append.2 ⟨h.missing, h'.missing⟩
  fetched := List.forall_mem_append.2 ⟨h.fetched, h'.fetched⟩

/-- **The attempts of a resolution.** -/
lemma Phases.tried {r : Except CacheAbort (List Bench.Fixture)} (hc : Compatible c named)
    (h : Phases c follow net v named log r asked) : Tried c follow net v named log := by
  have both : ∀ {statuses : List (Named × Status)} {log log' : List Attempt}
      {asked asked' : List String} {r : Except CacheAbort (List (Points × String))},
      Started c follow net v named log statuses asked →
      Played c (timeline statuses) log' r asked' → Tried c follow net v named (log ++ log') :=
    fun hstarted hplayed => (hstarted.tried hc).append (hplayed.tried hc hstarted)
      fun _ ha _ hb => hplayed.named_ne hstarted ha hb
  cases h with
  | first hstarted _ => exact hstarted.tried hc
  | second hstarted _ hplayed => exact both hstarted hplayed
  | both hstarted _ hplayed => exact both hstarted hplayed

end Statuses

/-! ## Requests -/

/-- What is asked for a fixture: nothing if something is found in its place, else all that its fetch
requests. -/
def askedFor (c : Config) (follow : Bool) (net : Network) (v : Volume) (n : Named) : List String :=
  match look c v n.name with
  | .miss => (Http.fetch follow net n.url).urls
  | _ => []

section Requests

variable {statuses : List (Named × Status)} {log : List Attempt} {asked : List String}

/-- The requests that are made later are those of the fetch that are not made at once. -/
lemma requests_moments (n : Named) (f : Fetch) :
    ((moments n f).filterMap fun x => x.2.request?) =
      (f.requests.filter fun q => q.1 != 0).map Prod.snd := by
  rw [moments, List.filterMap_append, List.filterMap_map, ← List.filterMap_eq_map]
  cases f.ending with
  | none => exact List.append_nil _
  | some e => exact List.append_nil _

/-- What has been asked at the start and what will be asked later are the requests of the fetch. -/
lemma Began.requests {n : Named} {status : Status} {log : List Attempt} {asked : List String}
    (h : Began c follow net v n status log asked) :
    (asked ++ (awaited [(n, status)]).filterMap fun x => x.2.request?).Perm
      (askedFor c follow net v n) := by
  have hdone : ∀ {status : Status}, (∀ f, status ≠ .waiting f) → awaited [(n, status)] = [] := by
    intro status hstatus
    cases status with
    | done content => rfl
    | failed abort => rfl
    | waiting f => exact absurd rfl (hstatus f)
  cases h with
  | hit h =>
    rw [askedFor, h, hdone (by simp)]
    simp
  | fault h =>
    rw [askedFor, h, hdone (by simp)]
    simp
  | lost h hend =>
    rw [askedFor, h, hdone (by simp)]
    simp
  | @tried a h ha hend =>
    have hstatus : ∀ f, Status.ofResult (a.outcome c) ≠ .waiting f := by
      intro f
      rw [Attempt.outcome]
      split <;> simp [Status.ofResult]
    rw [askedFor, h, hdone hstatus]
    simp
  | waits h hend =>
    have hone : awaited [(n, .waiting (Http.fetch follow net n.url))] =
        moments n (Http.fetch follow net n.url) := List.append_nil _
    rw [askedFor, h, hone, requests_moments, ← List.map_append]
    exact (List.filter_append_perm _ _).map _

/-- **What is asked for in the two phases**, if all fixtures are started. -/
lemma Started.requests (h : Started c follow net v named log statuses asked)
    (hno : ∀ s ∈ statuses, ∀ abort, s.2 ≠ .failed abort) :
    (asked ++ (timeline statuses).filterMap Moment.request?).Perm
      (named.flatMap (askedFor c follow net v)) := by
  have hline : ((timeline statuses).filterMap Moment.request?).Perm
      ((awaited statuses).filterMap fun x => x.2.request?) := by
    rw [timeline_eq, List.filterMap_map]
    exact (schedule_perm statuses).filterMap _
  refine (hline.append_left asked).trans ?_
  clear hline
  induction h with
  | nil => exact .nil
  | @stop n rest status log asked h hstop =>
    cases status with
    | failed abort => exact absurd rfl (hno (n, .failed abort) (by simp) abort)
    | done content => cases hstop
    | waiting f => cases hstop
  | @cons n rest status now log statuses asked asked' h hgo hrest ih =>
    have hsplit : awaited ((n, status) :: statuses) =
        awaited [(n, status)] ++ awaited statuses := by
      rw [awaited, awaited, awaited, ← List.flatMap_append]
      rfl
    rw [List.flatMap_cons, hsplit, List.filterMap_append]
    have hperm := h.requests.append (ih fun s hs => hno s (by simp [hs]))
    refine List.Perm.trans ?_ hperm
    rw [List.append_assoc, List.append_assoc]
    refine List.Perm.append_left asked ?_
    rw [← List.append_assoc, ← List.append_assoc]
    exact List.perm_append_comm.append_right _

end Requests

/-! ## Resolutions that return -/

/-- What a fixture has to be: it is named by its URL, and its content is what was found in its
place, or else the text that was fetched. -/
structure IsFixture (c : Config) (follow : Bool) (net : Network) (v : Volume) (n : Named)
    (f : Bench.Fixture) : Prop where
  identifier : f.identifier = n.name.lossy
  content : look c v n.name = .hit f.content ∨ look c v n.name = .miss ∧
    (Http.fetch follow net n.url).result? = some (.ok f.content)

/-- All about a resolution that returns: every attempt has succeeded, every fixture that was missing
was stored, and the result and the requests are what they have to be. -/
structure Returned (c : Config) (follow : Bool) (net : Network) (v : Volume) (named : List Named)
    (log : List Attempt) (fs : List Bench.Fixture) (asked : List String) : Prop where
  stored : ∀ a ∈ log, a.result = .ok ()
  missing : ∀ n ∈ named, look c v n.name = .miss → ∃ a ∈ log, a.named = n
  fixtures : List.Forall₂ (IsFixture c follow net v) named fs
  requests : asked.Perm (named.flatMap (askedFor c follow net v))

/-- What is collected for a fixture has its name, and its text was there after the first phase or
has arrived in the second. -/
structure Collected (arrived : List (Points × String)) (s : Named × Status) (f : Bench.Fixture) :
    Prop where
  identifier : f.identifier = s.1.name.lossy
  content : s.2 = .done f.content ∨
    (∃ g, s.2 = .waiting g) ∧ arrived.lookup s.1.name = some f.content

/-- What is collected if no fixture has failed. -/
lemma collect_cases (arrived : List (Points × String)) {statuses : List (Named × Status)}
    (hno : ∀ s ∈ statuses, ∀ abort, s.2 ≠ .failed abort) :
    (∃ fs, collect arrived statuses = .ok fs ∧
      List.Forall₂ (Collected arrived) statuses fs) ∨
    collect arrived statuses = .error .endless ∧
      ∃ n f, (n, .waiting f) ∈ statuses ∧ arrived.lookup n.name = none := by
  induction statuses with
  | nil => exact .inl ⟨[], rfl, .nil⟩
  | cons s statuses ih =>
    obtain ⟨n, status⟩ := s
    have hrest := ih fun s hs => hno s (by simp [hs])
    cases status with
    | failed abort => exact absurd rfl (hno (n, .failed abort) (by simp) abort)
    | done content =>
      rcases hrest with ⟨fs, hfs, hall⟩ | ⟨hend, m, f, hmem, hnone⟩
      · refine .inl ⟨⟨n.name.lossy, content⟩ :: fs, by rw [collect, hfs]; rfl,
          .cons ⟨rfl, .inl rfl⟩ hall⟩
      · exact .inr ⟨by rw [collect, hend]; rfl, m, f, by simp [hmem], hnone⟩
    | waiting g =>
      cases hlookup : arrived.lookup n.name with
      | none => exact .inr ⟨by rw [collect, hlookup], n, g, by simp, hlookup⟩
      | some content =>
        rcases hrest with ⟨fs, hfs, hall⟩ | ⟨hend, m, f, hmem, hnone⟩
        · refine .inl ⟨⟨n.name.lossy, content⟩ :: fs, by rw [collect, hlookup, hfs]; rfl,
            .cons ⟨rfl, .inr ⟨⟨g, rfl⟩, hlookup⟩⟩ hall⟩
        · exact .inr ⟨by rw [collect, hlookup, hend]; rfl, m, f, by simp [hmem], hnone⟩

/-! ## Failures -/

/-- The text of a missing fixture arrives at a time. -/
structure Arrives (c : Config) (follow : Bool) (net : Network) (v : Volume) (n : Named) (t : Nat)
    (content : String) : Prop where
  missing : look c v n.name = .miss
  ending : (Http.fetch follow net n.url).ending = some (t, .ok content)

/-- A fixture fails at a time: what is in its place cannot be read, its fetch fails, or its text
cannot be stored. -/
inductive Fails (c : Config) (follow : Bool) (net : Network) (v : Volume) (log : List Attempt)
    (n : Named) : Nat → CacheAbort → Prop where
  | entry {abort : CacheAbort} (h : look c v n.name = .fault abort) :
    Fails c follow net v log n 0 abort
  | fetch {t : Nat} {f : FetchFault} (h : look c v n.name = .miss)
    (hend : (Http.fetch follow net n.url).ending = some (t, .error f)) :
    Fails c follow net v log n t (.ofFetch n.url f)
  | store {a : Attempt} {t : Nat} {e : StoreFault} (ha : a ∈ log) (hn : a.named = n)
    (h : Arrives c follow net v n t a.content) (he : a.result = .error e) :
    Fails c follow net v log n t (.ofStore (a.entry c) e)

/-- An attempt that fails still fails when more is recorded. -/
lemma Fails.mono {log log' : List Attempt} {n : Named} {t : Nat} {abort : CacheAbort}
    (h : Fails c follow net v log n t abort) (hsub : ∀ a ∈ log, a ∈ log') :
    Fails c follow net v log' n t abort := by
  cases h with
  | entry h => exact .entry h
  | fetch h hend => exact .fetch h hend
  | store ha hn h he => exact .store (hsub _ ha) hn h he

section Cases

variable {statuses : List (Named × Status)} {log log' : List Attempt} {asked asked' : List String}

/-- A fixture whose status is that of a failure has failed at once. -/
lemma Started.failed (h : Started c follow net v named log statuses asked) {n : Named}
    {abort : CacheAbort} (hs : (n, .failed abort) ∈ statuses) :
    Fails c follow net v log n 0 abort := by
  obtain ⟨now, asked', hbegan, hnow⟩ := h.began hs
  dsimp only at hbegan
  generalize hstatus : Status.failed abort = status at hbegan
  cases hbegan with
  | hit h => cases hstatus
  | fault h =>
    cases hstatus
    exact .entry h
  | lost h hend =>
    cases hstatus
    exact .fetch h hend
  | @tried a h ha hend =>
    rw [Attempt.outcome] at hstatus
    split at hstatus
    · cases hstatus
    · next e he =>
      cases hstatus
      exact .store (hnow a (by simp)) ha ⟨h, hend⟩ he
  | waits h hend => cases hstatus

/-- Where the second phase fails, a fixture that is awaited has failed. -/
lemma Played.fails (hstarted : Started c follow net v named log statuses asked)
    {abort : CacheAbort} (hplayed : Played c (timeline statuses) log' (.error abort) asked') :
    ∃ before n t result after, schedule statuses = before ++ (t, .ending n result) :: after ∧
      FailsAt c log' abort (before.map Prod.snd) n result ∧ 0 < t ∧
      (n, .waiting (Http.fetch follow net n.url)) ∈ statuses ∧
        Fails c follow net v log' n t abort := by
  obtain ⟨before, n, result, after, hline, hfails⟩ := hplayed.of_error rfl
  rw [timeline_eq, List.map_eq_append_iff] at hline
  obtain ⟨before, rest, hschedule, rfl, hrest⟩ := hline
  rw [List.map_eq_cons_iff] at hrest
  obtain ⟨⟨t, moment⟩, after, rfl, rfl, -⟩ := hrest
  have hmem : (t, .ending n result) ∈ schedule statuses := by rw [hschedule]; simp
  obtain ⟨f, hf, hend⟩ := mem_schedule_ending_iff.1 hmem
  obtain ⟨rfl, hlook, hlater⟩ := hstarted.waiting hf
  have ht : 0 < t := by
    rcases Nat.eq_zero_or_pos t with rfl | ht
    · exact absurd hend (hlater _)
    · exact ht
  refine ⟨before, n, t, result, after, hschedule, hfails, ht, hf, ?_⟩
  rcases hfails.reason with ⟨fault, rfl, rfl⟩ | ⟨a, ha, e, rfl, rfl, he, rfl⟩
  · exact .fetch hlook hend
  · exact .store ha rfl ⟨hlook, hend⟩ he

/-- What is collected for a fixture is what it has to be. -/
lemma fixture_of_collected (hc : Compatible c named)
    (hstarted : Started c follow net v named log statuses asked)
    (htried : Tried c follow net v named (log ++ log')) {s : Named × Status} {f : Bench.Fixture}
    (hs : s ∈ statuses) (hf : Collected (log'.map fun a => (a.named.name, a.content)) s f) :
    IsFixture c follow net v s.1 f ∧
      (look c v s.1.name = .miss → ∃ a ∈ log ++ log', a.named = s.1) := by
  have hstored : ∀ a ∈ log ++ log', a.named = s.1 → a.content = f.content →
      IsFixture c follow net v s.1 f ∧
        (look c v s.1.name = .miss → ∃ a ∈ log ++ log', a.named = s.1) := by
    intro a ha hn hcontent
    refine ⟨⟨hf.identifier, .inr ⟨hn ▸ htried.missing a ha, ?_⟩⟩, fun _ => ⟨a, ha, hn⟩⟩
    rw [← hn, ← hcontent]
    exact htried.fetched a ha
  obtain ⟨n, status⟩ := s
  rcases hf.content with hdone | ⟨-, hlookup⟩
  · obtain rfl : status = .done f.content := hdone
    rcases hstarted.done hs with hhit | ⟨a, ha, hn, hcontent, -⟩
    · exact ⟨⟨hf.identifier, .inl hhit⟩, fun hmiss => by simp [hhit] at hmiss⟩
    · exact hstored a (by simp [ha]) hn hcontent
  · obtain ⟨a, ha, hname, hcontent⟩ := lookup_arrived hlookup
    have hmem := hstarted.mem_of_status hs
    have hmem' := (htried.for_named a (by simp [ha])).1
    exact hstored a (by simp [ha]) (hc.accepted.eq_of_name hmem' hmem hname) hcontent

/-- If the second phase does not fail, then only what never comes has not arrived. -/
lemma Played.ending_eq_none {arrived : List (Points × String)}
    (hplayed : Played c (timeline statuses) log' (.ok arrived) asked') {n : Named} {f : Fetch}
    (hs : (n, .waiting f) ∈ statuses) (hnone : arrived.lookup n.name = none) : f.ending = none := by
  obtain ⟨-, hline, rfl, -⟩ := hplayed.of_ok rfl
  by_contra hend
  obtain ⟨⟨t, result⟩, hend⟩ := Option.ne_none_iff_exists'.1 hend
  obtain ⟨a, ha, rfl, -⟩ := hline n result (mem_timeline_ending_iff.2 ⟨f, t, hs, hend⟩)
  exact lookup_arrived_of_none hnone a ha rfl

/-- If no fixture has failed, then every attempt of the first phase has succeeded. -/
lemma Started.stored (h : Started c follow net v named log statuses asked)
    (hno : ∀ s ∈ statuses, ∀ abort, s.2 ≠ .failed abort) : ∀ a ∈ log, a.result = .ok () := by
  intro a ha
  have hs := (h.attempt ha).2.2
  cases hresult : a.result with
  | ok _ => rfl
  | error e =>
    rw [Attempt.outcome, hresult] at hs
    exact absurd rfl (hno _ hs _)

/-- What is returned after both phases, if neither has failed and everything has arrived. -/
lemma Played.returned {arrived : List (Points × String)} {fs : List Bench.Fixture}
    (hc : Compatible c named) (hstarted : Started c follow net v named log statuses asked)
    (hno : ∀ s ∈ statuses, ∀ abort, s.2 ≠ .failed abort)
    (hplayed : Played c (timeline statuses) log' (.ok arrived) asked')
    (hall : List.Forall₂ (Collected arrived) statuses fs) :
    Returned c follow net v named (log ++ log') fs (asked ++ asked') := by
  have htried := (hstarted.tried hc).append (hplayed.tried hc hstarted)
    fun _ ha _ hb => hplayed.named_ne hstarted ha hb
  obtain ⟨hlog', -, rfl, rfl⟩ := hplayed.of_ok rfl
  have hcollected := (List.forall₂_and_left _ _).2 ⟨fun s hs => hs, hall⟩
  have hone : List.Forall₂ (fun n f => IsFixture c follow net v n f ∧
      (look c v n.name = .miss → ∃ a ∈ log ++ log', a.named = n)) named fs := by
    rw [← hstarted.names_of_not_failed hno, List.forall₂_map_left_iff]
    exact hcollected.imp fun s f hs => fixture_of_collected hc hstarted htried hs.1 hs.2
  refine ⟨List.forall_mem_append.2 ⟨hstarted.stored hno, fun a ha => (hlog' a ha).1⟩,
    fun n hn => ?_, hone.imp fun n f h => h.1, hstarted.requests hno⟩
  obtain ⟨i, hi, rfl⟩ := List.getElem_of_mem hn
  exact (hone.get hi (hone.length_eq ▸ hi)).2

/-- **Where the two phases lead**: all is returned, or an answer is awaited that never comes, or a
fixture has failed.

**Proof sketch.** If the first phase does not fail, all fixtures are done or awaited. If the second
does not fail either, every text that is awaited arrives, except for those whose fetches do not
end. -/
lemma Phases.cases {r : Except CacheAbort (List Bench.Fixture)} (hc : Compatible c named)
    (h : Phases c follow net v named log r asked) :
    (∃ fs, r = .ok fs ∧ Returned c follow net v named log fs asked) ∨
    (r = .error .endless ∧ ∃ n ∈ named, look c v n.name = .miss ∧
      (Http.fetch follow net n.url).ending = none) ∨
    ∃ abort n t, r = .error abort ∧ n ∈ named ∧ Fails c follow net v log n t abort := by
  cases h with
  | @first log statuses asked abort hstarted hfailure =>
    obtain ⟨n, hn⟩ := exists_of_firstFailure hfailure
    exact .inr (.inr ⟨abort, n, 0, rfl, hstarted.mem_of_status hn, hstarted.failed hn⟩)
  | @second log log' statuses asked asked' abort hstarted hfailure hplayed =>
    obtain ⟨-, n, t, -, -, -, -, -, hn, hfails⟩ := hplayed.fails hstarted
    exact .inr (.inr ⟨abort, n, t, rfl, hstarted.mem_of_status hn,
      hfails.mono fun a ha => by simp [ha]⟩)
  | @both log log' statuses asked asked' arrived hstarted hfailure hplayed =>
    have hno := firstFailure_eq_none_iff.1 hfailure
    rcases collect_cases arrived hno with ⟨fs, hfs, hall⟩ | ⟨hend, n, f, hs, hnone⟩
    · exact .inl ⟨fs, hfs, hplayed.returned hc hstarted hno hall⟩
    · obtain ⟨rfl, hlook, -⟩ := hstarted.waiting hs
      exact .inr (.inl ⟨hend, n, hstarted.mem_of_status hs, hlook,
        hplayed.ending_eq_none hs hnone⟩)

end Cases

/-! ## When a resolution returns -/

/-- Whether nothing was found that could be read. -/
def Look.isMiss : Look → Bool
  | .miss => true
  | _ => false

/-- The fixtures that are missing on a volume. -/
def missing (c : Config) (v : Volume) (named : List Named) : List Named :=
  named.filter fun n => (look c v n.name).isMiss

/-- A URL is missing exactly if it is named and the lookup of its entry misses. -/
lemma mem_missing_iff {n : Named} :
    n ∈ missing c v named ↔ n ∈ named ∧ look c v n.name = .miss := by
  rw [missing, List.mem_filter]
  cases look c v n.name <;> simp [Look.isMiss]

/-- Nothing keeps fixtures from being resolved: each is found, or its text can be fetched and
nothing is in the way of its entry. -/
structure Resolvable (c : Config) (follow : Bool) (net : Network) (v : Volume)
    (named : List Named) :
    Prop where
  each : ∀ n ∈ named, (∃ content, look c v n.name = .hit content) ∨ look c v n.name = .miss ∧
    ∃ content, (Http.fetch follow net n.url).result? = some (.ok content) ∧
      Storable v (entryPath c n.name) (Text.Utf8.encode content)
  alone : ∀ m ∈ missing c v named, ∀ n ∈ missing c v named, m.name.lossy = "." → m = n

/-- Fixtures that are what they have to be can be resolved if nothing is in the way of those that
are missing. -/
lemma resolvable_of_fixtures {fs : List Bench.Fixture} {log : List Attempt}
    (h : List.Forall₂ (IsFixture c follow net v) named fs)
    (hlog : ∀ n ∈ named, look c v n.name = .miss → ∃ a ∈ log, a.named = n ∧
      (Http.fetch follow net n.url).result? = some (.ok a.content))
    (hclear : Clear c v log) :
    Resolvable c follow net v named := by
  refine ⟨fun n hn => ?_, fun m hm n hn => ?_⟩
  · obtain ⟨i, hi, rfl⟩ := List.getElem_of_mem hn
    rcases (h.get hi (h.length_eq ▸ hi)).content with hhit | ⟨hmiss, -⟩
    · exact .inl ⟨_, hhit⟩
    · obtain ⟨a, ha, hname, hfetch⟩ := hlog _ hn hmiss
      refine .inr ⟨hmiss, a.content, hfetch, ?_⟩
      rw [← hname]
      exact hclear.storable a ha
  · obtain ⟨hm, hmiss⟩ := mem_missing_iff.1 hm
    obtain ⟨hn, hmiss'⟩ := mem_missing_iff.1 hn
    obtain ⟨a, ha, rfl, -⟩ := hlog m hm hmiss
    obtain ⟨b, hb, rfl, -⟩ := hlog n hn hmiss'
    exact hclear.alone a ha b hb

/-- Nothing is in the way of attempts to store what was missing and has arrived. -/
lemma Resolvable.clear {log : List Attempt} (h : Resolvable c follow net v named)
    (htried : Tried c follow net v named log) : Clear c v log := by
  have hmissing : ∀ a ∈ log, a.named ∈ missing c v named :=
    fun a ha => mem_missing_iff.2 ⟨(htried.for_named a ha).1, htried.missing a ha⟩
  refine ⟨fun a ha => ?_, fun a ha b hb => h.alone _ (hmissing a ha) _ (hmissing b hb)⟩
  rcases h.each _ (htried.for_named a ha).1 with ⟨content, hhit⟩ | ⟨-, content, hfetch, hs⟩
  · simp [htried.missing a ha] at hhit
  · rw [htried.fetched a ha] at hfetch
    cases hfetch
    exact hs

section Returns

variable {p : Progress} {r : Except CacheAbort (List Bench.Fixture)} {fs : List Bench.Fixture}

/-- What a resolution does to the volume, whatever its result. -/
lemma stores_of_resolveNamed (hc : Compatible c named) (hv : v.WellFormed)
    (h : resolveNamed c follow net (.ofVolume v) named = (p, r)) :
    ∃ log, p.volume = Change.applyAll v p.changes ∧ Stores c v log p.changes ∧
      Tried c follow net v named log ∧ Phases c follow net v named log r (requested p.events) := by
  obtain ⟨log, changes, es, r', hrun, hstores, hphases⟩ := resolveNamed_phases hc hv follow net
  rw [hrun] at h
  cases h
  exact ⟨log, rfl, hstores, hphases.tried hc, hphases⟩

/-- **All about a resolution that returns.** -/
lemma returned_of_resolveNamed (hc : Compatible c named) (hv : v.WellFormed)
    (h : resolveNamed c follow net (.ofVolume v) named = (p, .ok fs)) :
    ∃ log, p.volume = Change.applyAll v p.changes ∧ Stores c v log p.changes ∧
      Tried c follow net v named log ∧
      Returned c follow net v named log fs (requested p.events) := by
  obtain ⟨log, hvolume, hstores, htried, hphases⟩ := stores_of_resolveNamed hc hv h
  rcases hphases.cases hc with ⟨fs', hfs, hreturned⟩ | ⟨hend, -⟩ | ⟨abort, n, t, habort, -⟩
  · cases hfs
    exact ⟨log, hvolume, hstores, htried, hreturned⟩
  · cases hend
  · cases habort

/-- **When a resolution returns**: exactly if nothing keeps its fixtures from being resolved. -/
lemma resolveNamed_returns_iff (hc : Compatible c named) (hv : v.WellFormed) :
    (∃ p fs, resolveNamed c follow net (.ofVolume v) named = (p, .ok fs)) ↔
      Resolvable c follow net v named := by
  constructor
  · rintro ⟨p, fs, h⟩
    obtain ⟨log, -, hstores, htried, hreturned⟩ := returned_of_resolveNamed hc hv h
    refine resolvable_of_fixtures hreturned.fixtures (fun n hn hmiss => ?_)
      (hstores.clear hc hv htried.for_named htried.nodup hreturned.stored)
    obtain ⟨a, ha, rfl⟩ := hreturned.missing n hn hmiss
    exact ⟨a, ha, rfl, htried.fetched a ha⟩
  · intro h
    obtain ⟨log, changes, es, r, hrun, hstores, hphases⟩ := resolveNamed_phases hc hv follow net
    have htried := hphases.tried hc
    have hok : ∀ a ∈ log, a.result = .ok () :=
      hstores.result_ok hc hv htried.for_named htried.nodup (h.clear htried)
    rcases hphases.cases hc with ⟨fs, rfl, -⟩ | ⟨-, n, hn, hmiss, hend⟩ | ⟨abort, n, t, -,
      hn, hfails⟩
    · exact ⟨_, fs, hrun⟩
    · -- a fetch that gives a text ends
      rcases h.each n hn with ⟨content, hhit⟩ | ⟨-, content, hresult, -⟩
      · simp [hhit] at hmiss
      · simp [Fetch.result?, hend] at hresult
    · cases hfails with
      | entry hfault =>
        rcases h.each n hn with ⟨content, hhit⟩ | ⟨hmiss, -⟩
        · simp [hhit] at hfault
        · simp [hmiss] at hfault
      | fetch hmiss hend =>
        rcases h.each n hn with ⟨content, hhit⟩ | ⟨-, content, hresult, -⟩
        · simp [hhit] at hmiss
        · simp [Fetch.result?, hend] at hresult
      | store ha _ _ he =>
        rw [hok _ ha] at he
        cases he

end Returns

/-! ## Uniqueness -/

/-- What a fixture has to be is determined. -/
lemma IsFixture.unique {n : Named} {f g : Bench.Fixture} (hf : IsFixture c follow net v n f)
    (hg : IsFixture c follow net v n g) : f = g := by
  have hidentifier : f.identifier = g.identifier := hf.identifier.trans hg.identifier.symm
  have hcontent : f.content = g.content := by
    rcases hf.content with hf | ⟨hf, hf'⟩
    · rcases hg.content with hg | ⟨hg, -⟩
      · simpa [hf] using hg
      · simp [hf] at hg
    · rcases hg.content with hg | ⟨-, hg'⟩
      · simp [hf] at hg
      · simpa [hf'] using hg'
  obtain ⟨identifier, content⟩ := f
  obtain ⟨identifier', content'⟩ := g
  rw [Bench.Fixture.mk.injEq]
  exact ⟨hidentifier, hcontent⟩

/-- The fixtures of a resolution are determined by the volume and the net. -/
lemma fixtures_unique {fs fs' : List Bench.Fixture}
    (h : List.Forall₂ (IsFixture c follow net v) named fs)
    (h' : List.Forall₂ (IsFixture c follow net v) named fs') : fs = fs' := by
  have hunique : Relator.RightUnique (IsFixture c follow net v) := fun _ _ _ => IsFixture.unique
  exact List.right_unique_forall₂' hunique h h'

end ParseBench.Fixture
