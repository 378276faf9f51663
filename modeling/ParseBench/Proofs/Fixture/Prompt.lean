import ParseBench.Proofs.Fixture.Job
import ParseBench.Proofs.Fixture.Run

set_option relaxedAutoImplicit false
set_option autoImplicit false

/-!
# The prompt schedule

Along the prompt schedule each task goes on alone from where it was started, or from where its
answer has come, until it is done or awaits the next answer. The tasks that await answers follow a
line of moments, each with the position of its task.

## Main definitions

* `ParseBench.Fixture.Stage.steps` — several steps in a row of one task.
* `ParseBench.Fixture.Status.result` — how far a task has come with a status.
* `ParseBench.Fixture.Resolution.Follows` — the tasks of a resolution await what is on a timeline.

## Main results

* `ParseBench.Fixture.Stage.steps_start` — the turns of a task at its start.
* `ParseBench.Fixture.Resolution.play_starts` — the turns of all tasks at their start.
* `ParseBench.Fixture.Resolution.play_timeline` — the turns of the tasks that await answers.
-/

namespace ParseBench.Fixture

open ParseBench.Bench (Config)
open ParseBench.Files
open ParseBench.Http (Fetch FetchFault Network)
open ParseBench.Text (Points)

variable {c : Config} {follow : Bool} {net : Network} {n : Named} {w : Volume}
  {changes : List Change} {events : List Event}

/-! ## One task that goes on alone -/

namespace Stage

/-- Several steps in a row of a task, each with a whole piece, up to a failure. -/
def steps (c : Config) (follow : Bool) (net : Network) (n : Named) :
    Nat → Progress → Stage → Progress × Except CacheAbort Stage
  | 0, p, stage => (p, .ok stage)
  | count + 1, p, stage =>
    match stage.step c follow net n none p with
    | (p, .ok next) => steps c follow net n count p next
    | (p, .error abort) => (p, .error abort)

/-- Steps in a row are taken one after the other. -/
lemma steps_add (first rest : Nat) (p : Progress) (stage : Stage) :
    steps c follow net n (first + rest) p stage =
      match steps c follow net n first p stage with
      | (p, .ok next) => steps c follow net n rest p next
      | (p, .error abort) => (p, .error abort) := by
  induction first generalizing p stage with
  | zero => rw [Nat.zero_add, steps]
  | succ first ih =>
    rw [Nat.succ_add, steps, steps]
    split
    · exact ih _ _
    · rfl

/-- A task that is done stays done. -/
lemma steps_done (count : Nat) (p : Progress) (content : String) :
    steps c follow net n count p (.done content) = (p, .ok (.done content)) := by
  induction count with
  | zero => rfl
  | succ count ih =>
    rw [steps, step]
    exact ih

/-- The requests of a fetch, one after the other. -/
lemma steps_requests (urls rest : List String) (ending : Option (Except FetchFault String)) :
    steps c follow net n urls.length (.quiet w changes events) (.fetching (urls ++ rest) ending) =
      (.quiet w changes (events ++ urls.map .request), .ok (.fetching rest ending)) := by
  induction urls generalizing events with
  | nil => simp [steps]
  | cons url urls ih =>
    rw [List.length_cons, steps, List.cons_append, step, Progress.quiet_note]
    dsimp only
    rw [ih, List.map_cons, List.append_assoc, List.singleton_append]

/-- A step of the worker that stores a text. -/
lemma step_work {content : String} {piece : Option Nat} {job next : Job} {steps : List Change}
    {p : Progress} (hjob : ∀ result, job ≠ .ended result)
    (hstep : job.step p.volume (entryPath c n.name) (Text.Utf8.encode content) piece =
      (steps, next)) :
    (storing content job).step c follow net n piece p =
      (p.take steps, .ok (.storing content next)) := by
  rw [step]
  · rw [hstep]
  · exact hjob (.ok ())
  · exact fun fault => hjob (.error fault)

/-- The same without a log file. -/
lemma step_storing {content : String} {piece : Option Nat} {job next : Job} {steps : List Change}
    (hjob : ∀ result, job ≠ .ended result)
    (hstep : job.step w (entryPath c n.name) (Text.Utf8.encode content) piece = (steps, next)) :
    (storing content job).step c follow net n piece (.quiet w changes events) =
      (.quiet (Change.applyAll w steps) (changes ++ steps) events, .ok (.storing content next)) := by
  have hwork : (storing content job).step c follow net n piece (.quiet w changes events) =
      ((Progress.quiet w changes events).take steps, .ok (.storing content next)) :=
    step_work hjob hstep
  rw [hwork, Progress.quiet_take]

/-- What is announced once a worker is done with a text, and how its task goes on. -/
def afterStore (c : Config) (n : Named) (content : String) :
    Except StoreFault Unit → List Event × Except CacheAbort Stage
  | .ok () => ([.log ⟨.cache, .debug, "Cached " ++ (entryPath c n.name).text ++
      " (" ++ content.length.repr ++ " bytes)"⟩], .ok (.done content))
  | .error fault => ([], .error (.ofStore (entryPath c n.name) fault))

/-- A task whose worker is done. -/
lemma steps_ended (count : Nat) (content : String) (result : Except StoreFault Unit) :
    steps c follow net n (count + 1) (.quiet w changes events) (.storing content (.ended result)) =
      (.quiet w changes (events ++ (afterStore c n content result).1),
        (afterStore c n content result).2) := by
  cases result with
  | ok _ =>
    rw [steps, step, Progress.quiet_note]
    exact steps_done count _ content
  | error fault =>
    rw [steps, step, afterStore, List.append_nil]

/-- **A worker that stores a text**, and its task after it. -/
lemma steps_storing (follow : Bool) (net : Network) (changes : List Change) (events : List Event)
    {content : String} {job : Job} {made : List Change} {result : Except StoreFault Unit}
    {count : Nat}
    (h : Job.Does (entryPath c n.name) (Text.Utf8.encode content) w job made result)
    (hcount : job.rank < count) :
    steps c follow net n count (.quiet w changes events) (.storing content job) =
      (.quiet (Change.applyAll w made) (changes ++ made)
          (events ++ (afterStore c n content result).1),
        (afterStore c n content result).2) := by
  induction h generalizing count changes with
  | ended v result =>
    obtain ⟨count, rfl⟩ := Nat.exists_eq_succ_of_ne_zero (n := count) (by omega)
    rw [steps_ended, Change.applyAll_nil, List.append_nil]
  | @step v job next first rest result hstep hrest ih =>
    by_cases hjob : ∀ result, job ≠ .ended result
    · have hlt := Job.rank_step_lt v (entryPath c n.name) (Text.Utf8.encode content) hjob
      rw [hstep] at hlt
      dsimp only at hlt
      obtain ⟨count, rfl⟩ := Nat.exists_eq_succ_of_ne_zero (n := count) (by omega)
      rw [steps, step_storing hjob hstep]
      dsimp only
      rw [ih _ (by omega), Change.applyAll_append, List.append_assoc]
    · push Not at hjob
      obtain ⟨result', rfl⟩ := hjob
      cases hstep
      exact ih changes hcount

/-- **A text that has arrived is attempted to be stored.** -/
lemma steps_arrived (c : Config) (follow : Bool) (net : Network) (n : Named) (w : Volume)
    (changes : List Change) (events : List Event) (content : String) {count : Nat}
    (hcount : storeTurns c n ≤ count) :
    ∃ (a : Attempt) (made : List Change) (es : List Event), a.named = n ∧ a.content = content ∧
      store w (a.entry c) a.data = (made, a.result) ∧ requested es = [] ∧
      steps c follow net n count (.quiet w changes events) (.fetching [] (some (.ok content))) =
        (.quiet (Change.applyAll w made) (changes ++ made) (events ++ es),
          (a.outcome c).map .done) := by
  have hdoes := Job.start_does w (entryPath c n.name) (Text.Utf8.encode content)
  rw [storeTurns] at hcount
  obtain ⟨count, rfl⟩ := Nat.exists_eq_succ_of_ne_zero (n := count) (by omega)
  have hrank : (Job.start (entryPath c n.name)).rank < count := by omega
  have hsteps := steps_storing follow net changes events hdoes hrank
  generalize hs : store w (entryPath c n.name) (Text.Utf8.encode content) = s at hsteps
  obtain ⟨made, result⟩ := s
  refine ⟨⟨n, content, result⟩, made, (afterStore c n content result).1, rfl, rfl, hs, ?_, ?_⟩
  · cases result <;> rfl
  · rw [steps, step]
    dsimp only
    rw [hsteps]
    cases result <;> rfl

/-- A fetch that has failed. -/
lemma steps_lost (fault : FetchFault) (count : Nat) (p : Progress) :
    steps c follow net n (count + 1) p (.fetching [] (some (.error fault))) =
      (p, .error (.ofFetch n.url fault)) := by
  rw [steps, step]

/-- The requests of a fetch that need not be awaited come first. -/
lemma requests_split (follow : Bool) (net : Network) (url : Points) :
    (Http.fetch follow net url).requests =
      (Http.fetch follow net url).requests.filter (fun q => q.1 == 0) ++
        (Http.fetch follow net url).requests.filter fun q => q.1 != 0 := by
  have hsorted := Http.fetch_pairwise follow net url
  generalize (Http.fetch follow net url).requests = requests at hsorted
  induction hsorted with
  | nil => rfl
  | @cons q requests hlater _ ih =>
    by_cases hq : q.1 = 0
    · rw [List.filter_cons_of_pos (by simpa using hq), List.filter_cons_of_neg (by simpa using hq),
        List.cons_append, ← ih]
    · have hnone : requests.filter (fun q => q.1 == 0) = [] := by
        rw [List.filter_eq_nil_iff]
        intro q' hq'
        have := hlater q' hq'
        simp only [beq_iff_eq]
        omega
      rw [hnone, List.nil_append] at ih
      rw [List.filter_cons_of_neg (by simpa using hq), List.filter_cons_of_pos (by simpa using hq),
        hnone, ← ih, List.nil_append]

/-- The URLs that a fetch requests without awaiting anything. -/
def urlsAtOnce (f : Fetch) : List String := (f.requests.filter fun q => q.1 == 0).map Prod.snd

/-- The URLs that a fetch requests after it has awaited something. -/
def urlsLater (f : Fetch) : List String := (f.requests.filter fun q => q.1 != 0).map Prod.snd

/-- The requests of a fetch that need not be awaited are made at its start. -/
lemma steps_atOnce (follow : Bool) (net : Network) (count : Nat) :
    steps c follow net n ((urlsAtOnce (Http.fetch follow net n.url)).length + count)
        (.quiet w changes events) (.ofFetch (Http.fetch follow net n.url)) =
      steps c follow net n count
        (.quiet w changes (events ++ (urlsAtOnce (Http.fetch follow net n.url)).map .request))
        (.fetching (urlsLater (Http.fetch follow net n.url))
          ((Http.fetch follow net n.url).ending.map Prod.snd)) := by
  have hurls : (Http.fetch follow net n.url).requests.map Prod.snd =
      urlsAtOnce (Http.fetch follow net n.url) ++ urlsLater (Http.fetch follow net n.url) := by
    rw [urlsAtOnce, urlsLater, ← List.map_append, ← requests_split]
  rw [ofFetch]
  generalize (Http.fetch follow net n.url).ending.map Prod.snd = ending
  rw [hurls, steps_add, steps_requests]

/-- No request is left of a fetch that need not be awaited. -/
lemma urlsLater_eq_nil {r : Except FetchFault String}
    (hend : (Http.fetch follow net n.url).ending = some (0, r)) :
    urlsLater (Http.fetch follow net n.url) = [] := by
  rw [urlsLater, List.map_eq_nil_iff, List.filter_eq_nil_iff]
  intro q hq
  have := Http.fetch_times hend q hq
  simpa using this

/-- The URLs that are asked for at once. -/
lemma requested_request (urls : List String) : requested (urls.map .request) = urls := by
  rw [requested, List.filterMap_map]
  exact List.filterMap_some

end Stage

/-- The stage that a task is in with a status. -/
def Status.stage : Status → Stage
  | .done content => .done content
  | .failed _ => .dropped
  | .waiting f => .fetching (Stage.urlsLater f) (f.ending.map Prod.snd)

/-- What the first turns of a task come to with a status. -/
def Status.result : Status → Except CacheAbort Stage
  | .failed abort => .error abort
  | status => .ok status.stage

/-- The result of an attempt as that of a task. -/
lemma result_outcome (c : Config) (a : Attempt) :
    (Status.ofResult (a.outcome c)).result = (a.outcome c).map .done := by
  cases a.outcome c <;> rfl

namespace Stage

/-- How many turns a task that has missed its entry takes at its start. -/
def fetchCount (c : Config) (follow : Bool) (net : Network) (n : Named) : Nat :=
  (urlsAtOnce (Http.fetch follow net n.url)).length +
    match (Http.fetch follow net n.url).ending with
    | some (0, _) => storeTurns c n
    | _ => 0

/-- The turns of a task that has missed its entry, until it is done or awaits an answer. -/
lemma steps_missed (follow : Bool) (net : Network) (hlook : look c w n.name = .miss)
    (changes : List Change) (events : List Event) :
    ∃ status log made es, steps c follow net n (fetchCount c follow net n)
        (.quiet w changes events) (.ofFetch (Http.fetch follow net n.url)) =
        (.quiet (Change.applyAll w made) (changes ++ made) (events ++ es), status.result) ∧
      Stores c w log made ∧ Began c follow net w n status log (requested es) := by
  have hasked := requested_request (urlsAtOnce (Http.fetch follow net n.url))
  rw [fetchCount, steps_atOnce]
  by_cases hend : ∃ r, (Http.fetch follow net n.url).ending = some (0, r)
  · obtain ⟨r, hend⟩ := hend
    rw [urlsLater_eq_nil hend, hend]
    rw [urlsAtOnce, requests_atOnce hend] at hasked
    rw [urlsAtOnce, requests_atOnce hend]
    dsimp only [Option.map_some]
    cases r with
    | error f =>
      refine ⟨.failed (.ofFetch n.url f), [], [],
        (Http.fetch follow net n.url).urls.map .request, ?_, .nil w, ?_⟩
      · rw [storeTurns, List.append_nil]
        exact steps_lost f _ _
      · rw [hasked]
        exact .lost hlook hend
    | ok content =>
      obtain ⟨a, made, es, rfl, rfl, hstore, hquiet, hsteps⟩ :=
        steps_arrived c follow net n w changes
          (events ++ (Http.fetch follow net n.url).urls.map .request) content le_rfl
      refine ⟨.ofResult (a.outcome c), [a], made,
        (Http.fetch follow net a.named.url).urls.map .request ++ es, ?_, .single hstore, ?_⟩
      · exact hsteps.trans (by rw [List.append_assoc, result_outcome])
      · rw [requested_append, hasked, hquiet, List.append_nil]
        exact .tried hlook rfl hend
  · have hcount : (match (Http.fetch follow net n.url).ending with
        | some (0, _) => storeTurns c n
        | _ => 0) = 0 := by
      split
      · next r hr => exact absurd ⟨r, hr⟩ hend
      · rfl
    rw [hcount, steps]
    refine ⟨.waiting (Http.fetch follow net n.url), [], [],
      (urlsAtOnce (Http.fetch follow net n.url)).map .request, ?_, .nil w, ?_⟩
    · rw [List.append_nil]
      rfl
    · rw [hasked]
      exact .waits hlook fun r hr => hend ⟨r, hr⟩

/-- **The turns of a task at its start.** -/
lemma steps_start (c : Config) (follow : Bool) (net : Network) (n : Named) (w : Volume)
    (changes : List Change) (events : List Event) :
    ∃ status log made es, steps c follow net n (fetchCount c follow net n + 2)
        (.quiet w changes events) .looking =
        (.quiet (Change.applyAll w made) (changes ++ made) (events ++ es), status.result) ∧
      Stores c w log made ∧ Began c follow net w n status log (requested es) := by
  cases hlook : look c w n.name with
  | hit content =>
    refine ⟨.done content, [], [], announce c ("Found cached file: " ++ n.name.lossy)
      ("Found cached file: " ++ n.name.lossy), ?_, .nil w, ?_⟩
    · rw [steps, step, Progress.quiet_volume, hlook]
      dsimp only
      rw [steps, step, Progress.quiet_note, List.append_nil]
      exact steps_done _ _ content
    · rw [requested_announce]
      exact .hit hlook
  | fault abort =>
    refine ⟨.failed abort, [], [], [], ?_, .nil w, .fault hlook⟩
    rw [steps, step, Progress.quiet_volume, hlook]
    dsimp only
    rw [steps, step, List.append_nil, List.append_nil]
    rfl
  | miss =>
    obtain ⟨status, log, made, es, hsteps, hstores, hbegan⟩ := steps_missed follow net hlook
      changes (events ++ announce c ("Downloading: " ++ n.url.lossy)
        ("Downloading: " ++ n.name.lossy))
    refine ⟨status, log, made, announce c ("Downloading: " ++ n.url.lossy)
      ("Downloading: " ++ n.name.lossy) ++ es, ?_, hstores, ?_⟩
    · rw [steps, step, Progress.quiet_volume, hlook]
      dsimp only
      rw [steps, step, Progress.quiet_note]
      dsimp only
      rw [hsteps, List.append_assoc]
    · rwa [requested_append, requested_announce, List.nil_append]

end Stage

/-! ## Turns of one task among others -/

namespace Resolution

variable {r : Resolution} {position : Nat} {stage next : Stage} {p : Progress} {abort : CacheAbort}

/-- Schedules are followed one after the other. -/
lemma play_append (r : Resolution) (first rest : List Turn) :
    r.play c follow net (first ++ rest) = (r.play c follow net first).play c follow net rest :=
  List.foldl_append

/-- A turn of a task that goes on. -/
lemma turn_of_ok {piece : Option Nat} (htask : r.tasks[position]? = some (n, stage))
    (hstep : stage.step c follow net n piece r.progress = (p, .ok next)) :
    r.turn c follow net (.task position piece) =
      { r with progress := p, tasks := r.tasks.set position (n, next) } := by
  rw [turn, htask]
  dsimp only
  rw [hstep]

/-- A turn of a task that fails. -/
lemma turn_of_error {piece : Option Nat} (htask : r.tasks[position]? = some (n, stage))
    (hstep : stage.step c follow net n piece r.progress = (p, .error abort)) :
    r.turn c follow net (.task position piece) =
      fail abort { r with progress := p, tasks := r.tasks.set position (n, .dropped) } := by
  rw [turn, htask]
  dsimp only
  rw [hstep]

/-- A task that has failed takes no more turns. -/
lemma play_dropped (htask : r.tasks[position]? = some (n, .dropped)) (count : Nat) :
    r.play c follow net (turnsOf position count) = r := by
  induction count with
  | zero => rfl
  | succ count ih =>
    obtain ⟨hlt, hget⟩ := List.getElem?_eq_some_iff.1 htask
    have hstay : r.turn c follow net (.task position none) = r := by
      have hturn : r.turn c follow net (.task position none) =
          { r with progress := r.progress, tasks := r.tasks.set position (n, .dropped) } :=
        turn_of_ok htask rfl
      rw [hturn, ← hget, List.set_getElem_self]
    rw [turnsOf, List.replicate_succ, play, List.foldl_cons, hstay]
    exact ih

/-- A failure that stops everything gives up all tasks. -/
lemma fail_of_stops (h : abort.stopsAtOnce = true) :
    fail abort r = { r.giveUp with failure := some abort } :=
  if_pos h

/-- Any other failure is the result unless there is an earlier one. -/
lemma fail_of_go (h : abort.stopsAtOnce = false) :
    fail abort r = { r with failure := r.failure.or (some abort) } :=
  if_neg (by simp [h])

/-- A task that has failed stays so when the others are given up. -/
lemma fail_tasks_dropped (abort : CacheAbort) (htask : r.tasks[position]? = some (n, .dropped)) :
    (fail abort r).tasks[position]? = some (n, .dropped) := by
  rw [fail]
  split_ifs
  · simp [giveUp, htask, Stage.giveUp]
  · exact htask

/-- **Turns in a row of a task that does not fail.** -/
lemma play_turnsOf_ok {count : Nat} (htask : r.tasks[position]? = some (n, stage))
    (hsteps : stage.steps c follow net n count r.progress = (p, .ok next)) :
    r.play c follow net (turnsOf position count) =
      { r with progress := p, tasks := r.tasks.set position (n, next) } := by
  induction count generalizing r stage with
  | zero =>
    cases hsteps
    obtain ⟨hlt, hget⟩ := List.getElem?_eq_some_iff.1 htask
    rw [← hget, List.set_getElem_self]
    rfl
  | succ count ih =>
    rw [turnsOf, List.replicate_succ, play, List.foldl_cons]
    rw [Stage.steps] at hsteps
    split at hsteps
    · next p' next' hstep =>
      have hlt := (List.getElem?_eq_some_iff.1 htask).1
      rw [turn_of_ok htask hstep]
      have hrest := ih (r := { r with
        progress := p', tasks := r.tasks.set position (n, next') }) (by simp [hlt]) hsteps
      rw [play, turnsOf] at hrest
      rw [hrest, List.set_set]
    · cases hsteps

/-- **Turns in a row of a task that fails.** -/
lemma play_turnsOf_error {count : Nat} (htask : r.tasks[position]? = some (n, stage))
    (hsteps : stage.steps c follow net n count r.progress = (p, .error abort)) :
    r.play c follow net (turnsOf position count) =
      fail abort { r with progress := p, tasks := r.tasks.set position (n, .dropped) } := by
  induction count generalizing r stage with
  | zero => cases hsteps
  | succ count ih =>
    have hlt := (List.getElem?_eq_some_iff.1 htask).1
    rw [turnsOf, List.replicate_succ, play, List.foldl_cons]
    rw [Stage.steps] at hsteps
    split at hsteps
    · next p' next' hstep =>
      rw [turn_of_ok htask hstep]
      have hrest := ih (r := { r with
        progress := p', tasks := r.tasks.set position (n, next') }) (by simp [hlt]) hsteps
      rw [play, turnsOf] at hrest
      rw [hrest, List.set_set]
    · next p' abort' hstep =>
      cases hsteps
      rw [turn_of_error htask hstep]
      exact play_dropped (n := n) (fail_tasks_dropped abort (by simp [hlt])) count

/-! ## Tasks that are given up -/

/-- No task has anything left to be done. -/
def Idle (r : Resolution) : Prop :=
  ∀ t ∈ r.tasks, t.2 = .dropped ∨ ∃ content, t.2 = .done content

/-- The stage of a task of which no worker is at work. -/
def CalmStage (stage : Stage) : Prop :=
  ∀ content job, stage ≠ .storing content job ∧ stage ≠ .abandoned content job

/-- Once all tasks are given up of which no worker is at work, nothing is left to be done. -/
lemma idle_giveUp (h : ∀ t ∈ r.tasks, CalmStage t.2) : Idle r.giveUp := by
  intro t ht
  obtain ⟨⟨n, stage⟩, hmem, rfl⟩ := List.mem_map.1 ht
  have hcalm := h _ hmem
  cases stage with
  | looking | looked | fetching | dropped => exact .inl rfl
  | storing content job => exact absurd rfl (hcalm content job).1
  | abandoned content job => exact absurd rfl (hcalm content job).2
  | done content => exact .inr ⟨content, rfl⟩

/-- Where nothing is left to be done, a turn does nothing. -/
lemma Idle.turn_eq (h : Idle r) (turn : Turn) : r.turn c follow net turn = r := by
  cases turn with
  | giveUp =>
    have htasks : r.giveUp.tasks = r.tasks := by
      refine (List.map_congr_left fun t ht => ?_).trans (List.map_id _)
      obtain ⟨n, stage⟩ := t
      rcases h _ ht with hdropped | ⟨content, hdone⟩
      · obtain rfl : stage = .dropped := hdropped
        rfl
      · obtain rfl : stage = .done content := hdone
        rfl
    have hsame : r.giveUp = r := congrArg (Resolution.mk r.progress · r.failure) htasks
    rw [Resolution.turn, hsame, ite_self]
  | task position piece =>
    cases htask : r.tasks[position]? with
    | none => rw [Resolution.turn, htask]
    | some t =>
      obtain ⟨n, stage⟩ := t
      obtain ⟨hlt, hget⟩ := List.getElem?_eq_some_iff.1 htask
      have hstep : stage.step c follow net n piece r.progress = (r.progress, .ok stage) := by
        rcases h _ (List.mem_of_getElem? htask) with hdropped | ⟨content, hdone⟩
        · obtain rfl : stage = .dropped := hdropped
          rfl
        · obtain rfl : stage = .done content := hdone
          rfl
      rw [turn_of_ok htask hstep, ← hget, List.set_getElem_self]

/-- **Where nothing is left to be done, nothing is done.** -/
lemma Idle.play_eq (h : Idle r) (turns : List Turn) : r.play c follow net turns = r := by
  induction turns with
  | nil => rfl
  | cons turn turns ih =>
    rw [play, List.foldl_cons, h.turn_eq]
    exact ih

/-! ## The start of all tasks -/

/-- The turns of a task at its start, as so many in a row. -/
lemma startTurns_eq (c : Config) (follow : Bool) (net : Network) (position : Nat) (n : Named) :
    startTurns c follow net position n = turnsOf position (Stage.fetchCount c follow net n + 2) := by
  have hlength : ((Http.fetch follow net n.url).requests.filter fun q => q.1 == 0).length =
      (Stage.urlsAtOnce (Http.fetch follow net n.url)).length := by
    rw [Stage.urlsAtOnce, List.length_map]
  have hcount : ∀ k : Nat, Stage.fetchCount c follow net n = (Stage.urlsAtOnce
      (Http.fetch follow net n.url)).length + k → turnsOf position (2 +
        ((Http.fetch follow net n.url).requests.filter fun q => q.1 == 0).length) ++
      turnsOf position k = turnsOf position (Stage.fetchCount c follow net n + 2) := by
    intro k hk
    rw [turnsOf, turnsOf, List.replicate_append_replicate, turnsOf, hk, hlength]
    congr 1
    omega
  rw [startTurns]
  dsimp only
  split
  · next r hend =>
    refine hcount _ ?_
    rw [Stage.fetchCount, hend]
    rfl
  · next hend =>
    refine hcount 0 ?_
    rw [Stage.fetchCount]
    split
    · next r hr => exact absurd hr (hend r)
    · rfl

/-- The tasks of a resolution that are started, those before them having come to stages. -/
def starting (w : Volume) (changes : List Change) (events : List Event)
    (before : List (Named × Stage)) (rest : List Named) (failure : Option CacheAbort) : Resolution :=
  ⟨.quiet w changes events, before ++ rest.map fun n => (n, .looking), failure⟩

/-- The turns of tasks at their start, from a position on. -/
def startAllTurns (c : Config) (follow : Bool) (net : Network) (position : Nat) (rest : List Named) :
    List Turn :=
  (rest.zipIdx position).flatMap fun (n, i) => startTurns c follow net i n

/-- With a status no worker is at work. -/
lemma calm_stage (status : Status) : CalmStage status.stage := by
  intro content job
  cases status <;> exact ⟨Stage.noConfusion, Stage.noConfusion⟩

section Start

variable {before : List (Named × Stage)} {rest : List Named} {failure : Option CacheAbort}
  {status : Status} {made : List Change} {es : List Event} {count : Nat}

/-- The task that is started next. -/
lemma starting_task : (starting w changes events before (n :: rest) failure).tasks[before.length]? =
    some (n, .looking) := by
  simp [starting]

/-- The tasks after the next one has come to a stage. -/
lemma starting_set (stage : Stage) :
    (starting w changes events before (n :: rest) failure).tasks.set before.length (n, stage) =
      (before ++ [(n, stage)]) ++ rest.map fun n => (n, .looking) := by
  simp [starting]

/-- The turns of a task at its start, if it does not stop everything. -/
lemma play_start_go
    (hsteps : Stage.steps c follow net n count (.quiet w changes events) .looking =
      (.quiet (Change.applyAll w made) (changes ++ made) (events ++ es), status.result))
    (hgo : status.stopsAtOnce = false) :
    (starting w changes events before (n :: rest) failure).play c follow net
        (turnsOf before.length count) =
      starting (Change.applyAll w made) (changes ++ made) (events ++ es)
        (before ++ [(n, status.stage)]) rest (failure.or (firstFailed [(n, status)])) := by
  cases status with
  | failed abort =>
    rw [play_turnsOf_error starting_task hsteps, starting_set, fail_of_go hgo]
    rfl
  | done content =>
    rw [play_turnsOf_ok starting_task hsteps, starting_set]
    simp [starting, firstFailed]
  | waiting f =>
    rw [play_turnsOf_ok starting_task hsteps, starting_set]
    simp [starting, firstFailed]

/-- The turns of a task at its start, if it stops everything. -/
lemma play_start_stop (rest : List Named) (failure : Option CacheAbort)
    (hcalm : ∀ t ∈ before, CalmStage t.2)
    (hsteps : Stage.steps c follow net n count (.quiet w changes events) .looking =
      (.quiet (Change.applyAll w made) (changes ++ made) (events ++ es), status.result))
    (hstop : status.stopsAtOnce = true) :
    ∃ abort r, status = .failed abort ∧ (starting w changes events before (n :: rest) failure).play c
        follow net (turnsOf before.length count) = r ∧
      r.progress = .quiet (Change.applyAll w made) (changes ++ made) (events ++ es) ∧
      r.failure = some abort ∧ Idle r := by
  cases status with
  | failed abort =>
    refine ⟨abort, _, rfl, play_turnsOf_error starting_task hsteps, ?_⟩
    rw [starting_set, fail_of_stops hstop]
    refine ⟨rfl, rfl, ?_⟩
    have hidle : Idle (giveUp ⟨.quiet (Change.applyAll w made) (changes ++ made) (events ++ es),
        (before ++ [(n, .dropped)]) ++ rest.map fun n => (n, .looking), failure⟩) := by
      refine idle_giveUp fun t ht => ?_
      rcases List.mem_append.1 ht with ht | ht
      · rcases List.mem_append.1 ht with ht | ht
        · exact hcalm t ht
        · rw [List.mem_singleton.1 ht]
          exact calm_stage (.failed abort)
      · obtain ⟨m, -, rfl⟩ := List.mem_map.1 ht
        exact fun content job => ⟨Stage.noConfusion, Stage.noConfusion⟩
    exact hidle
  | done content => cases hstop
  | waiting f => cases hstop

end Start

/-- What the turns of all tasks at their start lead to: one of them has stopped everything, or all
have come to the stages of their statuses. -/
inductive StartedAll (before : List (Named × Stage)) (failure : Option CacheAbort) (r : Resolution) :
    List (Named × Status) → Prop where
  | stopped {first : List (Named × Status)} {n : Named} {abort : CacheAbort}
    (hstops : abort.stopsAtOnce = true) (hfailure : r.failure = some abort) (hidle : Idle r) :
    StartedAll before failure r (first ++ [(n, .failed abort)])
  | going {statuses : List (Named × Status)} (hgo : ∀ s ∈ statuses, s.2.stopsAtOnce = false)
    (hfailure : r.failure = failure.or (firstFailed statuses))
    (htasks : r.tasks = before ++ statuses.map fun s => (s.1, s.2.stage)) :
    StartedAll before failure r statuses

/-- **The turns of all tasks at their start.**

**Proof sketch.** Induction on the tasks that are still to be started; those before them are done,
await an answer or have failed. If a task stops everything, then all are given up, and the turns of
the others do nothing. -/
lemma play_starts (c : Config) (follow : Bool) (net : Network) (rest : List Named)
    (before : List (Named × Stage)) (w : Volume)
    (changes : List Change) (events : List Event) (failure : Option CacheAbort)
    (hcalm : ∀ t ∈ before, CalmStage t.2) :
    ∃ statuses log made es r, (starting w changes events before rest failure).play c follow net
        (startAllTurns c follow net before.length rest) = r ∧
      Starts c follow net w rest log made statuses (requested es) ∧
      r.progress = .quiet (Change.applyAll w made) (changes ++ made) (events ++ es) ∧
      StartedAll before failure r statuses := by
  induction rest generalizing before w changes events failure with
  | nil =>
    refine ⟨[], [], [], [], _, rfl, .nil w, ?_, .going (by simp) ?_ rfl⟩
    · rw [List.append_nil, List.append_nil]
      rfl
    · rw [firstFailed, Option.or_none]
      rfl
  | cons n rest ih =>
    obtain ⟨status, now, made, es, hsteps, hstores, hbegan⟩ :=
      Stage.steps_start c follow net n w changes events
    have hturns : startAllTurns c follow net before.length (n :: rest) =
        turnsOf before.length (Stage.fetchCount c follow net n + 2) ++
          startAllTurns c follow net (before.length + 1) rest := by
      rw [← startTurns_eq]
      rfl
    rw [hturns, play_append]
    cases hstop : status.stopsAtOnce with
    | true =>
      obtain ⟨abort, r, rfl, hplay, hprogress, hfailure, hidle⟩ :=
        play_start_stop rest failure hcalm hsteps hstop
      refine ⟨[] ++ [(n, .failed abort)], now, made, es, r, ?_, .stop hbegan hstores hstop,
        hprogress, .stopped hstop hfailure hidle⟩
      rw [hplay, hidle.play_eq]
    | false =>
      have hcalm' : ∀ t ∈ before ++ [(n, status.stage)], CalmStage t.2 := by
        rw [List.forall_mem_append]
        exact ⟨hcalm, by simpa using calm_stage status⟩
      obtain ⟨statuses, log, made', es', r, hplay, hstarts, hprogress, hall⟩ :=
        ih (before ++ [(n, status.stage)]) (Change.applyAll w made) (changes ++ made) (events ++ es)
          (failure.or (firstFailed [(n, status)])) hcalm'
      refine ⟨(n, status) :: statuses, now ++ log, made ++ made', es ++ es', r, ?_, ?_, ?_, ?_⟩
      · rw [play_start_go hsteps hstop, ← hplay, List.length_append, List.length_singleton]
      · rw [requested_append]
        exact .cons hbegan hstores hstop hstarts
      · rw [hprogress, Change.applyAll_append, List.append_assoc, List.append_assoc]
      · cases hall with
        | @stopped first m abort hstops hfailure hidle =>
          rw [← List.cons_append]
          exact .stopped hstops hfailure hidle
        | going hgo hfailure htasks =>
          refine .going (List.forall_mem_cons.2 ⟨hstop, hgo⟩) ?_ ?_
          · rw [hfailure, Option.or_assoc]
            cases status <;> rfl
          · rw [htasks, List.append_assoc]
            rfl

end Resolution

/-! ## The turns of tasks that await answers -/

/-- What is left of the fetch of a task. -/
def Stage.moments (n : Named) : Stage → List Moment
  | .fetching urls ending => urls.map .request ++ (ending.map (.ending n)).toList
  | _ => []

/-- The stage of a task once all that it awaits has come, if nothing fails. -/
def Stage.arrive : Stage → Stage
  | .fetching _ (some (.ok content)) => .done content
  | .fetching _ (some (.error _)) => .dropped
  | .fetching _ none => .fetching [] none
  | stage => stage

/-- What happens to the task at a position. -/
def own (line : List (Nat × Moment)) (position : Nat) : List Moment :=
  (line.filter fun e => e.1 == position).map Prod.snd

/-- The turns of a task when something happens to it. -/
def turnsAt (c : Config) : Nat × Moment → List Turn
  | (position, .request _) => turnsOf position 1
  | (position, .ending n _) => turnsOf position (storeTurns c n) ++ [.giveUp]

namespace Resolution

/-- The tasks await what is on a line of moments with their positions, and nothing else. -/
structure Follows (line : List (Nat × Moment)) (tasks : List (Named × Stage)) : Prop where
  own : ∀ i n stage, tasks[i]? = some (n, stage) → own line i = stage.moments n
  position : ∀ e ∈ line, e.1 < tasks.length
  calm : ∀ t ∈ tasks, CalmStage t.2

/-- The task to which something happens next. -/
lemma Follows.head {position : Nat} {moment : Moment} {line : List (Nat × Moment)}
    {tasks : List (Named × Stage)} (h : Follows ((position, moment) :: line) tasks) :
    ∃ n urls ending, tasks[position]? = some (n, .fetching urls ending) ∧
      moment :: Fixture.own line position = urls.map .request ++ (ending.map (.ending n)).toList := by
  have hlt := h.position _ List.mem_cons_self
  obtain ⟨⟨n, stage⟩, htask⟩ : ∃ t, tasks[position]? = some t :=
    ⟨_, List.getElem?_eq_getElem hlt⟩
  have hown := h.own position n stage htask
  rw [Fixture.own, List.filter_cons_of_pos (by simp), List.map_cons] at hown
  cases stage with
  | fetching urls ending => exact ⟨n, urls, ending, htask, hown⟩
  | looking | looked | storing | abandoned | done | dropped => cases hown

/-- After something has happened to a task, the tasks await the rest. -/
lemma Follows.tail {position : Nat} {moment : Moment} {line : List (Nat × Moment)}
    {tasks : List (Named × Stage)} {n : Named} {stage : Stage}
    (h : Follows ((position, moment) :: line) tasks)
    (hown : Fixture.own line position = stage.moments n) (hcalm : CalmStage stage) :
    Follows line (tasks.set position (n, stage)) where
  own := by
    intro i m other htask
    rw [List.getElem?_set] at htask
    split_ifs at htask with hi hlt
    · subst hi
      cases htask
      exact hown
    · rw [← h.own i m other htask, Fixture.own, Fixture.own,
        List.filter_cons_of_neg (by simpa using hi)]
  position := by
    intro e he
    rw [List.length_set]
    exact h.position e (List.mem_cons_of_mem _ he)
  calm := by
    intro t ht
    rcases List.mem_or_eq_of_mem_set ht with ht | rfl
    · exact h.calm t ht
    · exact hcalm

/-- Nothing is left to be done where nothing is awaited. -/
lemma Follows.arrive_nil {tasks : List (Named × Stage)} (h : Follows [] tasks) :
    (tasks.map fun t => (t.1, t.2.arrive)) = tasks := by
  refine (List.map_congr_left fun t ht => ?_).trans (List.map_id _)
  obtain ⟨i, hi⟩ := List.mem_iff_getElem?.1 ht
  obtain ⟨n, stage⟩ := t
  have hown := h.own i n stage hi
  cases stage with
  | fetching urls ending =>
    obtain ⟨hurls, hending⟩ := List.append_eq_nil_iff.1 hown.symm
    rw [List.map_eq_nil_iff] at hurls
    cases ending with
    | none => rw [hurls]; rfl
    | some result => cases hending
  | looking | looked | storing | abandoned | done | dropped => rfl

/-- What comes of a task that awaits no more requests, when its fetch ends. -/
lemma arrive_set {tasks : List (Named × Stage)} {position : Nat} {stage stage' : Stage}
    (htask : tasks[position]? = some (n, stage)) (h : stage'.arrive = stage.arrive) :
    ((tasks.set position (n, stage')).map fun t => (t.1, t.2.arrive)) =
      tasks.map fun t => (t.1, t.2.arrive) := by
  obtain ⟨hlt, hget⟩ := List.getElem?_eq_some_iff.1 htask
  have hmap : position < (tasks.map fun t => (t.1, t.2.arrive)).length := by
    rwa [List.length_map]
  have hsame : (n, stage'.arrive) = (tasks.map fun t => (t.1, t.2.arrive))[position] := by
    rw [List.getElem_map, hget, h]
  rw [List.map_set, hsame, List.set_getElem_self]

/-- A failure of a task among tasks that await answers, after which they are given up. -/
lemma giveUp_fail (c : Config) (follow : Bool) (net : Network) (p : Progress) (abort : CacheAbort)
    {tasks : List (Named × Stage)} (hcalm : ∀ t ∈ tasks, CalmStage t.2) :
    ∃ r, (fail abort ⟨p, tasks, none⟩).turn c follow net .giveUp = r ∧ r.progress = p ∧
      r.failure = some abort ∧ Idle r := by
  have hidle := idle_giveUp (r := ⟨p, tasks, none⟩) hcalm
  cases hstops : abort.stopsAtOnce with
  | true =>
    rw [fail_of_stops hstops]
    have hidle' : Idle { giveUp ⟨p, tasks, none⟩ with failure := some abort } := hidle
    exact ⟨_, hidle'.turn_eq _, rfl, rfl, hidle'⟩
  | false =>
    rw [fail_of_go hstops]
    exact ⟨_, rfl, rfl, rfl, hidle⟩

/-- **The turns of the tasks that await answers.**

**Proof sketch.** Induction on the line of moments. A request lets its task go on to the next one.
At the end of a fetch its text is attempted to be stored; if the fetch or the attempt has failed,
then all tasks are given up, and the rest of the turns do nothing. -/
lemma play_timeline (c : Config) (follow : Bool) (net : Network) (line : List (Nat × Moment))
    (tasks : List (Named × Stage)) (w : Volume)
    (changes : List Change) (events : List Event) (hfollows : Follows line tasks) :
    ∃ log made es outcome r, play c follow net ⟨.quiet w changes events, tasks, none⟩
        (line.flatMap (turnsAt c)) = r ∧
      Stores c w log made ∧ Played c (line.map Prod.snd) log outcome (requested es) ∧
      r.progress = .quiet (Change.applyAll w made) (changes ++ made) (events ++ es) ∧
      (∀ abort, outcome = .error abort → r.failure = some abort) ∧
      ∀ arrived, outcome = .ok arrived →
        r.failure = none ∧ r.tasks = tasks.map fun t => (t.1, t.2.arrive) := by
  induction line generalizing tasks w changes events with
  | nil =>
    refine ⟨[], [], [], .ok [], _, rfl, .nil w, .nil, ?_, fun _ h => (by cases h),
      fun arrived _ => ⟨rfl, ?_⟩⟩
    · rw [List.append_nil, List.append_nil]
      rfl
    · rw [hfollows.arrive_nil]
      rfl
  | cons e line ih =>
    obtain ⟨position, moment⟩ := e
    obtain ⟨n, urls, ending, htask, hown⟩ := hfollows.head
    have hlt := (List.getElem?_eq_some_iff.1 htask).1
    rw [List.flatMap_cons, play_append]
    cases urls with
    | cons url urls =>
      rw [List.map_cons, List.cons_append, List.cons.injEq] at hown
      obtain ⟨rfl, hown⟩ := hown
      have hturn : play c follow net ⟨.quiet w changes events, tasks, none⟩
          (turnsAt c (position, .request url)) =
          ⟨.quiet w changes (events ++ [.request url]),
            tasks.set position (n, .fetching urls ending), none⟩ :=
        play_turnsOf_ok htask (rfl : Stage.steps c follow net n 1 _ _ = _)
      obtain ⟨log, made, es, outcome, r, hplay, hstores, hplayed, hprogress, herror, hok⟩ :=
        ih (tasks.set position (n, .fetching urls ending)) w changes (events ++ [.request url])
          (hfollows.tail hown fun content job => ⟨Stage.noConfusion, Stage.noConfusion⟩)
      refine ⟨log, made, .request url :: es, outcome, r, by rw [hturn, hplay], hstores,
        .request hplayed, ?_, herror, fun arrived harrived => ?_⟩
      · rw [hprogress, List.append_assoc, List.singleton_append]
      · rw [(hok arrived harrived).2]
        refine ⟨(hok arrived harrived).1, arrive_set htask ?_⟩
        cases ending with
        | none => rfl
        | some result => cases result <;> rfl
    | nil =>
      cases ending with
      | none => cases hown
      | some result =>
        obtain ⟨rfl, hrest⟩ := List.cons.inj hown
        have hlost : ∀ {p : Progress} {abort : CacheAbort},
            Stage.steps c follow net n (storeTurns c n) (.quiet w changes events)
              (.fetching [] (some result)) = (p, .error abort) →
            ∃ r, play c follow net (play c follow net ⟨.quiet w changes events, tasks, none⟩
              (turnsAt c (position, .ending n result))) (line.flatMap (turnsAt c)) = r ∧
              r.progress = p ∧ r.failure = some abort := by
          intro p abort hsteps
          have hfollows' : Follows line (tasks.set position (n, .dropped)) :=
            hfollows.tail hrest fun content job => ⟨Stage.noConfusion, Stage.noConfusion⟩
          obtain ⟨r, hr, hprogress, hfailure, hidle⟩ :=
            giveUp_fail c follow net p abort hfollows'.calm
          refine ⟨r, ?_, hprogress, hfailure⟩
          have hone : play c follow net ⟨.quiet w changes events, tasks, none⟩
              (turnsAt c (position, .ending n result)) = r := by
            have hfailed := play_turnsOf_error (r := ⟨.quiet w changes events, tasks, none⟩) htask
              hsteps
            rw [turnsAt, play_append, hfailed]
            exact hr
          rw [hone]
          exact hidle.play_eq _
        cases result with
        | error fault =>
          obtain ⟨r, hplay, hprogress, hfailure⟩ := hlost (Stage.steps_lost fault _ _)
          refine ⟨[], [], [], .error (.ofFetch n.url fault), r, hplay, .nil w, .lost, ?_,
            fun abort habort => ?_, fun _ h => by cases h⟩
          · rw [hprogress, List.append_nil, List.append_nil]
            rfl
          · cases habort
            exact hfailure
        | ok content =>
          obtain ⟨a, made, es, rfl, rfl, hstore, hquiet, hsteps⟩ :=
            Stage.steps_arrived c follow net n w changes events content le_rfl
          cases hresult : a.result with
          | error fault =>
            rw [Attempt.outcome, hresult] at hsteps
            obtain ⟨r, hplay, hprogress, hfailure⟩ := hlost hsteps
            refine ⟨[a], made, es, .error (.ofStore (a.entry c) fault), r, hplay, .single hstore,
              ?_, hprogress, fun abort habort => ?_, fun _ h => by cases h⟩
            · rw [hquiet]
              exact .failed hresult
            · cases habort
              exact hfailure
          | ok _ =>
            rw [Attempt.outcome, hresult] at hsteps
            have hturn : play c follow net ⟨.quiet w changes events, tasks, none⟩
                (turnsAt c (position, .ending a.named (.ok a.content))) =
                ⟨.quiet (Change.applyAll w made) (changes ++ made) (events ++ es),
                  tasks.set position (a.named, .done a.content), none⟩ := by
              have hdone := play_turnsOf_ok (r := ⟨.quiet w changes events, tasks, none⟩) htask
                hsteps
              rw [turnsAt, play_append, hdone]
              rfl
            obtain ⟨log, made', es', outcome, r, hplay, hstores, hplayed, hprogress, herror, hok⟩ :=
              ih (tasks.set position (a.named, .done a.content)) (Change.applyAll w made)
                (changes ++ made) (events ++ es)
                (hfollows.tail hrest fun content job => ⟨Stage.noConfusion, Stage.noConfusion⟩)
            refine ⟨a :: log, made ++ made', es ++ es',
              outcome.map ((a.named.name, a.content) :: ·), r, by rw [hturn, hplay],
              .cons hstore hstores, ?_, ?_, fun abort habort => ?_, fun arrived harrived => ?_⟩
            · rw [requested_append, hquiet, List.nil_append]
              exact .stored hresult hplayed
            · rw [hprogress, Change.applyAll_append, List.append_assoc, List.append_assoc]
            · cases outcome with
              | error abort' => exact herror abort habort
              | ok arrived => cases habort
            · cases outcome with
              | error abort' => cases harrived
              | ok arrived' =>
                rw [(hok arrived' rfl).2]
                exact ⟨(hok arrived' rfl).1, arrive_set htask rfl⟩

end Resolution

end ParseBench.Fixture
