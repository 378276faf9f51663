import ParseBench.Proofs.Bench.History

set_option relaxedAutoImplicit false
set_option autoImplicit false

/-!
# Calls that fail

The invocations that a warm-up and a run plan are those that they make with a parser that never
fails. With any other parser they make the same invocations with the same results, as long as the
parser gives a tree for each. The first one for which it gives none ends everything: it is the last
invocation that is made, and the failure names its task.

## Main definitions

* `ParseBench.Parser.treeAfter` — what a parse gives after a number of earlier calls.
* `ParseBench.Parser.Steady` — the parsers that never fail.
* `ParseBench.Parser.FailsFirst` — the first invocation that a parser fails.
* `ParseBench.Bench.Follows` — a computation with one parser follows a computation with another.
* `ParseBench.Bench.CutOffBy` — what is left of a computation that an invocation has ended.

## Main results

* `ParseBench.Bench.Follows.bind` — following a computation in two stages.
* `ParseBench.Bench.invokeAll_follows`, `ParseBench.Bench.measureAll_follows` — the two phases.
* `ParseBench.Bench.first_failure_fatal` — the first invocation that fails ends a warm-up and a run.
-/

namespace ParseBench

open Stateful

/-! ## The calls of a parser -/

/-- Whether an event is a call of the parser that is answered at once. -/
def Event.isBlockingCall : Event → Bool
  | .call ⟨.blocking, _⟩ => true
  | _ => false

namespace Journal

/-- One more event makes one more call of the blocking entry point if it is one. -/
lemma blockingCalls_add (j : Journal) (e : Event) :
    (j.add e).blockingCalls = j.blockingCalls + [e].countP Event.isBlockingCall := by
  unfold add Event.isBlockingCall
  split <;> simp_all

/-- More events make as many more calls of the blocking entry point as are among them. -/
lemma blockingCalls_addAll (j : Journal) (es : List Event) :
    (j.addAll es).blockingCalls = j.blockingCalls + es.countP Event.isBlockingCall := by
  induction es generalizing j with
  | nil => rfl
  | cons e es ih =>
    rw [addAll_cons, ih, blockingCalls_add, Nat.add_assoc, ← List.countP_append,
      List.singleton_append]

end Journal

namespace Parser

/-- What a parse and the decoding of its root give after a number of earlier calls. -/
def treeAfter (p : Parser) (calls : Nat) (source : String) : Except ParseAbort Json.Value :=
  (p.parseTree source { Journal.empty with blockingCalls := calls }).1

/-- A parser that gives a tree for every call. -/
def Steady (p : Parser) : Prop := ∀ calls source, ∃ tree, p.treeAfter calls source = .ok tree

/-- A parse into a tree asks the blocking entry point, normalizes its answer and decodes the root.
What it leaves of the journal is what the call leaves. -/
lemma parseTree_eq (p : Parser) (source : String) (j : Journal) :
    p.parseTree source j =
      ((p.answer .blocking source j).outcome .blocking >>= fun o => decodeRoot o.root,
        (p.binding.call .blocking source j).2) := by
  rw [parseTree, bind_eq, p.parse_eq]
  cases (p.answer .blocking source j).outcome .blocking with
  | ok o =>
    dsimp only
    rw [Act.ofExcept_eq]
    rfl
  | error e => rfl

/-- **The tree of a call** depends on the number of earlier calls alone. -/
lemma parseTree_fst (p : Parser) (source : String) (j : Journal) :
    (p.parseTree source j).1 = p.treeAfter j.blockingCalls source := by
  have hsame : p.answer .blocking source j =
      p.answer .blocking source { Journal.empty with blockingCalls := j.blockingCalls } :=
    p.binding.call_fst_congr rfl
  rw [treeAfter, parseTree_eq, parseTree_eq, hsame]

end Parser

/-! ## Invocations that are answered -/

namespace Parser

open Bench (Invocation)

/-- The parser gives a tree for each of these invocations, if they are made one after the other. -/
def AnswersAll (p : Parser) : Nat → List Invocation → Prop
  | _, [] => True
  | calls, i :: rest =>
    (∃ tree, p.treeAfter calls i.task.fixture.content = .ok tree) ∧ p.AnswersAll (calls + 1) rest

/-- Of invocations that are made one after the other, the parser gives a tree for some, and what
ends the parse for the next. -/
structure FailsFirst (p : Parser) (calls : Nat) (before : List Invocation) (i : Invocation)
    (abort : ParseAbort) : Prop where
  answers : p.AnswersAll calls before
  fails : p.treeAfter (calls + before.length) i.task.fixture.content = .error abort

variable {p : Parser} {calls : Nat} {is is' : List Invocation}

/-- A parser answers two rows of invocations exactly if it answers the first, and then the
second. -/
lemma answersAll_append :
    p.AnswersAll calls (is ++ is') ↔ p.AnswersAll calls is ∧ p.AnswersAll (calls + is.length) is' := by
  induction is generalizing calls with
  | nil => simp [AnswersAll]
  | cons i is ih =>
    rw [List.cons_append, AnswersAll, AnswersAll, ih, List.length_cons, and_assoc, Nat.add_assoc,
      Nat.add_comm 1 is.length]

/-- The first invocation that is failed is also the first after those that are answered. -/
lemma FailsFirst.of_append {before : List Invocation} {i : Invocation} {abort : ParseAbort}
    {later : Nat} (h : p.FailsFirst calls (is ++ before) i abort) (hlater : later = calls + is.length) :
    p.FailsFirst later before i abort := by
  refine ⟨hlater ▸ (answersAll_append.1 h.answers).2, ?_⟩
  rw [hlater, Nat.add_assoc, ← List.length_append]
  exact h.fails

/-- A steady parser answers every row of invocations. -/
lemma Steady.answersAll (h : p.Steady) (calls : Nat) (is : List Invocation) :
    p.AnswersAll calls is := by
  induction is generalizing calls with
  | nil => trivial
  | cons i is ih => exact ⟨h _ _, ih _⟩

end Parser

namespace Bench

variable {p p₀ : Parser} {clock : Clock} {profile : Profile} {task : Task} {tasks : List Task}
  {j j' : Journal} {s : Session} {is before after : List Invocation} {i : Invocation}
  {abort : ParseAbort}

/-- The number of calls after invocations that came to their end. -/
lemma Worked.blockingCalls (h : Worked j (is.flatMap Invocation.events) j') :
    j'.blockingCalls = j.blockingCalls + is.length := by
  obtain ⟨es, rfl, hes⟩ := h
  have hwork : es.countP Event.isBlockingCall = (es.filter isWork).countP Event.isBlockingCall := by
    rw [List.countP_filter]
    refine List.countP_congr fun e _ => ?_
    rcases e with ⟨_ | _, _⟩ | _ | _ | _ | _ <;> simp [Event.isBlockingCall, isWork]
  have hevents : ∀ i : Invocation, i.events.countP Event.isBlockingCall = 1 := by
    intro i
    rw [Invocation.events]
    split <;> rfl
  rw [Journal.blockingCalls_addAll, hwork, hes, List.countP_flatMap]
  simp [Function.comp_def, hevents]

/-! ## One invocation -/

/-- The call of a task, which is there if the parser has a function to call. -/
def called (p : Parser) (task : Task) : List Event :=
  if (p.binding.entry .blocking).runs .blocking then [callOf task.fixture] else []

/-- What an invocation shows that the parser fails: the clock is not read again after the call. -/
def Invocation.begun (p : Parser) (i : Invocation) : List Event :=
  if i.recorded then .clockRead :: called p i.task else called p i.task

/-- An invocation for which there is a tree is one call. -/
lemma invoke_of_answer (h : ∃ tree, p.treeAfter j.blockingCalls task.fixture.content = .ok tree) :
    invoke p task j = (.ok (), j.add (callOf task.fixture)) := by
  obtain ⟨tree, htree⟩ := h
  rw [← Parser.parseTree_fst] at htree
  have hparse : p.parseTree task.fixture.content j = (.ok tree, j.add (callOf task.fixture)) :=
    Prod.ext htree (Parser.parseTree_eq_ok (Prod.ext htree rfl))
  rw [invoke, Act.mapFailure_eq, bind_eq, hparse]
  rfl

/-- An invocation for which there is none ends with the failure of its task. -/
lemma invoke_of_failure (h : p.treeAfter j.blockingCalls task.fixture.content = .error abort) :
    (invoke p task j).1 = .error (taskAbort task.label abort) ∧
      Worked j (called p task) (invoke p task j).2 := by
  have hparse : p.parseTree task.fixture.content j =
      (.error abort, (p.binding.call .blocking task.fixture.content j).2) := by
    refine Prod.ext ((p.parseTree_fst _ j).trans h) ?_
    rw [Parser.parseTree_eq]
  rw [invoke, Act.mapFailure_eq, bind_eq, hparse]
  refine ⟨rfl, ?_⟩
  rw [Binding.call_snd, called]
  split
  · exact .call j task.fixture
  · exact .refl j

/-! ## Following a computation -/

/-- A list that is split before one of its members was put together from two lists, so the member
is one of the first or of the second. -/
lemma append_eq_append_cons {α : Type} {xs ys first last : List α} {a : α}
    (h : xs ++ ys = first ++ a :: last) :
    (∃ rest, xs = first ++ a :: rest) ∨ ∃ rest, first = xs ++ rest ∧ ys = rest ++ a :: last := by
  rcases List.append_eq_append_iff.1 h with ⟨rest, hfirst, hys⟩ | ⟨rest, hxs, hlast⟩
  · exact .inr ⟨rest, hfirst, hys⟩
  · cases rest with
    | nil => exact .inr ⟨[], by simpa using hxs.symm, by simpa using hlast.symm⟩
    | cons b rest =>
      rw [List.cons_append, List.cons.injEq] at hlast
      exact .inl ⟨rest, by rw [hxs, hlast.1]⟩

/-- The invocations of a computation with a result have all come to their end. -/
lemma Makes.worked {ε α : Type} {a : α} (h : Makes is j (.ok a : Except ε α) j') :
    Worked j (is.flatMap Invocation.events) j' := by
  cases h with
  | ended h => exact h

section Follows

variable {ε δ α β : Type}

/-- With the parser `p` a computation `act` follows another one, `act₀`: it does the same if the
parser answers all invocations of the other, and it ends with the first one that the parser
fails. -/
structure Follows (p : Parser) (fail : Task → ParseAbort → ε) (act act₀ : Act ε α)
    (trace trace₀ : Journal → List Invocation) : Prop where
  makes : ∀ j, Makes (trace₀ j) j (act₀ j).1 (act₀ j).2
  same : ∀ j, p.AnswersAll j.blockingCalls (trace₀ j) → act j = act₀ j ∧ trace j = trace₀ j
  cut : ∀ j before i after abort, trace₀ j = before ++ i :: after →
    p.FailsFirst j.blockingCalls before i abort →
      (act j).1 = .error (fail i.task abort) ∧ trace j = before ++ [i] ∧
        Worked j (before.flatMap Invocation.events ++ i.begun p) (act j).2

namespace Follows

variable {fail : Task → ParseAbort → ε} {act act₀ : Act ε α}
  {trace trace₀ : Journal → List Invocation}

/-- What makes no invocation does the same with every parser. -/
lemma silent {act : Act ε α} (h : ∀ j, Makes [] j (act j).1 (act j).2) :
    Follows p fail act act (fun _ => []) (fun _ => []) where
  makes := h
  same _ _ := ⟨rfl, rfl⟩
  cut _ before i after _ hsplit := by simp at hsplit

/-- What a computation that is followed has done when it has a result. -/
lemma worked_of_ok (h : Follows p fail act act₀ trace trace₀) {a : α} (hact : act₀ j = (.ok a, j')) :
    Worked j ((trace₀ j).flatMap Invocation.events) j' := by
  have hmakes := h.makes j
  rw [hact] at hmakes
  exact hmakes.worked

section Bind

variable {next next₀ : α → Act ε β} {rest rest₀ : α → Journal → List Invocation}
  (h : Follows p fail act act₀ trace trace₀)
  (hnext : ∀ a, Follows p fail (next a) (next₀ a) (rest a) (rest₀ a))

include h hnext

/-- If all invocations of two stages are answered, both stages are the same. -/
lemma bind_same (hall : p.AnswersAll j.blockingCalls (trace₀ j ++ andThen act₀ rest₀ j)) :
    (act >>= next) j = (act₀ >>= next₀) j ∧
      trace j ++ andThen act rest j = trace₀ j ++ andThen act₀ rest₀ j := by
  obtain ⟨hfirst, hrest⟩ := Parser.answersAll_append.1 hall
  obtain ⟨hact, htrace⟩ := h.same j hfirst
  cases hact₀ : act₀ j with
  | mk r j' =>
    have hact' := hact.trans hact₀
    rw [bind_eq, bind_eq, hact', hact₀, htrace]
    cases r with
    | error e =>
      rw [andThen_of_error hact', andThen_of_error hact₀]
      exact ⟨rfl, rfl⟩
    | ok a =>
      rw [andThen_of_ok hact₀, ← (h.worked_of_ok hact₀).blockingCalls] at hrest
      obtain ⟨hsame, hsameTrace⟩ := (hnext a).same j' hrest
      rw [andThen_of_ok hact', andThen_of_ok hact₀, hsameTrace]
      exact ⟨hsame, rfl⟩

/-- The first invocation of two stages that is failed ends both.

**Proof sketch.** It is one of the first stage, or all of the first stage are answered. In the
second case the first stages are the same, and the second stage begins after as many calls as the
first stage has invocations. -/
lemma bind_cut (hsplit : trace₀ j ++ andThen act₀ rest₀ j = before ++ i :: after)
    (hfirst : p.FailsFirst j.blockingCalls before i abort) :
    ((act >>= next) j).1 = .error (fail i.task abort) ∧
      trace j ++ andThen act rest j = before ++ [i] ∧
        Worked j (before.flatMap Invocation.events ++ i.begun p) ((act >>= next) j).2 := by
  rcases append_eq_append_cons hsplit with ⟨after', hpart⟩ | ⟨before', rfl, hrest⟩
  · obtain ⟨hresult, hcutTrace, hcutWorked⟩ := h.cut j before i after' abort hpart hfirst
    cases hact : act j with
    | mk r j' =>
      rw [hact] at hresult hcutWorked
      obtain rfl : r = .error _ := hresult
      rw [bind_eq, hact, andThen_of_error hact, hcutTrace, List.append_nil]
      exact ⟨rfl, rfl, hcutWorked⟩
  · obtain ⟨hact, htrace⟩ := h.same j (Parser.answersAll_append.1 hfirst.answers).1
    cases hact₀ : act₀ j with
    | mk r j' =>
      have hact' := hact.trans hact₀
      cases r with
      | error e =>
        rw [andThen_of_error hact₀] at hrest
        simp at hrest
      | ok a =>
        have hworked := h.worked_of_ok hact₀
        have hlast : p.FailsFirst j'.blockingCalls before' i abort :=
          hfirst.of_append hworked.blockingCalls
        rw [andThen_of_ok hact₀] at hrest
        obtain ⟨hresult, hcutTrace, hcutWorked⟩ :=
          (hnext a).cut j' before' i after abort hrest hlast
        rw [bind_eq, hact', htrace, andThen_of_ok hact', hcutTrace, List.flatMap_append,
          List.append_assoc, List.append_assoc]
        exact ⟨hresult, rfl, hworked.trans hcutWorked⟩

/-- **Following a computation in two stages.** -/
lemma bind :
    Follows p fail (act >>= next) (act₀ >>= next₀) (fun j => trace j ++ andThen act rest j)
      (fun j => trace₀ j ++ andThen act₀ rest₀ j) where
  makes j := (h.makes j).bind fun a j' => (hnext a).makes j'
  same _ hall := h.bind_same hnext hall
  cut _ _ _ _ _ hsplit hfirst := h.bind_cut hnext hsplit hfirst

end Bind

/-- A first stage without invocations leaves those of the second. -/
lemma bind_silent {first : Act ε α} {next next₀ : α → Act ε β}
    {rest rest₀ : α → Journal → List Invocation}
    (h : ∀ j, Makes [] j (first j).1 (first j).2)
    (hnext : ∀ a, Follows p fail (next a) (next₀ a) (rest a) (rest₀ a)) :
    Follows p fail (first >>= next) (first >>= next₀) (andThen first rest) (andThen first rest₀) :=
  (silent h).bind hnext

/-- A second stage without invocations leaves those of the first. -/
lemma then_silent {next : α → Act ε β} (h : Follows p fail act act₀ trace trace₀)
    (hnext : ∀ a j, Makes [] j (next a j).1 (next a j).2) :
    Follows p fail (act >>= next) (act₀ >>= next) trace trace₀ := by
  have hboth := h.bind fun a => silent (hnext a)
  simpa only [andThen_nil, List.append_nil] using hboth

end Follows

end Follows

/-! ## The two phases -/

/-- The failure of a task in a warm-up. -/
def failureOf (task : Task) (abort : ParseAbort) : ParseAbort := taskAbort task.label abort

/-- The failure of a task in a measurement. -/
def runFailureOf (task : Task) (abort : ParseAbort) : RunAbort := .parse (failureOf task abort)

/-- An invocation follows that of a steady parser. -/
lemma invoke_follows (h₀ : p₀.Steady) (p : Parser) (task : Task) :
    Follows p failureOf (invoke p task) (invoke p₀ task) (fun _ => [⟨task, false⟩])
      (fun _ => [⟨task, false⟩]) where
  makes := invoke_makes p₀ task
  same j h := by
    rw [invoke_of_answer h.1, invoke_of_answer (h₀ _ _)]
    exact ⟨rfl, rfl⟩
  cut j before i after abort hsplit hfirst := by
    obtain ⟨rfl, hi⟩ := List.append_eq_singleton_iff.1 hsplit.symm |>.resolve_right (by simp)
    obtain ⟨rfl, rfl⟩ := List.cons.inj hi
    exact ⟨(invoke_of_failure hfirst.fails).1, rfl, (invoke_of_failure hfirst.fails).2⟩

/-- Invocations of one task follow those of a steady parser. -/
lemma invokeTimes_follows (h₀ : p₀.Steady) (p : Parser) (task : Task) (n : Nat) :
    Follows p failureOf (invokeTimes p task n) (invokeTimes p₀ task n) (timesTrace p task n)
      (timesTrace p₀ task n) := by
  induction n with
  | zero => exact .silent fun j => .ofExcept (.ok ()) j
  | succ n ih => exact (invoke_follows h₀ p task).bind fun _ => ih

/-- **A round of all tasks** follows that of a parser that never fails. -/
lemma invokeAll_follows (h₀ : p₀.Steady) (p : Parser) (n : Nat) (tasks : List Task) :
    Follows p failureOf (invokeAll p n tasks) (invokeAll p₀ n tasks) (allTrace p n tasks)
      (allTrace p₀ n tasks) := by
  induction tasks with
  | nil => exact .silent fun j => .ofExcept (.ok ()) j
  | cons task rest ih => exact (invokeTimes_follows h₀ p task n).bind fun _ => ih

/-- Reading the clock calls no entry point. -/
lemma Clock.blockingCalls_read {r : Except Stopped Int} (h : clock.read j = (r, j')) :
    j'.blockingCalls = j.blockingCalls := by
  rw [Clock.read, get_bind_eq] at h
  split at h
  · cases h
    rfl
  · cases h
    rfl

/-- A measured invocation is an invocation after a reading of the clock. -/
lemma timed_follows (h₀ : p₀.Steady) (p : Parser) (clock : Clock) (task : Task) :
    Follows p runFailureOf (timed p clock task) (timed p₀ clock task) (timedTrace clock task)
      (timedTrace clock task) where
  makes := timed_makes p₀ clock task
  same j h := by
    refine ⟨?_, rfl⟩
    rw [timed, timed, bind_eq, bind_eq, Act.mapFailure_eq]
    cases hstart : clock.read j with
    | mk start j₁ =>
      cases start with
      | error e => rfl
      | ok start =>
        rw [timedTrace, andThen_of_ok hstart, ← Clock.blockingCalls_read hstart] at h
        dsimp only [Except.mapError]
        rw [bind_eq, bind_eq, Act.mapFailure_eq, Act.mapFailure_eq, invoke_of_answer h.1,
          invoke_of_answer (h₀ _ _)]
  cut j before i after abort hsplit hfirst := by
    rw [timed, bind_eq, Act.mapFailure_eq]
    cases hstart : clock.read j with
    | mk start j₁ =>
      cases start with
      | error e =>
        rw [timedTrace, andThen_of_error hstart] at hsplit
        simp at hsplit
      | ok start =>
        rw [timedTrace, andThen_of_ok hstart] at hsplit
        obtain ⟨rfl, hi⟩ := List.append_eq_singleton_iff.1 hsplit.symm |>.resolve_right (by simp)
        obtain ⟨rfl, rfl⟩ := List.cons.inj hi
        have hfails := hfirst.fails
        rw [List.length_nil, Nat.add_zero, ← Clock.blockingCalls_read hstart] at hfails
        obtain ⟨hresult, hworked⟩ := invoke_of_failure hfails
        rw [timedTrace, andThen_of_ok hstart]
        dsimp only [Except.mapError]
        rw [bind_eq, Act.mapFailure_eq]
        cases hinvoke : invoke p task j₁ with
        | mk r j₂ =>
          rw [hinvoke] at hresult hworked
          obtain rfl : r = .error _ := hresult
          exact ⟨rfl, rfl, (Clock.read_eq_ok hstart).trans hworked⟩

/-- The loop of a measurement follows that of a steady parser, with the same clock. -/
lemma measureLoop_follows (h₀ : p₀.Steady) (p : Parser) (clock : Clock) (profile : Profile)
    (task : Task) (fuel : Nat) (total : Int) (samples : List Float) (runs : Nat) :
    Follows p runFailureOf (measureLoop p clock profile task fuel total samples runs)
      (measureLoop p₀ clock profile task fuel total samples runs)
      (loopTrace p clock profile task fuel total runs)
      (loopTrace p₀ clock profile task fuel total runs) := by
  induction fuel generalizing total samples runs with
  | zero => exact .silent fun j => .ofExcept (.error _) j
  | succ fuel ih =>
    have htrace : ∀ q : Parser, loopTrace q clock profile task (fuel + 1) total runs =
        if enough profile total runs then fun _ => []
        else fun j => timedTrace clock task j ++ andThen (timed q clock task) (fun elapsed =>
          andThen (Act.ofExcept (microseconds elapsed)) fun _ =>
            loopTrace q clock profile task fuel (total + elapsed) (runs + 1)) j := by
      intro q
      funext j
      rw [loopTrace]
      split <;> rfl
    rw [htrace, htrace, measureLoop, measureLoop]
    split
    · exact .silent fun j => .ofExcept (.ok _) j
    · refine (timed_follows h₀ p clock task).bind fun elapsed => ?_
      refine .bind_silent (fun j => ?_) fun sample => ih _ _ _
      rw [Act.ofExcept_eq]
      exact .ofExcept _ _

/-- A measurement follows that of a steady parser. -/
lemma measure_follows (h₀ : p₀.Steady) (p : Parser) (clock : Clock) (profile : Profile)
    (task : Task) :
    Follows p runFailureOf (measure p clock profile task) (measure p₀ clock profile task)
      (measureTrace p clock profile task) (measureTrace p₀ clock profile task) := by
  refine (measureLoop_follows h₀ p clock profile task _ _ _ _).then_silent fun measured j => ?_
  refine Makes.bind_nil ?_ fun whole j₁ => ?_
  · rw [Act.ofExcept_eq]
    exact .ofExcept _ _
  · refine Makes.bind_nil ?_ fun _ j₂ => .ofExcept (.ok _) j₂
    rw [Act.log_eq]
    exact .log _ () j₁

/-- **The measurements of tasks** follow those of a parser that never fails. -/
lemma measureAll_follows (h₀ : p₀.Steady) (p : Parser) (clock : Clock) (profile : Profile)
    (tasks : List Task) :
    Follows p runFailureOf (measureAll p clock profile tasks) (measureAll p₀ clock profile tasks)
      (measureAllTrace p clock profile tasks) (measureAllTrace p₀ clock profile tasks) := by
  induction tasks with
  | nil => exact .silent fun j => .ofExcept (.ok []) j
  | cons task rest ih =>
    refine (measure_follows h₀ p clock profile task).bind fun result => ?_
    exact ih.then_silent fun results j => .ofExcept (.ok _) j

/-! ## What is planned -/

/-- Several invocations of a task that are all answered. -/
lemma invokeTimes_of_answers {n : Nat}
    (h : p.AnswersAll j.blockingCalls (List.replicate n ⟨task, false⟩)) :
    ∃ j', invokeTimes p task n j = (.ok (), j') ∧ j'.blockingCalls = j.blockingCalls + n := by
  induction n generalizing j with
  | zero => exact ⟨j, rfl, rfl⟩
  | succ n ih =>
    rw [List.replicate_succ] at h
    obtain ⟨j', hrest, hcalls⟩ := ih (j := j.add (callOf task.fixture)) h.2
    refine ⟨j', ?_, hcalls.trans (Nat.add_right_comm j.blockingCalls 1 n)⟩
    rw [invokeTimes, bind_eq, invoke_of_answer h.1]
    exact hrest

/-- A warm-up whose invocations are all answered succeeds. -/
lemma invokeAll_of_answers {n : Nat}
    (h : p.AnswersAll j.blockingCalls (tasks.flatMap fun task => List.replicate n ⟨task, false⟩)) :
    ∃ j', invokeAll p n tasks j = (.ok (), j') := by
  induction tasks generalizing j with
  | nil => exact ⟨j, rfl⟩
  | cons task rest ih =>
    rw [List.flatMap_cons, Parser.answersAll_append, List.length_replicate] at h
    obtain ⟨j₁, htask, hcalls⟩ := invokeTimes_of_answers h.1
    rw [← hcalls] at h
    obtain ⟨j', hrest⟩ := ih h.2
    refine ⟨j', ?_⟩
    rw [invokeAll, bind_eq, htask]
    exact hrest

/-- A warm-up whose invocations are all answered comes to its end. -/
lemma warmupTrace_of_answers
    (h : p.AnswersAll s.journal.blockingCalls (wholeWarmup s.runner)) :
    warmupTrace p s = wholeWarmup s.runner := by
  obtain ⟨j, hall⟩ := invokeAll_of_answers h
  exact allTrace_of_ok hall

/-- A run of a runner without a warm-up begins with one of all tasks. -/
lemma wholeWarmup_prefix_runTrace (hcold : s.runner.warmedUp = false)
    (h : p.AnswersAll s.journal.blockingCalls (wholeWarmup s.runner)) :
    wholeWarmup s.runner <+: runTrace p clock s := by
  rw [runTrace, hcold, if_neg Bool.false_ne_true, warmupTrace_of_answers h]
  exact List.prefix_append _ _

/-- The recorded invocations are made one task after the other. -/
lemma measureAllTrace_eq (p : Parser) (clock : Clock) (profile : Profile) (tasks : List Task)
    (j : Journal) :
    ∃ runs : List Nat, measureAllTrace p clock profile tasks j =
      (List.zipWith (fun task n => List.replicate n ⟨task, true⟩) tasks runs).flatten := by
  induction tasks generalizing j with
  | nil => exact ⟨[], rfl⟩
  | cons task rest ih =>
    have hfirst : measureTrace p clock profile task j =
        List.replicate (measureTrace p clock profile task j).length ⟨task, true⟩ :=
      List.eq_replicate_of_mem fun i hi => mem_loopTrace hi
    rw [measureAllTrace]
    cases hmeasure : measure p clock profile task j with
    | mk r j' =>
      cases r with
      | error e =>
        refine ⟨[(measureTrace p clock profile task j).length], ?_⟩
        rw [andThen_of_error hmeasure, List.zipWith_cons_cons, List.zipWith_nil_right,
          List.flatten_cons, List.flatten_nil, ← hfirst]
      | ok result =>
        obtain ⟨runs, hrest⟩ := ih j'
        refine ⟨(measureTrace p clock profile task j).length :: runs, ?_⟩
        rw [andThen_of_ok hmeasure, List.zipWith_cons_cons, List.flatten_cons, ← hrest, ← hfirst]

/-- What a run plans: a warm-up if there has been none, and then the measurements, task by task. -/
lemma runTrace_eq (h₀ : p₀.Steady) (clock : Clock) (s : Session) :
    ∃ runs : List Nat, runTrace p₀ clock s =
      (if s.runner.warmedUp then [] else wholeWarmup s.runner) ++
        (List.zipWith (fun task n => List.replicate n ⟨task, true⟩) s.runner.tasks runs).flatten := by
  rw [runTrace]
  cases s.runner.warmedUp with
  | true => exact measureAllTrace_eq p₀ clock _ _ _
  | false =>
    rw [if_neg Bool.false_ne_true, if_neg Bool.false_ne_true,
      warmupTrace_of_answers (h₀.answersAll _ _)]
    cases hwarm : warmup p₀ s with
    | mk r s₁ =>
      cases r with
      | error e =>
        rw [andThen_of_error hwarm]
        exact ⟨[], by simp⟩
      | ok _ =>
        obtain ⟨runs, hruns⟩ :=
          measureAllTrace_eq p₀ clock s₁.runner.profile s₁.runner.tasks s₁.journal
        rw [andThen_of_ok hwarm, measuredTrace, hruns, (warmup_eq_ok hwarm).1]
        exact ⟨runs, rfl⟩

/-! ## The first failure -/

/-- What ends the parse without ending the program is a failure that is named by its task. -/
lemma taskAbort_of_catchable (label : String) (h : ∀ f, abort ≠ .uncatchable f) :
    ∃ text, abort.text = .ok text ∧ taskAbort label abort = .failure (.task label text) := by
  cases abort with
  | failure f => exact ⟨_, rfl, rfl⟩
  | uncatchable f => exact absurd rfl (h f)
  | infiniteOffset => exact ⟨_, rfl, rfl⟩
  | tooDeep innermost => exact ⟨_, rfl, rfl⟩
  | undisplayable => exact ⟨_, rfl, rfl⟩
  | unwritable fault => exact ⟨_, rfl, rfl⟩

/-- An invocation cuts a computation on a runner off. -/
structure CutOffBy {α : Type} (p : Parser) (s : Session) (before : List Invocation) (i : Invocation)
    (abort : ParseAbort) (r : Except RunAbort α) (made : List Invocation) (s' : Session) : Prop where
  /-- There is no result but a failure, which names the task. -/
  result : ∃ failure text, r = .error (.parse (.failure failure)) ∧ abort.text = .ok text ∧
    failure.message = i.task.label ++ ": " ++ text
  /-- The invocation is the last one that is made. -/
  made : made = before ++ [i]
  journal : Worked s.journal (before.flatMap Invocation.events ++ i.begun p) s'.journal
  /-- The runner has the tasks that it had, and it has warmed up only if a warm-up has come to its
  end. -/
  runner : s'.runner = { s.runner with warmedUp := s.runner.warmedUp || i.recorded }
  /-- If it has not, a later run begins with a whole warm-up. -/
  again : s.runner.warmedUp = false → i.recorded = false → ∀ (q : Parser) (clock : Clock)
    (later : Session), later.runner = s'.runner →
      q.AnswersAll later.journal.blockingCalls (wholeWarmup s.runner) →
        wholeWarmup s.runner <+: runTrace q clock later

/-- A warm-up that does with two parsers the same invocations with the same results is the same. -/
lemma warmup_congr
    (h : invokeAll p s.runner.profile.warmupIterations s.runner.tasks s.journal =
      invokeAll p₀ s.runner.profile.warmupIterations s.runner.tasks s.journal) :
    warmup p s = warmup p₀ s := by
  rw [warmup, warmup, get_bind_eq, get_bind_eq, bind_eq, bind_eq]
  dsimp only
  rw [Running.ofAct, Running.ofAct, h]

/-- A warm-up ends with the first of its invocations that fails. -/
lemma warmup_cut (h₀ : p₀.Steady) (hfirst : p.FailsFirst s.journal.blockingCalls before i abort)
    (hsplit : wholeWarmup s.runner = before ++ i :: after) :
    i.recorded = false ∧ warmupTrace p s = before ++ [i] ∧
      ∃ j, warmup p s = (.error (runFailureOf i.task abort), { s with journal := j }) ∧
        Worked s.journal (before.flatMap Invocation.events ++ i.begun p) j := by
  have hplan := warmupTrace_of_answers (h₀.answersAll s.journal.blockingCalls (wholeWarmup s.runner))
  obtain ⟨hresult, htrace, hworked⟩ := (invokeAll_follows h₀ p s.runner.profile.warmupIterations
    s.runner.tasks).cut s.journal before i after abort (hplan.trans hsplit) hfirst
  have hmem : i ∈ warmupTrace p s := by
    rw [warmupTrace, htrace]
    simp
  exact ⟨(mem_allTrace hmem).2, htrace, _, warmup_of_error (Prod.ext hresult rfl), hworked⟩

/-- Measurements end with the first of their invocations that fails. -/
lemma measured_cut (h₀ : p₀.Steady) (hfirst : p.FailsFirst s.journal.blockingCalls before i abort)
    (hsplit : measuredTrace p₀ clock s = before ++ i :: after) :
    i.recorded = true ∧ measuredTrace p clock s = before ++ [i] ∧
      (measured p clock s).1 = .error (runFailureOf i.task abort) ∧
        Worked s.journal (before.flatMap Invocation.events ++ i.begun p)
          (measured p clock s).2.journal := by
  obtain ⟨hresult, htrace, hworked⟩ := (measureAll_follows h₀ p clock s.runner.profile
    s.runner.tasks).cut s.journal before i after abort hsplit hfirst
  have hmem : i ∈ measuredTrace p clock s := by
    rw [measuredTrace, htrace]
    simp
  refine ⟨(mem_measureAllTrace hmem).2, htrace, ?_⟩
  rw [measured, Running.ofAct]
  generalize measureAll p clock s.runner.profile s.runner.tasks s.journal = ended at *
  obtain ⟨r, j⟩ := ended
  obtain rfl : r = .error _ := hresult
  exact ⟨rfl, hworked⟩

section CutOff

variable (hexception : ∀ f, abort ≠ .uncatchable f)

include hexception

/-- An abort that names its task and leaves what has been made before it cuts the run off. What is
left is that the failure has a text and that a later warm-up starts from the first task. -/
lemma CutOffBy.of_taskAbort {α : Type} {r : Except RunAbort α} {made : List Invocation} {s' : Session}
    (hresult : r = .error (runFailureOf i.task abort)) (hmade : made = before ++ [i])
    (hjournal : Worked s.journal (before.flatMap Invocation.events ++ i.begun p) s'.journal)
    (hrunner : s'.runner = { s.runner with warmedUp := s.runner.warmedUp || i.recorded }) :
    CutOffBy p s before i abort r made s' where
  result := by
    obtain ⟨text, htext, habort⟩ := taskAbort_of_catchable i.task.label hexception
    exact ⟨_, text, by rw [hresult, runFailureOf, failureOf, habort], htext, rfl⟩
  made := hmade
  journal := hjournal
  runner := hrunner
  again hcold hunrecorded q clock later hlater hanswers := by
    rw [hrunner, hcold, hunrecorded] at hlater
    have hsame : wholeWarmup later.runner = wholeWarmup s.runner := by
      rw [hlater]
      rfl
    rw [← hsame] at hanswers ⊢
    exact wholeWarmup_prefix_runTrace (by rw [hlater]; rfl) hanswers

/-- A warm-up is cut off by its first invocation that fails. -/
lemma warmup_cutOff (h₀ : p₀.Steady)
    (hfirst : p.FailsFirst s.journal.blockingCalls before i abort)
    (hsplit : wholeWarmup s.runner = before ++ i :: after) :
    CutOffBy p s before i abort (warmup p s).1 (warmupTrace p s) (warmup p s).2 := by
  obtain ⟨hunrecorded, htrace, j, hwarm, hworked⟩ := warmup_cut h₀ hfirst hsplit
  rw [hwarm]
  refine .of_taskAbort hexception rfl htrace hworked ?_
  rw [hunrecorded, Bool.or_false]

/-- A run is cut off by the first invocation that fails.

**Proof sketch.** The invocation is one of the warm-up, or all of the warm-up are answered. In the
second case the warm-up does what it does with a parser that never fails, and the measurements
begin after as many calls. -/
lemma run_cutOff (h₀ : p₀.Steady) (hfirst : p.FailsFirst s.journal.blockingCalls before i abort)
    (hsplit : runTrace p₀ clock s = before ++ i :: after) :
    CutOffBy p s before i abort (run p clock s).1 (runTrace p clock s) (run p clock s).2 := by
  rw [run_eq, runTrace]
  rw [runTrace] at hsplit
  cases hflag : s.runner.warmedUp with
  | true =>
    rw [hflag, if_pos rfl] at hsplit
    obtain ⟨-, htrace, hresult, hworked⟩ := measured_cut h₀ hfirst hsplit
    refine .of_taskAbort hexception hresult htrace hworked ?_
    rw [if_pos rfl, measured_runner, hflag, Bool.true_or, ← hflag]
  | false =>
    have hplan :=
      warmupTrace_of_answers (h₀.answersAll s.journal.blockingCalls (wholeWarmup s.runner))
    rw [hflag, if_neg Bool.false_ne_true, hplan] at hsplit
    rw [if_neg Bool.false_ne_true, if_neg Bool.false_ne_true, bind_eq]
    rcases append_eq_append_cons hsplit with ⟨rest, hwarmup⟩ | ⟨before', rfl, hmeasured⟩
    · obtain ⟨hunrecorded, htrace, j, hwarm, hworked⟩ := warmup_cut h₀ hfirst hwarmup
      rw [hwarm, andThen_of_error hwarm, List.append_nil]
      refine .of_taskAbort hexception rfl htrace hworked ?_
      rw [hunrecorded, Bool.or_false]
    · have hanswers := (Parser.answersAll_append.1 hfirst.answers).1
      obtain ⟨hsame, htrace⟩ := (invokeAll_follows h₀ p s.runner.profile.warmupIterations
        s.runner.tasks).same s.journal (by rw [← warmupTrace, hplan]; exact hanswers)
      obtain ⟨j, hall⟩ := invokeAll_of_answers (h₀.answersAll s.journal.blockingCalls
        (wholeWarmup s.runner))
      obtain ⟨record, hwarm₀⟩ := warmup_of_ok hall
      have hwarm := (warmup_congr hsame).trans hwarm₀
      have hworked : Worked s.journal ((wholeWarmup s.runner).flatMap Invocation.events)
          (j.add (.log record)) := by
        have hmakes := warmup_makes p₀ s
        rw [hplan, hwarm₀] at hmakes
        exact hmakes.worked
      have hlast : p.FailsFirst (j.add (.log record)).blockingCalls before' i abort :=
        hfirst.of_append hworked.blockingCalls
      rw [andThen_of_ok hwarm₀] at hmeasured
      obtain ⟨hrecorded, hmade, hresult, hrest⟩ := measured_cut h₀ hlast hmeasured
      rw [hwarm, andThen_of_ok hwarm, hmade]
      refine .of_taskAbort hexception hresult ?_ ?_ ?_
      · rw [← List.append_assoc, warmupTrace, htrace, ← warmupTrace, hplan]
      · rw [List.flatMap_append, List.append_assoc]
        exact hworked.trans hrest
      · rw [measured_runner, hrecorded, Bool.or_true]

end CutOff

/-- **The first failure is fatal.** With a parser that never fails a run makes a warm-up of all
tasks, if there has been none, and then recorded invocations, task by task. Take another parser and
the first of these invocations that it fails. If it is one of a warm-up, the warm-up ends with it,
and in the same way a run: the failure consists of the label of its task and the text of what ended
the parse, the invocations are those up to this one, and the tasks are as they were. If no warm-up
has come to its end, a later run begins with a whole one. -/
theorem first_failure_fatal (hsteady : p₀.Steady) (p : Parser) (clock : Clock) (s : Session)
    {before after : List Invocation} {i : Invocation} {abort : ParseAbort}
    (hfirst : p.FailsFirst s.journal.blockingCalls before i abort)
    (hexception : ∀ f, abort ≠ .uncatchable f) :
    (∃ runs : List Nat, runTrace p₀ clock s =
      (if s.runner.warmedUp then [] else wholeWarmup s.runner) ++
        (List.zipWith (fun task n => List.replicate n ⟨task, true⟩) s.runner.tasks runs).flatten) ∧
    (wholeWarmup s.runner = before ++ i :: after →
      CutOffBy p s before i abort (warmup p s).1 (warmupTrace p s) (warmup p s).2) ∧
    (runTrace p₀ clock s = before ++ i :: after →
      CutOffBy p s before i abort (run p clock s).1 (runTrace p clock s) (run p clock s).2) :=
  ⟨runTrace_eq hsteady clock s, warmup_cutOff hexception hsteady hfirst,
    run_cutOff hexception hsteady hfirst⟩

/-- A parser that raises a fault in the second of its calls. -/
def faultyParser : Parser where
  binding := ⟨"m", .function fun n _ => if n = 1 then .raised (.ofText "ValueError" "boom") else
    .value (.record [("root", .text "{}")]), .constant .none⟩
  complete := by decide

/-- The sample parser answers every call alike. -/
lemma sampleParser_steady : sampleParser.Steady := fun _ _ => ⟨_, rfl⟩

/-- The second task fails in the warm-up of a run, and the next run warms up from the first task
on. -/
theorem first_failure_fatal_second :
    ∃ failure s', run faultyParser sampleClock sampleSession =
        (.error (.parse (.failure failure)), s') ∧
      failure.message = "parser_py[b]: parse_sync raised ValueError: boom" ∧
      s'.journal.calls = [⟨.blocking, "x"⟩, ⟨.blocking, "y"⟩] ∧
      s'.runner = sampleSession.runner ∧
      [⟨.ofFixture ⟨"a", "x"⟩, false⟩, ⟨.ofFixture ⟨"b", "y"⟩, false⟩] <+:
        runTrace faultyParser sampleClock s' := by
  have hplan : runTrace sampleParser sampleClock sampleSession =
      [⟨.ofFixture ⟨"a", "x"⟩, false⟩] ++ ⟨.ofFixture ⟨"b", "y"⟩, false⟩ ::
        [⟨.ofFixture ⟨"a", "x"⟩, true⟩, ⟨.ofFixture ⟨"b", "y"⟩, true⟩] := by
    decide +kernel
  have hfirst : faultyParser.FailsFirst sampleSession.journal.blockingCalls
      [⟨.ofFixture ⟨"a", "x"⟩, false⟩] ⟨.ofFixture ⟨"b", "y"⟩, false⟩
      (.failure (.raised .blocking "ValueError" "boom")) := ⟨⟨⟨_, rfl⟩, trivial⟩, rfl⟩
  have hcalls : (run faultyParser sampleClock sampleSession).2.journal.blockingCalls = 2 ∧
      (run faultyParser sampleClock sampleSession).2.journal.calls =
        [⟨.blocking, "x"⟩, ⟨.blocking, "y"⟩] := by
    decide +kernel
  have hcut := (first_failure_fatal sampleParser_steady faultyParser sampleClock sampleSession hfirst
    (by simp)).2.2 hplan
  generalize run faultyParser sampleClock sampleSession = ended at hcut hcalls
  obtain ⟨r, s'⟩ := ended
  obtain ⟨failure, text, rfl, htext, hmessage⟩ := hcut.result
  cases htext
  refine ⟨failure, s', rfl, hmessage, hcalls.2, hcut.runner, ?_⟩
  refine hcut.again rfl rfl faultyParser sampleClock s' rfl ?_
  rw [show s'.journal.blockingCalls = 2 from hcalls.1]
  exact ⟨⟨_, rfl⟩, ⟨_, rfl⟩, trivial⟩

end Bench

end ParseBench
