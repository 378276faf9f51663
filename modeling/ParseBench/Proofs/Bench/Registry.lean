import ParseBench.Proofs.Bench.History
import Mathlib.Data.Nat.Find

set_option relaxedAutoImplicit false
set_option autoImplicit false

/-!
# The registry of a runner

A runner registers a task for a fixture if the name of the fixture is new. So whatever is asked of a
runner, no two of its tasks have the same label, and its tasks stay where they are. Of several
fixtures those before the first whose name is taken are registered, also if the registration fails.

## Main definitions

* `ParseBench.Bench.Registered` — tasks with the labels of their fixtures, all of them different.
* `ParseBench.Bench.Taken` — a fixture of a list whose name a task or an earlier fixture has.
* `ParseBench.Bench.Session.register` — a session with the tasks of more fixtures.

## Main results

* `ParseBench.Bench.addAll_of_new`, `ParseBench.Bench.addAll_of_taken` — how the registration of
  fixtures ends.
* `ParseBench.Bench.Request.registered_after`, `ParseBench.Bench.Request.Does.tasks_grow` — what a
  request does to the registry.
* `ParseBench.Bench.registry` — the registry after any requests.
-/

namespace ParseBench.Bench

open Stateful

/-! ## Registered tasks -/

/-- The names of the fixtures of tasks. -/
def fixtureNames (tasks : List Task) : List String :=
  tasks.map fun task => task.fixture.identifier

/-- The tasks of a registry: each has the label of its own fixture, and no two have the same. -/
structure Registered (tasks : List Task) : Prop where
  labelled : ∀ task ∈ tasks, task.label = taskLabel task.fixture.identifier
  nodup : (tasks.map Task.label).Nodup

/-- The name of a fixture of a list is taken: a task or an earlier fixture has it. -/
def Taken (tasks : List Task) (fixtures : List Fixture) (k : Nat) : Prop :=
  ∃ f ∈ fixtures[k]?, f.identifier ∈ fixtureNames tasks ++ (fixtures.take k).map Fixture.identifier

instance (tasks : List Task) (fixtures : List Fixture) (k : Nat) :
    Decidable (Taken tasks fixtures k) :=
  inferInstanceAs (Decidable (∃ f ∈ fixtures[k]?, _))

/-- The session with the tasks of more fixtures at the end of the registry. -/
def Session.register (s : Session) (fixtures : List Fixture) : Session :=
  { s with runner := { s.runner with tasks := s.runner.tasks ++ fixtures.map Task.ofFixture } }

section Registry

variable {tasks : List Task} {fixtures : List Fixture} {f : Fixture} {k : Nat} {s : Session}

/-- The names of the fixtures of tasks that are registered later come after those of the earlier
ones. -/
lemma fixtureNames_append (tasks : List Task) (fixtures : List Fixture) :
    fixtureNames (tasks ++ fixtures.map Task.ofFixture) =
      fixtureNames tasks ++ fixtures.map Fixture.identifier := by
  simp [fixtureNames, Task.ofFixture, Function.comp_def]

namespace Registered

/-- An empty registry is one. -/
lemma nil : Registered [] := ⟨by simp, List.nodup_nil⟩

/-- The labels of a registry are made from the names of the fixtures. -/
lemma labels_eq (h : Registered tasks) :
    tasks.map Task.label = (fixtureNames tasks).map taskLabel := by
  rw [fixtureNames, List.map_map]
  exact List.map_congr_left h.labelled

/-- Different labels are labels of different fixtures. -/
lemma nodup_names (h : Registered tasks) : (fixtureNames tasks).Nodup :=
  List.Nodup.of_map taskLabel (h.labels_eq ▸ h.nodup)

/-- The labels of tasks and of new fixtures are different if their names are. -/
lemma nodup_labels (h : Registered tasks)
    (hnames : (fixtureNames tasks ++ fixtures.map Fixture.identifier).Nodup) :
    (tasks.map Task.label ++ fixtures.map fun f => taskLabel f.identifier).Nodup := by
  have hlabels := hnames.map fun _ _ => taskLabel_injective
  rw [List.map_append, List.map_map] at hlabels
  rw [h.labels_eq]
  exact hlabels

/-- Fixtures of new names can be registered. -/
lemma register (h : Registered tasks)
    (hnames : (fixtureNames tasks ++ fixtures.map Fixture.identifier).Nodup) :
    Registered (tasks ++ fixtures.map Task.ofFixture) where
  labelled := by
    intro task htask
    rcases List.mem_append.1 htask with htask | htask
    · exact h.labelled task htask
    · obtain ⟨f, -, rfl⟩ := List.mem_map.1 htask
      rfl
  nodup := by
    rw [List.map_append, List.map_map]
    exact h.nodup_labels hnames

/-- Names that are not taken are different.

**Proof sketch.** Induction on the number of fixtures. The name of the next one is not among those
of the tasks and of the earlier fixtures, for otherwise it would be taken. -/
lemma nodup_of_new (h : Registered tasks) (hnew : ∀ i < k, ¬ Taken tasks fixtures i) :
    (fixtureNames tasks ++ (fixtures.take k).map Fixture.identifier).Nodup := by
  induction k with
  | zero => simpa using h.nodup_names
  | succ k ih =>
    have hearlier := ih fun i hi => hnew i (by omega)
    rw [List.take_add_one, List.map_append, ← List.append_assoc]
    cases hf : fixtures[k]? with
    | none => simpa using hearlier
    | some f =>
      have hfree : f.identifier ∉
          fixtureNames tasks ++ (fixtures.take k).map Fixture.identifier :=
        fun hmem => hnew k (by omega) ⟨f, hf, hmem⟩
      rw [Option.toList_some, List.map_singleton, ← List.concat_eq_append]
      exact hearlier.concat hfree

/-- If no name of a list is taken, all names differ. -/
lemma nodup_of_all_new (h : Registered tasks) (hnew : ∀ k, ¬ Taken tasks fixtures k) :
    (fixtureNames tasks ++ fixtures.map Fixture.identifier).Nodup := by
  have hnames := h.nodup_of_new (k := fixtures.length) fun i _ => hnew i
  rwa [List.take_length] at hnames

end Registered

/-! ## Registering fixtures -/

/-- Adding two lists of fixtures adds one after the other. -/
lemma addAll_append (before after : List Fixture) (s : Session) :
    addAll (before ++ after) s = (addAll before >>= fun _ => addAll after) s := by
  induction before generalizing s with
  | nil => rfl
  | cons f before ih =>
    rw [List.cons_append, addAll, addAll, bind_eq, bind_eq, bind_eq]
    rcases add f s with ⟨_ | _, s₁⟩
    · rfl
    · simp only
      rw [ih, bind_eq]

/-- Adding fixtures whose names all differ succeeds and registers them. -/
lemma addAll_of_names (h : Registered s.runner.tasks)
    (hnames : (fixtureNames s.runner.tasks ++ fixtures.map Fixture.identifier).Nodup) :
    addAll fixtures s = (.ok (), s.register fixtures) :=
  addAll_of_nodup (h.nodup_labels hnames)

/-- A fixture whose name is taken is refused, and its label is named. -/
lemma add_of_mem (h : Registered s.runner.tasks)
    (hmem : f.identifier ∈ fixtureNames s.runner.tasks) :
    add f s = (.error (.alreadyRegistered (taskLabel f.identifier)), s) := by
  have hany : (s.runner.tasks.any fun t => t.label == (Task.ofFixture f).label) = true := by
    obtain ⟨task, htask, hname⟩ := List.mem_map.1 hmem
    rw [List.any_eq_true]
    refine ⟨task, htask, beq_iff_eq.2 ?_⟩
    rw [h.labelled task htask, hname]
    rfl
  rw [add_eq, if_pos hany]
  rfl

/-- **Fixtures whose names are not taken** are registered, one after the other. -/
lemma addAll_of_new (h : Registered s.runner.tasks)
    (hnew : ∀ k, ¬ Taken s.runner.tasks fixtures k) :
    addAll fixtures s = (.ok (), s.register fixtures) :=
  addAll_of_names h (h.nodup_of_all_new hnew)

/-- **The first fixture whose name is taken** ends the registration. Those before it are registered.

**Proof sketch.** The fixtures before it are registered one after the other. Its name is then the
name of a registered task, whether a task or an earlier fixture had it. -/
lemma addAll_of_taken (h : Registered s.runner.tasks) (hk : fixtures[k]? = some f)
    (htaken : Taken s.runner.tasks fixtures k)
    (hfirst : ∀ i < k, ¬ Taken s.runner.tasks fixtures i) :
    addAll fixtures s =
      (.error (.alreadyRegistered (taskLabel f.identifier)), s.register (fixtures.take k)) := by
  obtain ⟨f', hf', hmem⟩ := htaken
  obtain rfl : f' = f := Option.some.inj (hf'.symm.trans hk)
  have hnames := h.nodup_of_new hfirst
  have hsplit : fixtures = fixtures.take k ++ f' :: fixtures.drop (k + 1) := by
    obtain ⟨hlt, rfl⟩ := List.getElem?_eq_some_iff.1 hk
    rw [← List.drop_eq_getElem_cons hlt, List.take_append_drop]
  have hrefused : add f' (s.register (fixtures.take k)) =
      (.error (.alreadyRegistered (taskLabel f'.identifier)), s.register (fixtures.take k)) := by
    apply add_of_mem (h.register hnames)
    show f'.identifier ∈ fixtureNames (s.runner.tasks ++ _)
    rwa [fixtureNames_append]
  conv_lhs => rw [hsplit]
  rw [addAll_append, bind_eq, addAll_of_names h hnames]
  simp only
  rw [addAll, bind_eq, hrefused]

/-- A registration of fixtures either meets no name that is taken, or ends at the first one. -/
lemma exists_firstTaken (tasks : List Task) (fixtures : List Fixture) :
    (∀ k, ¬ Taken tasks fixtures k) ∨
      ∃ k f, fixtures[k]? = some f ∧ Taken tasks fixtures k ∧
        ∀ i < k, ¬ Taken tasks fixtures i := by
  by_cases h : ∃ k, Taken tasks fixtures k
  · obtain ⟨f, hf, -⟩ := Nat.find_spec h
    exact .inr ⟨Nat.find h, f, hf, Nat.find_spec h, fun i hi => Nat.find_min h hi⟩
  · exact .inl fun k hk => h ⟨k, hk⟩

/-- A registration fails exactly if a name is taken. -/
lemma addAll_fails_iff (h : Registered s.runner.tasks) :
    (∃ abort, (addAll fixtures s).1 = .error abort) ↔
      ∃ k, Taken s.runner.tasks fixtures k := by
  rcases exists_firstTaken s.runner.tasks fixtures with hnew | ⟨k, f, hf, htaken, hfirst⟩
  · rw [addAll_of_new h hnew]
    constructor
    · rintro ⟨abort, habort⟩
      cases habort
    · rintro ⟨k, hk⟩
      exact absurd hk (hnew k)
  · rw [addAll_of_taken h hf htaken hfirst]
    exact ⟨fun _ => ⟨k, htaken⟩, fun _ => ⟨_, rfl⟩⟩

/-! ## Requests -/

/-- A registration of fixtures keeps the registry, whether or not it fails. -/
lemma Registered.addAll (h : Registered s.runner.tasks) (fixtures : List Fixture) :
    Registered (addAll fixtures s).2.runner.tasks := by
  rcases exists_firstTaken s.runner.tasks fixtures with hnew | ⟨k, f, hf, htaken, hfirst⟩
  · rw [addAll_of_new h hnew]
    exact h.register (h.nodup_of_all_new hnew)
  · rw [addAll_of_taken h hf htaken hfirst]
    exact h.register (h.nodup_of_new hfirst)

/-- To register one fixture is to register a list of one. -/
lemma add_snd (f : Fixture) (s : Session) : (add f s).2 = (Bench.addAll [f] s).2 := by
  rw [Bench.addAll, bind_eq]
  rcases add f s with ⟨_ | _, s₁⟩ <;> rfl

namespace Request

variable {p : Parser} {clock : Clock} {r : Request} {is : List Invocation} {s' : Session}

/-- What is not a registration leaves the registry as it is. -/
lemma Does.tasks_eq (h : Does s r is s') (hr : r = .warmup ∨ r = .run) :
    s'.runner.tasks = s.runner.tasks := by
  cases h with
  | registered hasked added => exact absurd hr (by simp [hasked])
  | cutOff _ hrunner => rw [hrunner]
  | warmed _ hrunner => rw [hrunner]
  | measured _ hrunner => rw [hrunner]

/-- **A request keeps the registry**, whether or not it fails. -/
lemma registered_after (p : Parser) (clock : Clock) (r : Request) (h : Registered s.runner.tasks) :
    Registered (r.after p clock s).runner.tasks := by
  cases r with
  | add f =>
    rw [after, add_snd]
    exact h.addAll [f]
  | addAll fixtures => exact h.addAll fixtures
  | warmup => exact (does p clock .warmup s).tasks_eq (.inl rfl) ▸ h
  | run => exact (does p clock .run s).tasks_eq (.inr rfl) ▸ h

/-- **A request adds tasks at the end only.** -/
lemma Does.tasks_grow (h : Does s r is s') : s.runner.tasks <+: s'.runner.tasks := by
  cases h with
  | registered _ added => exact List.prefix_append _ _
  | cutOff _ hrunner => exact hrunner ▸ List.prefix_rfl
  | warmed _ hrunner => exact hrunner ▸ List.prefix_rfl
  | measured _ hrunner => exact hrunner ▸ List.prefix_rfl

/-- A registry stays one, whatever is requested. -/
lemma registered_afterAll (p : Parser) (clock : Clock) (history : List Request)
    (h : Registered s.runner.tasks) : Registered (afterAll p clock history s).runner.tasks := by
  induction history generalizing s with
  | nil => exact h
  | cons r rest ih => exact ih (registered_after p clock r h)

/-- No request takes a task away or puts one before another. -/
lemma prefix_afterAll (p : Parser) (clock : Clock) (history : List Request) (s : Session) :
    s.runner.tasks <+: (afterAll p clock history s).runner.tasks := by
  induction history generalizing s with
  | nil => exact List.prefix_rfl
  | cons r rest ih => exact (does p clock r s).tasks_grow.trans (ih _)

end Request

/-- **The registry.** Whatever has been asked of a new runner, also in requests that failed, its
tasks have the labels of their fixtures, and no two have the same. Requests add tasks at the end
only. A registration of several fixtures fails exactly if a task or an earlier fixture has the name
of one of them. It then names the label of the first of these, and those before it are registered;
otherwise all are. -/
theorem registry (profile : Profile) (p : Parser) (clock : Clock) (j : Journal)
    (history : List Request) :
    let s := Request.afterAll p clock history ⟨.ofProfile profile, j⟩
    Registered s.runner.tasks ∧
    (∀ later, s.runner.tasks <+: (Request.afterAll p clock later s).runner.tasks) ∧
    ∀ fixtures,
      ((∃ abort, (addAll fixtures s).1 = .error abort) ↔ ∃ k, Taken s.runner.tasks fixtures k) ∧
      (∀ k f, fixtures[k]? = some f → Taken s.runner.tasks fixtures k →
        (∀ i < k, ¬ Taken s.runner.tasks fixtures i) →
        addAll fixtures s =
          (.error (.alreadyRegistered (taskLabel f.identifier)), s.register (fixtures.take k))) ∧
      ((∀ k, ¬ Taken s.runner.tasks fixtures k) →
        addAll fixtures s = (.ok (), s.register fixtures)) := by
  intro s
  have hregistered : Registered s.runner.tasks :=
    Request.registered_afterAll p clock history .nil
  refine ⟨hregistered, fun later => Request.prefix_afterAll p clock later s, fun fixtures => ?_⟩
  refine ⟨addAll_fails_iff hregistered, ?_, addAll_of_new hregistered⟩
  intro k f hk htaken hfirst
  exact addAll_of_taken hregistered hk htaken hfirst

/-- After a run with one fixture, three more are registered, of which the second has its name. -/
theorem registry_taken :
    let s := Request.afterAll sampleParser sampleClock [.add ⟨"a", "x"⟩, .run] sampleStart
    s.runner.tasks = [.ofFixture ⟨"a", "x"⟩] ∧
      addAll [⟨"b", "y"⟩, ⟨"a", "z"⟩, ⟨"c", "y"⟩] s =
        (.error (.alreadyRegistered "parser_py[a]"), s.register [⟨"b", "y"⟩]) := by
  intro s
  have htasks : s.runner.tasks = [.ofFixture ⟨"a", "x"⟩] := by
    decide +kernel
  obtain ⟨-, -, hends⟩ := registry ⟨"once", 1, 0, 1⟩ sampleParser sampleClock .empty
    [.add ⟨"a", "x"⟩, .run]
  refine ⟨htasks, (hends _).2.1 1 ⟨"a", "z"⟩ rfl ?_ ?_⟩
  · exact htasks ▸ by decide
  · intro i hi
    obtain rfl : i = 0 := by omega
    exact htasks ▸ by decide

end Registry

end ParseBench.Bench
