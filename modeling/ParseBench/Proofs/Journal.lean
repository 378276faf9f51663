import ParseBench.Journal
import Mathlib.Tactic.Lemma

set_option relaxedAutoImplicit false
set_option autoImplicit false

/-!
# Computations and their journals

A computation has a state and ends with a result or early. A sequence of two computations ends as
its first part does, if that ends early, and otherwise as its second part does. Events that are
added to a journal come after those that are there.

## Main results

* `ParseBench.Stateful.bind_ok_iff`, `ParseBench.Stateful.bind_error_iff` — a sequence of two
  computations gives a result if both do, and otherwise ends early.
* `ParseBench.Journal.addAll_append` — events that are added one after the other.
* `ParseBench.Journal.events_addAll` — the events of a journal after others were added.
-/

namespace ParseBench

/-! ## Sequences of computations -/

namespace Stateful

variable {ε σ α β : Type} {x : ExceptT ε (StateM σ) α} {f : α → ExceptT ε (StateM σ) β} {s s' : σ}

/-- A computation and what follows it: the rest runs on the state that is left, unless there was an
error. -/
lemma bind_eq (x : ExceptT ε (StateM σ) α) (f : α → ExceptT ε (StateM σ) β) (s : σ) :
    (x >>= f) s = match x s with
      | (.ok a, s₁) => f a s₁
      | (.error e, s₁) => (.error e, s₁) := by
  change (match x s with | (r, s₁) => ExceptT.bindCont f r s₁) = _
  obtain ⟨r, s₁⟩ := x s
  cases r <;> rfl

/-- A sequence gives a result if both its parts do. -/
lemma bind_ok_iff {b : β} :
    (x >>= f) s = (.ok b, s') ↔ ∃ a s₁, x s = (.ok a, s₁) ∧ f a s₁ = (.ok b, s') := by
  rw [bind_eq]
  obtain ⟨r, s₁⟩ := x s
  cases r with
  | error e =>
    constructor
    · intro h
      cases h
    · rintro ⟨a, s₂, h, -⟩
      cases h
  | ok a =>
    constructor
    · intro h
      exact ⟨a, s₁, rfl, h⟩
    · rintro ⟨a', s₂, h, hf⟩
      cases h
      exact hf

/-- A sequence ends early if its first part does, or the second part after it. -/
lemma bind_error_iff {e : ε} :
    (x >>= f) s = (.error e, s') ↔
      x s = (.error e, s') ∨ ∃ a s₁, x s = (.ok a, s₁) ∧ f a s₁ = (.error e, s') := by
  rw [bind_eq]
  obtain ⟨r, s₁⟩ := x s
  cases r with
  | error e' =>
    constructor
    · intro h
      cases h
      exact .inl rfl
    · rintro (h | ⟨a, s₂, h, -⟩)
      · cases h
        rfl
      · cases h
  | ok a =>
    constructor
    · intro h
      exact .inr ⟨a, s₁, rfl, h⟩
    · rintro (h | ⟨a', s₂, h, hf⟩)
      · cases h
      · cases h
        exact hf

/-- Reading the state hands it on and leaves it. -/
lemma get_bind_eq (f : σ → ExceptT ε (StateM σ) β) (s : σ) : (get >>= f) s = f s s := rfl

/-- A value leaves the state. -/
lemma pure_eq (a : α) (s : σ) : (pure a : ExceptT ε (StateM σ) α) s = (.ok a, s) := rfl

/-- A computation that cannot fail succeeds. -/
lemma lift_eq (x : StateM σ α) (s : σ) :
    (liftM x : ExceptT ε (StateM σ) α) s = (.ok (x s).1, (x s).2) := rfl

end Stateful

/-! ## Journals -/

namespace Journal

/-- No events leave the journal. -/
lemma addAll_nil (j : Journal) : j.addAll [] = j := rfl

/-- Events are recorded from the first. -/
lemma addAll_cons (j : Journal) (e : Event) (es : List Event) :
    j.addAll (e :: es) = (j.add e).addAll es := rfl

/-- Two rows of events are recorded one after the other. -/
lemma addAll_append (j : Journal) (es es' : List Event) :
    j.addAll (es ++ es') = (j.addAll es).addAll es' := by
  rw [addAll, addAll, addAll, List.foldl_append]

/-- A recorded event is the last one. -/
lemma events_add (j : Journal) (e : Event) : (j.add e).events = j.events.push e := by
  rw [add.eq_def]
  split <;> rfl

/-- **Events that are added come last**, in their order. -/
lemma events_addAll (j : Journal) (es : List Event) :
    (j.addAll es).events.toList = j.events.toList ++ es := by
  induction es generalizing j with
  | nil => simp [addAll_nil]
  | cons e es ih => simp [addAll_cons, ih, events_add]

/-- A recorded call is the last call. -/
lemma calls_add_call (j : Journal) (c : Call) : (j.add (.call c)).calls = j.calls ++ [c] := by
  simp [calls, events_add]

/-- A log record is no call. -/
lemma calls_add_log (j : Journal) (r : Log.Record) : (j.add (.log r)).calls = j.calls := by
  simp [calls, events_add]

/-- A log record changes no count of calls. -/
lemma callCount_add_log (j : Journal) (r : Log.Record) (mode : CallMode) :
    (j.add (.log r)).callCount mode = j.callCount mode := by
  cases mode <;> rfl

/-- A call counts for its own mode only. -/
lemma callCount_add_of_ne (j : Journal) {c : Call} {mode : CallMode} (h : c.mode ≠ mode) :
    (j.add (.call c)).callCount mode = j.callCount mode := by
  obtain ⟨mode', source⟩ := c
  cases mode <;> cases mode'
  · exact absurd rfl h
  · rfl
  · rfl
  · exact absurd rfl h

end Journal

namespace Act

variable {ε δ α : Type} {j j' : Journal}

/-- A result that is there already leaves the journal. -/
lemma ofExcept_eq (r : Except ε α) (j : Journal) : Act.ofExcept r j = (r, j) := by
  cases r <;> rfl

/-- Logging records one event and succeeds. -/
lemma log_eq (source : Log.Source) (level : Log.Level) (message : String) (j : Journal) :
    (Act.log source level message : Act ε Unit) j =
      (.ok (), j.add (.log ⟨source, level, message⟩)) := rfl

/-- A computation whose failures are seen differently does the same. -/
lemma mapFailure_eq (f : ε → δ) (act : Act ε α) (j : Journal) :
    act.mapFailure f j = ((act j).1.mapError f, (act j).2) := by
  rw [mapFailure]
  obtain ⟨r, j₁⟩ := act j
  cases r <;> rfl

/-- A computation whose failures are seen differently gives the same results. -/
lemma mapFailure_eq_ok_iff {f : ε → δ} {act : Act ε α} {a : α} :
    act.mapFailure f j = (.ok a, j') ↔ act j = (.ok a, j') := by
  rw [mapFailure]
  obtain ⟨r, j₁⟩ := act j
  cases r with
  | ok a =>
    constructor
    · intro h
      cases h
      rfl
    · intro h
      cases h
      rfl
  | error e =>
    constructor
    · intro h
      cases h
    · intro h
      cases h

/-- A failure that is seen differently is the failure of the computation. -/
lemma mapFailure_eq_error_iff {f : ε → δ} {act : Act ε α} {d : δ} :
    act.mapFailure f j = (.error d, j') ↔ ∃ e, act j = (.error e, j') ∧ f e = d := by
  rw [mapFailure]
  obtain ⟨r, j₁⟩ := act j
  cases r with
  | ok a =>
    constructor
    · intro h
      cases h
    · rintro ⟨e, h, -⟩
      cases h
  | error e =>
    constructor
    · intro h
      cases h
      exact ⟨e, rfl, rfl⟩
    · rintro ⟨e', h, rfl⟩
      cases h
      rfl

end Act

end ParseBench
