import ParseBench.Program.Run
import ParseBench.Proofs.Console.Legible
import ParseBench.Proofs.Program.Bench

set_option relaxedAutoImplicit false
set_option autoImplicit false

/-!
# What is said and printed

A command says what it has to say, and a console writes it. What a console writes from one state to
another depends on the messages alone that are said on the way. Many computations say nothing.

## Main definitions

* `ParseBench.Journal.messages` — what was said.
* `ParseBench.Act.SaysNothing` — computations without a word.
* `ParseBench.Program.Says`, `ParseBench.Program.Prints` — what is said and what a console writes
  from one state to another.
* `ParseBench.Program.AllLegible` — messages whose lines a console shows as they are.

## Main results

* `ParseBench.Act.SaysNothing.bind` — computations without a word, one after the other.
* `ParseBench.Program.forM_say` — what is said one after the other.
* `ParseBench.Program.prints_of_said` — what is printed is what is written for the messages.
-/

namespace ParseBench

open Stateful

/-! ## Messages -/

/-- The message of an event, if it is one. -/
def Event.message? : Event → Option Console.Message
  | .message m => some m
  | _ => none

namespace Journal

/-- The messages of a journal, in order. -/
def messages (j : Journal) : List Console.Message := j.events.toList.filterMap Event.message?

/-- An event that is no message adds none. -/
lemma messages_add_of_none {e : Event} (j : Journal) (h : e.message? = none) :
    (j.add e).messages = j.messages := by
  rw [messages, messages, events_add, Array.toList_push, List.filterMap_append]
  simp [h]

/-- Messages are added in their order. -/
lemma messages_addAll (j : Journal) (ms : List Console.Message) :
    (j.addAll (ms.map .message)).messages = j.messages ++ ms := by
  rw [messages, messages, events_addAll, List.filterMap_append, List.filterMap_map]
  exact congrArg _ (List.filterMap_some)

end Journal

namespace Act

/-- A computation adds no message, however it ends. -/
def SaysNothing {ε α : Type} (act : Act ε α) : Prop :=
  ∀ j, (act j).2.messages = j.messages

variable {ε δ α β : Type} {act : Act ε α}

/-- A result that is there already says nothing. -/
lemma SaysNothing.ofExcept (r : Except ε α) : SaysNothing (Act.ofExcept r) := by
  intro j
  rw [ofExcept_eq]

/-- Logging says nothing. -/
lemma SaysNothing.log (source : Log.Source) (level : Log.Level) (message : String) :
    SaysNothing (Act.log source level message : Act ε Unit) :=
  fun j => j.messages_add_of_none rfl

/-- Two computations that say nothing say nothing in a row. -/
lemma SaysNothing.bind {next : α → Act ε β} (h : SaysNothing act)
    (hnext : ∀ a, SaysNothing (next a)) : SaysNothing (act >>= next) := by
  intro j
  have hj := h j
  rw [bind_eq]
  generalize act j = ended at hj
  obtain ⟨r, j₁⟩ := ended
  cases r with
  | error e => exact hj
  | ok a => exact (hnext a j₁).trans hj

/-- What a failure becomes does not change that nothing is said. -/
lemma SaysNothing.mapFailure (f : ε → δ) (h : SaysNothing act) :
    SaysNothing (act.mapFailure f) := by
  intro j
  rw [mapFailure_eq]
  exact h j

end Act

namespace Program

open Act (SaysNothing)

/-- Loading a binding only logs. -/
lemma load_saysNothing (library : Binding.Library) (name : String) :
    SaysNothing (Binding.load library name) := by
  intro j
  generalize hload : Binding.load library name j = ended
  obtain ⟨r, j'⟩ := ended
  obtain ⟨es, rfl, hlogs⟩ := load_events hload
  have hnone : es.filterMap Event.message? = [] := by
    rw [List.filterMap_eq_nil_iff]
    intro e he
    obtain ⟨record, rfl⟩ := hlogs e he
    rfl
  rw [Journal.messages, Journal.messages, Journal.events_addAll, List.filterMap_append, hnone,
    List.append_nil]

/-! ## States -/

/-- From one state to another these messages are added, in this order. -/
def Says (st st' : State) (ms : List Console.Message) : Prop :=
  st'.journal.messages = st.journal.messages ++ ms

/-- From one state to another a console writes these texts to the standard output and to the
standard error, apart from the log. -/
def Prints (b : Console.Backend) (st st' : State) (out err : String) : Prop :=
  outText b st'.journal.events.toList = outText b st.journal.events.toList ++ out ∧
    errText b (fun _ => "") st'.journal.events.toList =
      errText b (fun _ => "") st.journal.events.toList ++ err

/-- The line of a message on a console. -/
def line (b : Console.Backend) (kind : Console.Kind) (text : String) : String :=
  kind.mark b ++ text ++ "\n"

/-- A console shows all of these messages as they are, where they are lines. -/
def AllLegible (b : Console.Backend) (ms : List Console.Message) : Prop :=
  ∀ kind text, Console.Kind.message kind text ∈ ms → b.Legible (kind.mark b ++ text)

variable {b : Console.Backend} {st st' : State} {ms : List Console.Message}

/-- Saying messages in a row adds them and succeeds. -/
lemma forM_say (ms : List Console.Message) (st : State) :
    ∃ st', (ms.forM Doing.say) st = (.ok (), st') ∧ Says st st' ms := by
  induction ms generalizing st with
  | nil => exact ⟨st, rfl, (List.append_nil _).symm⟩
  | cons m ms ih =>
    obtain ⟨st', hrest, hsaid⟩ := ih (st.grow (st.journal.addAll [.message m]))
    refine ⟨st', ?_, ?_⟩
    · change (Doing.say m >>= fun _ => ms.forM Doing.say) st = _
      rw [bind_eq]
      exact hrest
    · have hfirst : (st.journal.addAll [.message m]).messages = st.journal.messages ++ [m] :=
        st.journal.messages_addAll [m]
      rw [Says, hsaid]
      change (st.journal.addAll [.message m]).messages ++ ms = _
      rw [hfirst, List.append_assoc]
      rfl

/-- A computation that says nothing leaves the messages of the state. -/
lemma messages_ofAct {ε α : Type} {f : ε → Abort} {act : Act ε α} (hact : SaysNothing act)
    {r : Except Abort α} (h : Doing.ofAct f act st = (r, st')) :
    st'.journal.messages = st.journal.messages := by
  rw [← hact st.journal]
  rw [Doing.ofAct] at h
  generalize act st.journal = ended at h
  obtain ⟨_ | a, j⟩ := ended
  · cases h
    rfl
  · cases h
    rfl

/-! ## Output -/

/-- Empty texts join to the empty text. -/
lemma join_eq_empty {ss : List String} (h : ∀ s ∈ ss, s = "") : String.join ss = "" := by
  induction ss with
  | nil => rfl
  | cons s ss ih =>
    rw [List.forall_mem_cons] at h
    rw [String.join_cons, h.1, ih h.2, String.empty_append]

/-- What a console writes is what it writes for the messages. -/
lemma join_written (b : Console.Backend) (part : Console.Written → String)
    (hpart : part ⟨"", ""⟩ = "") (es : List Event) :
    String.join (es.map fun e => part (written b e)) =
      String.join ((es.filterMap Event.message?).map fun m => part (b.written m)) := by
  induction es with
  | nil => rfl
  | cons e es ih =>
    rw [List.map_cons, String.join_cons, ih]
    cases hmessage : e.message? with
    | none =>
      have hnothing : written b e = ⟨"", ""⟩ := by
        cases e with
        | message m => cases hmessage
        | call c | clockRead | request url | log record => rfl
      rw [hnothing, hpart, String.empty_append, List.filterMap_cons_none hmessage]
    | some m =>
      have hwritten : written b e = b.written m := by
        cases e with
        | message m' =>
          cases hmessage
          rfl
        | call c | clockRead | request url | log record => cases hmessage
      rw [hwritten, List.filterMap_cons_some hmessage, List.map_cons, String.join_cons]

/-- **What is printed** is what the console writes for the messages that are said. -/
lemma prints_of_said (h : Says st st' ms) :
    Prints b st st' (String.join (ms.map fun m => (b.written m).out))
      (String.join (ms.map fun m => (b.written m).err)) := by
  have hout (j : Journal) : outText b j.events.toList =
      String.join (j.messages.map fun m => (b.written m).out) :=
    join_written b Console.Written.out rfl _
  have herr (j : Journal) : errText b (fun _ => "") j.events.toList =
      String.join (j.messages.map fun m => (b.written m).err) := by
    rw [errText]
    simp only [String.empty_append]
    exact join_written b Console.Written.err rfl _
  rw [Prints, hout, hout, herr, herr, h]
  simp [String.join_append]

/-- A legible error is printed on the standard error, as one line. -/
lemma prints_error {text : String} (h : Says st st' [.error text])
    (hlegible : b.Legible (Console.Kind.mark .error b ++ text)) :
    Prints b st st' "" (line b .error text) := by
  have hline := Console.Backend.written_of_legible hlegible
  have hwritten : b.written (.error text) = .toErr (line b .error text) := hline
  have hprints := prints_of_said (b := b) h
  rwa [List.map_singleton, List.map_singleton, hwritten, String.join_cons, String.join_cons,
    String.join_nil, String.append_empty, String.append_empty] at hprints

end Program

end ParseBench
