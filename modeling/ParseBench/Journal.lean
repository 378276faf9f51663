import ParseBench.Console.Message
import ParseBench.Log

set_option relaxedAutoImplicit false
set_option autoImplicit false

/-!
# The journal of a run

Everything observable that a run does apart from its result is an event: a call of the parser, a
reading of the clock, a request to a server, a log record, a message on the console. The journal
keeps the events in order, and counts those whose number decides what comes next.

## Main definitions

* `ParseBench.CallMode` — the two ways of calling the parser.
* `ParseBench.Event`, `ParseBench.Journal` — the events and their journal.
* `ParseBench.Act` — a computation that writes a journal and can fail.
-/

namespace ParseBench

/-- The two ways of calling the parser. -/
inductive CallMode where
  | blocking
  | deferred
deriving DecidableEq, Repr

/-- The name of a calling mode. -/
def CallMode.name : CallMode → String
  | .blocking => "blocking"
  | .deferred => "deferred"

/-- The calling mode of a name. -/
def CallMode.ofName? (name : String) : Option CallMode :=
  if name = "blocking" then some .blocking
  else if name = "deferred" then some .deferred
  else none

/-- A call of the parser. -/
structure Call where
  mode : CallMode
  source : String
deriving DecidableEq, Repr

/-- An observable event. -/
inductive Event where
  | call (c : Call)
  | clockRead
  | request (url : String)
  | log (record : Log.Record)
  | message (m : Console.Message)
deriving DecidableEq, Repr

/-- The events of a run in order, with the numbers of calls and clock readings among them. -/
structure Journal where
  events : Array Event
  blockingCalls : Nat
  deferredCalls : Nat
  clockReads : Nat
deriving DecidableEq, Repr

namespace Journal

/-- The journal of a run that has not begun. -/
def empty : Journal := ⟨#[], 0, 0, 0⟩

/-- The number of calls of one mode. -/
def callCount (j : Journal) : CallMode → Nat
  | .blocking => j.blockingCalls
  | .deferred => j.deferredCalls

/-- Adds an event. -/
def add (j : Journal) (e : Event) : Journal :=
  let j := { j with events := j.events.push e }
  match e with
  | .call ⟨.blocking, _⟩ => { j with blockingCalls := j.blockingCalls + 1 }
  | .call ⟨.deferred, _⟩ => { j with deferredCalls := j.deferredCalls + 1 }
  | .clockRead => { j with clockReads := j.clockReads + 1 }
  | _ => j

/-- Adds events in order. -/
def addAll (j : Journal) (es : List Event) : Journal :=
  es.foldl add j

/-- The calls of the parser, in order. -/
def calls (j : Journal) : List Call :=
  j.events.toList.filterMap fun
    | .call c => some c
    | _ => none

end Journal

/-- A computation that writes a journal and can fail. What was written before a failure is kept. -/
abbrev Act (ε α : Type) := ExceptT ε (StateM Journal) α

namespace Act

/-- Notes an event. -/
def note {ε : Type} (e : Event) : Act ε Unit :=
  modify fun j => j.add e

/-- Writes a log record. -/
def log {ε : Type} (source : Log.Source) (level : Log.Level) (message : String) : Act ε Unit :=
  note (.log ⟨source, level, message⟩)

/-- Continues with a result that may be a failure. -/
def ofExcept {ε α : Type} (r : Except ε α) : Act ε α :=
  match r with
  | .ok a => pure a
  | .error e => throw e

/-- Runs a computation, its failures seen through `f`. -/
def mapFailure {ε δ α : Type} (f : ε → δ) (act : Act ε α) : Act δ α := fun j =>
  match act j with
  | (.ok a, j) => (.ok a, j)
  | (.error e, j) => (.error (f e), j)

end Act

end ParseBench
