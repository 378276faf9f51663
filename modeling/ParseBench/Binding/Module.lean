import ParseBench.Binding.Fault
import ParseBench.Journal

set_option relaxedAutoImplicit false
set_option autoImplicit false

/-!
# Bindings

A binding is a module with two entry points, one that answers at once and one whose answer is
awaited. An entry point is a function of the number of earlier calls and the source text.

## Main definitions

* `ParseBench.Binding` — a binding.
* `ParseBench.Binding.missing` — the entry points that it lacks.
* `ParseBench.Binding.call` — calling an entry point.
-/

namespace ParseBench

namespace Binding

/-- What a call gives. -/
inductive Reply where
  | value (v : Raw)
  | raised (f : Fault)
deriving Inhabited, Repr

/-- What a binding holds under the name of an entry point. -/
inductive EntryPoint where
  /-- The name is not defined. -/
  | absent
  /-- The name is defined but cannot be called. -/
  | constant (v : Raw)
  /-- A function that answers at once. -/
  | function (reply : Nat → String → Reply)
  /-- A function whose answer has to be awaited. -/
  | coroutine (reply : Nat → String → Reply)

/-- Whether a name is defined. -/
def EntryPoint.isDefined : EntryPoint → Bool
  | .absent => false
  | _ => true

/-- The name of the entry point of a mode. -/
def entryName : CallMode → String
  | .blocking => "parse_sync"
  | .deferred => "parse_async"

end Binding

open Binding in
/-- A module with the entry points of a parser. -/
structure Binding where
  name : String
  blocking : EntryPoint
  deferred : EntryPoint

namespace Binding

/-- The entry point of a mode. -/
def entry (b : Binding) : CallMode → EntryPoint
  | .blocking => b.blocking
  | .deferred => b.deferred

/-- The names of the entry points that a binding lacks. -/
def missing (b : Binding) : List String :=
  ([.blocking, .deferred].filter fun mode => !(b.entry mode).isDefined).map entryName

/-- What awaiting the answer of a coroutine gives. -/
def awaited : Reply → Reply
  | .raised f => .raised f.awaited
  | reply => reply

/-- What awaiting an ordinary value gives. -/
def notAwaitable : Reply → Reply
  | .value v =>
    .raised (.ofText "TypeError"
      ("object " ++ v.qualifiedKind ++ " can't be used in 'await' expression"))
  | reply => reply

/-- Calls the entry point of a mode and, if it is the deferred one, awaits the answer. A call is
noted only if a function runs. -/
def call (b : Binding) (mode : CallMode) (source : String) : StateM Journal Reply := do
  let run (reply : Nat → String → Reply) : StateM Journal Reply := do
    let j ← get
    set (j.add (.call ⟨mode, source⟩))
    return reply (j.callCount mode) source
  match b.entry mode with
  | .absent =>
    return .raised (.ofText "AttributeError"
      ("module " ++ Text.quoted b.name ++ " has no attribute " ++ Text.quoted (entryName mode)))
  | .constant v =>
    return .raised (.ofText "TypeError" ("'" ++ v.qualifiedKind ++ "' object is not callable"))
  | .function reply =>
    match mode with
    | .blocking => run reply
    | .deferred => return notAwaitable (← run reply)
  | .coroutine reply =>
    match mode with
    | .blocking => return .value (.object [])
    | .deferred => return awaited (← run reply)

end Binding

end ParseBench
