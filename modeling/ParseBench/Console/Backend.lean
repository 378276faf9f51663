import ParseBench.Console.Plain
import ParseBench.Console.Rich

set_option relaxedAutoImplicit false
set_option autoImplicit false

/-!
# Console backends

The two ways of laying out messages, and the choice between them.

## Main definitions

* `ParseBench.Console.Backend` — a backend, and `ParseBench.Console.Backend.render`,
  `ParseBench.Console.Backend.written` its output.
* `ParseBench.Console.Backend.select` — the backend of a name.
-/

namespace ParseBench.Console

/-- A way of laying out messages. -/
inductive Backend where
  | plain
  | rich (screen : Rich.Screen)
deriving DecidableEq, Repr

/-- The text of a message. Titles and headers for a terminal are markup, which may have faults. -/
def Backend.render : Backend → Message → Except Markup.Fault Written
  | .plain => fun m => .ok (Plain.render m)
  | .rich screen => Rich.render screen

/-- What is written for a message; one that has a fault writes nothing. -/
def Backend.written (b : Backend) (m : Message) : Written :=
  match b.render m with
  | .ok w => w
  | .error _ => ⟨"", ""⟩

/-- A name that is no backend's. -/
structure UnknownBackend where
  name : String
deriving DecidableEq, Repr

/-- The wording of an unknown backend. -/
def UnknownBackend.message (u : UnknownBackend) : String :=
  "Unknown console backend: " ++ Text.quoted u.name

/-- The screen of the program's own terminal. -/
def ownScreen : Rich.Screen := ⟨80, false⟩

/-- The backend of a name; `auto` stands for the rich one on a terminal and for the plain one
elsewhere. -/
def Backend.select (terminal : Bool) (name : String) : Except UnknownBackend Backend :=
  if name = "plain" then .ok .plain
  else if name = "rich" then .ok (.rich ownScreen)
  else if name = "auto" then .ok (if terminal then .rich ownScreen else .plain)
  else .error ⟨name⟩

end ParseBench.Console
