import ParseBench.Text.Utf8

set_option relaxedAutoImplicit false
set_option autoImplicit false

/-!
# Volumes

A volume is what a file system holds: a file or a directory at each of finitely many locations. It
changes by primitive steps, each of which is data and has one effect.

## Main definitions

* `ParseBench.Files.Location`, `ParseBench.Files.Node`, `ParseBench.Files.Volume` — the data.
* `ParseBench.Files.Refusals` — the changes that are refused although nothing is in their way.
* `ParseBench.Files.Volume.node?` — what is at a location.
* `ParseBench.Files.Change` — the primitive steps, and `ParseBench.Files.Change.apply` their effect.

## Implementation notes

Which changes are refused is a parameter of a volume. It depends on the place alone and stays as it
is while a volume changes: rights and the greatest size of a file are like this, the room that is
left on a disk is so only for one change at a time. Looking at a volume and reading from it are
never refused.
-/

namespace ParseBench.Files

open ParseBench.Text (Bytes)

/-- The names that lead from the root directory to a place. -/
abbrev Location := List String

/-- What can be at a location. -/
inductive Node where
  | file (content : Bytes)
  | directory
deriving DecidableEq, Repr

/-- Why the operating system refuses a change although nothing is in its way. -/
inductive Refusal where
  | notPermitted
  | inputOutput
  | accessDenied
  | fileTooLarge
  | noSpace
  | readOnly
  | overQuota
deriving DecidableEq, Repr

/-- The changes of a volume that are refused. -/
structure Refusals where
  /-- Making a directory. -/
  makes : Location → Option Refusal
  /-- Opening a file to write it. -/
  opens : Location → Option Refusal
  /-- Writing more than so many bytes into a file. -/
  limits : Location → Option (Nat × Refusal)
  /-- Moving a file to another place. -/
  moves : Location → Location → Option Refusal

/-- Nothing is refused. -/
def Refusals.none : Refusals := ⟨fun _ => .none, fun _ => .none, fun _ => .none, fun _ _ => .none⟩

/-- A file system, the directory in which the program runs, and the changes that are refused. -/
structure Volume where
  nodes : List (Location × Node)
  current : Location
  refusals : Refusals

namespace Volume

/-- A volume that holds nothing and refuses nothing. -/
def empty : Volume := ⟨[], [], .none⟩

/-- What is at a location. The root is always a directory. -/
def node? (v : Volume) (l : Location) : Option Node :=
  if l = [] then some .directory else v.nodes.lookup l

/-- Removes what is at a location. -/
def erase (v : Volume) (l : Location) : Volume :=
  { v with nodes := v.nodes.filter fun e => e.1 != l }

/-- Puts a node at a location, in place of what was there. -/
def put (v : Volume) (l : Location) (n : Node) : Volume :=
  { v with nodes := (v.erase l).nodes ++ [(l, n)] }

/-- The content of the file at a location. -/
def file? (v : Volume) (l : Location) : Option Bytes :=
  match v.node? l with
  | some (.file content) => some content
  | _ => none

end Volume

/-- A primitive step. -/
inductive Change where
  | makeDirectory (place : Location)
  | write (place : Location) (content : Bytes)
  | move (source target : Location)
deriving DecidableEq, Repr

namespace Change

/-- The effect of a step. -/
def apply (v : Volume) : Change → Volume
  | .makeDirectory place => v.put place .directory
  | .write place content => v.put place (.file content)
  | .move source target =>
    match v.node? source with
    | some n => (v.erase source).put target n
    | none => v

/-- The effect of several steps. -/
def applyAll (v : Volume) (changes : List Change) : Volume :=
  changes.foldl apply v

end Change

end ParseBench.Files
