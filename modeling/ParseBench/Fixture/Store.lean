import ParseBench.Files.Access

set_option relaxedAutoImplicit false
set_option autoImplicit false

/-!
# Storing a cache entry

An entry is written to a hidden file beside it first, and then moved into place, so that an entry is
never there in part. This is a job that is done step by step: each step is one operation on the
volume, and other jobs may take steps in between.

## Main definitions

* `ParseBench.Fixture.temporary?` — the hidden file of an entry.
* `ParseBench.Fixture.Job` — what is left to be done to store an entry.
* `ParseBench.Fixture.Job.step` — one step of a job.

## Implementation notes

An open file is written in pieces of any size, and is told by its place; nothing else opens or moves
the hidden file of an entry.
-/

namespace ParseBench.Fixture

open ParseBench.Files
open ParseBench.Text (Bytes)

/-- Why an entry cannot be stored. -/
inductive StoreFault where
  | access (fault : AccessFault)
  /-- The path of the entry has no last name. -/
  | noName (path : Path)
deriving DecidableEq, Repr

/-- The name of the hidden file of an entry. -/
def temporaryName (name : String) : String := "." ++ name ++ ".tmp"

/-- The hidden file of an entry. -/
def temporary? (entry : Path) : Option Path := entry.withName? (temporaryName entry.name)

/-- What is left to be done to store an entry. -/
inductive Job where
  /-- Making a directory, and then those `below` it. If the one above is missing, that one is made
  first as long as the job is still `climbing`. -/
  | making (directory : Path) (climbing : Bool) (below : List Path)
  /-- Looking whether a directory is there that could not be made. -/
  | checking (directory : Path) (fault : AccessFault) (below : List Path)
  | opening (hidden : Path)
  /-- Writing more into the hidden file, which is open and holds so many bytes of the data. -/
  | writing (hidden : Path) (place : Location) (written : Nat)
  | moving (hidden : Path)
  | ended (result : Except StoreFault Unit)

namespace Job

/-- The whole job. -/
def start (entry : Path) : Job := .making entry.parent true []

/-- What is left to be done once a directory is there: those below it are made, and then the hidden
file is opened. -/
def after (entry : Path) : List Path → Job
  | directory :: below => .making directory false below
  | [] =>
    match temporary? entry with
    | none => .ended (.error (.noName entry))
    | some hidden => .opening hidden

/-- A job that has failed. -/
def failed (fault : AccessFault) : Job := .ended (.error (.access fault))

/-- Makes a directory, or finds out what is in the way. -/
def make (v : Volume) (entry directory : Path) (climbing : Bool) (below : List Path) :
    List Change × Job :=
  match v.makeDirectory directory with
  | .ok change => ([change], after entry below)
  | .error (.os .noEntry path other) =>
    if climbing && !directory.names.isEmpty then
      ([], .making directory.parent true (directory :: below))
    else ([], failed (.os .noEntry path other))
  | .error fault => ([], .checking directory fault below)

/-- Writes a piece of the data into the hidden file, which holds so many bytes of them, or all that
is left. -/
def put (v : Volume) (hidden : Path) (place : Location) (data : Bytes) (written : Nat)
    (piece : Option Nat) : List Change × Job :=
  let total := match piece with
    | some size => written + size
    | none => data.length
  match v.writeAt place (data.take total) with
  | (change, .error fault) => ([change], failed fault)
  | (change, .ok ()) =>
    ([change], if total < data.length then .writing hidden place total else .moving hidden)

/-- One step of a job. If it writes, then a piece of the data, or all that is left. -/
def step (v : Volume) (entry : Path) (data : Bytes) (piece : Option Nat) : Job → List Change × Job
  | .making directory climbing below => make v entry directory climbing below
  | .checking directory fault below =>
    match v.forgive directory fault with
    | .ok () => ([], after entry below)
    | .error fault => ([], failed fault)
  | .opening hidden =>
    match v.writable hidden with
    | .ok place => put v hidden place data 0 piece
    | .error fault => ([], failed fault)
  | .writing hidden place written => put v hidden place data written piece
  | .moving hidden =>
    match v.replace hidden entry with
    | .ok change => ([change], .ended (.ok ()))
    | .error fault => ([], failed fault)
  | .ended result => ([], .ended result)

/-- How many steps are left at most if no step writes less than all that is left. -/
def rank : Job → Nat
  | .making directory true below => 3 * directory.names.length + 2 * below.length + 5
  | .making _ false below => 2 * below.length + 5
  | .checking _ _ below => 2 * below.length + 4
  | .opening _ => 3
  | .writing _ _ _ => 2
  | .moving _ => 1
  | .ended _ => 0

end Job

end ParseBench.Fixture
