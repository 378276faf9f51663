import ParseBench.Bench.Config
import ParseBench.Bench.Fixture
import ParseBench.Fixture.Identifier
import ParseBench.Fixture.Store
import ParseBench.Http.Fetch
import ParseBench.Log.Sink

set_option relaxedAutoImplicit false
set_option autoImplicit false

/-!
# The fixture cache

Fixtures are kept in a directory, one file each. The names of the fixtures of a list have to differ.
An entry that cannot be read counts as missing, but one that can be read has to be a text.

## Main definitions

* `ParseBench.Fixture.CacheAbort` — what can end a resolution.
* `ParseBench.Fixture.checkUrls` — the names of the fixtures of a list of URLs, which have to
  differ.
* `ParseBench.Fixture.look` — looks for an entry.
* `ParseBench.Fixture.Progress` — a volume with its log file, the steps that led to it and the
  events on the way.
-/

namespace ParseBench.Fixture

open ParseBench.Bench (Config)
open ParseBench.Files
open ParseBench.Http (FetchFault)
open ParseBench.Log (Desk)
open ParseBench.Text (Points quotedPoints)

/-! ## Faults -/

/-- Why the cache is of no use. -/
inductive CacheFailure where
  | undecodable (entry : Path) (fault : Text.Utf8.Fault)
  | unstorable (entry : Path) (fault : AccessFault)
deriving DecidableEq, Repr

/-- The wording of a failure. -/
def CacheFailure.message : CacheFailure → String
  | .undecodable entry fault =>
    "cached fixture " ++ entry.text ++ " is not valid UTF-8: " ++ fault.message
  | .unstorable entry fault => "cannot store fixture in " ++ entry.text ++ ": " ++ fault.message

/-- What can end a resolution. -/
inductive CacheAbort where
  | unnamed (fault : NameFault)
  /-- A URL names a fixture that an earlier one names. -/
  | duplicate (later : Named)
  | failure (f : CacheFailure)
  /-- A URL cannot be fetched. -/
  | fetch (url : Points) (reason : String)
  /-- A fetch failed in a way that has nothing to do with HTTP. -/
  | foreign (fault : FetchFault)
  /-- The path of an entry is malformed. -/
  | path
  /-- The path of an entry holds a surrogate that no file name can hold. -/
  | unencodable (fault : Text.Utf8.SurrogateFault)
  /-- The path of an entry has no last name. -/
  | noName (entry : Path)
  /-- An answer is awaited that never comes. -/
  | endless
deriving Repr

/-- The wording of a duplicate. -/
def duplicateMessage (later : Named) : Points :=
  .ofString ("duplicate fixture name " ++ quotedPoints later.name ++ " (from ") ++ later.url ++
    .ofString ")"

/-- The wording of a failed fetch. -/
def fetchMessage (url : Points) (reason : String) : Points :=
  .ofString "failed to fetch " ++ url ++ .ofString (": " ++ reason)

/-- Whether the reason stops everything that is under way at once. -/
def CacheAbort.stopsAtOnce : CacheAbort → Bool
  | .foreign (.transport (.foreign fault)) => fault.stopsAtOnce
  | _ => false

/-- What a fault of the fetch of a URL ends the resolution with. -/
def CacheAbort.ofFetch (url : Points) (fault : FetchFault) : CacheAbort :=
  match fault.httpReason? with
  | some reason => .fetch url reason
  | none => .foreign fault

/-- What a fault of storing an entry ends the resolution with. -/
def CacheAbort.ofStore (entry : Path) : StoreFault → CacheAbort
  | .access .nul => .path
  | .access fault => .failure (.unstorable entry fault)
  | .noName bare => .noName bare

/-! ## Names and entries -/

/-- The names of the fixtures at URLs, which have to differ. -/
def checkUrls (urls : List Points) : Except CacheAbort (List Named) := do
  let named ← (nameAll urls).mapError .unnamed
  match firstClash [] named with
  | some clash => .error (.duplicate clash.later)
  | none => return named

/-- The path of an entry. -/
def entryPath (c : Config) (name : Points) : Path := c.cache.child name.lossy

/-- Whether a code point can stand in a file name: the surrogates that stand for single bytes
can. -/
def fitsFileName (p : Text.CodePoint) : Bool :=
  !p.isSurrogate || (0xDC80 ≤ p.number && p.number ≤ 0xDCFF)

/-- The first run of surrogates of an entry's path that cannot stand in a file name. Only the name
can hold any. -/
def unencodable? (c : Config) (name : Points) : Option Text.Utf8.SurrogateFault :=
  match name.span fitsFileName with
  | (_, []) => none
  | (before, p :: rest) =>
    some ⟨(entryPath c name).text.length - name.length + before.length,
      (rest.takeWhile Text.CodePoint.isSurrogate).length + 1, p⟩

/-- What is found in the place of an entry. -/
inductive Look where
  | hit (content : String)
  | miss
  | fault (abort : CacheAbort)

/-- Reads an entry. The names on a volume are ordinary texts, so that an entry with a surrogate in
its name is never there. -/
def readEntry (c : Config) (v : Volume) (name : Points) : Except AccessFault Text.Bytes :=
  let entry := entryPath c name
  if name.isText || entry.hasNul then v.read entry else .error (Volume.faultAt entry .noEntry)

/-- Looks for an entry as the volume is at one moment. An entry that cannot be read counts as
missing. -/
def look (c : Config) (v : Volume) (name : Points) : Look :=
  match unencodable? c name with
  | some fault => .fault (.unencodable fault)
  | none =>
    match readEntry c v name with
    | .ok bytes =>
      match Text.Utf8.decode bytes with
      | .ok content => .hit content
      | .error fault => .fault (.failure (.undecodable (entryPath c name) fault))
    | .error .nul => .fault .path
    | .error _ => .miss

/-! ## Progress -/

/-- How far a resolution has come. -/
structure Progress where
  desk : Desk
  /-- The steps taken so far, in order. -/
  changes : List Change
  /-- The events so far, in order. -/
  events : List Event

namespace Progress

/-- A resolution that has not begun. -/
def ofDesk (d : Desk) : Progress := ⟨d, [], []⟩

/-- The volume as it is now. -/
def volume (p : Progress) : Volume := p.desk.volume

/-- Adds events. -/
def note (p : Progress) (es : List Event) : Progress :=
  { p with desk := p.desk.note es, events := p.events ++ es }

/-- Takes steps. -/
def take (p : Progress) (changes : List Change) : Progress :=
  { p with desk := p.desk.take changes, changes := p.changes ++ changes }

end Progress

/-- The announcement of what is done for a fixture; on a build server also on the console. -/
def announce (c : Config) (logged shown : String) : List Event :=
  .log ⟨.cache, .info, logged⟩ :: if c.isCI then [.message (.info shown)] else []

end ParseBench.Fixture
