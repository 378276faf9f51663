import ParseBench.Url.Split

set_option relaxedAutoImplicit false
set_option autoImplicit false

/-!
# Fixture names

A fixture is named by the last segment of the path of its URL. The name is also the name of its file
in the cache.

## Main definitions

* `ParseBench.Fixture.identifier` — the name of the fixture at a URL.
* `ParseBench.Fixture.nameAll` — several URLs with the names of their fixtures.
* `ParseBench.Fixture.firstClash` — the first URL whose fixture has the name of an earlier one.
-/

namespace ParseBench.Fixture

open ParseBench.Text (Points quotedPoints)

/-- Why a URL names no fixture. -/
inductive NameFault where
  /-- The URL cannot be split. -/
  | unsplit (fault : Url.Fault)
  /-- The last segment of the path is empty. -/
  | noName (url : Points)
deriving DecidableEq, Repr

/-- The wording of a fault, which may show surrogates. -/
def NameFault.wording : NameFault → Points
  | .unsplit fault => fault.wording
  | .noName url => .ofString ("cannot derive a fixture name from " ++ quotedPoints url)

/-- The wording of a fault. -/
def NameFault.message (f : NameFault) : String := f.wording.lossy

/-- The name of the fixture at a URL. -/
def identifier (url : Points) : Except NameFault Points :=
  match Url.split url with
  | .error fault => .error (.unsplit fault)
  | .ok parts =>
    match Url.afterLast '/' parts.path with
    | [] => .error (.noName url)
    | name => .ok name

/-- A URL and the name of its fixture. -/
structure Named where
  url : Points
  name : Points
deriving DecidableEq, Repr

/-- Two URLs with the same fixture name: the later one and the earlier one. -/
structure Clash where
  later : Named
  earlier : Named
deriving DecidableEq, Repr

/-- The first URL whose name an earlier one has. -/
def firstClash (seen : List Named) : List Named → Option Clash
  | [] => none
  | n :: rest =>
    match seen.find? fun s => s.name = n.name with
    | some s => some ⟨n, s⟩
    | none => firstClash (seen ++ [n]) rest

/-- The names of URLs, in order, up to the first that has none. -/
def nameAll (urls : List Points) : Except NameFault (List Named) :=
  urls.mapM fun url => (identifier url).map (Named.mk url)

end ParseBench.Fixture
