import ParseBench.Files.TextFile
import ParseBench.Fixture.Identifier
import ParseBench.Yaml.Outline

set_option relaxedAutoImplicit false
set_option autoImplicit false

/-!
# Fixture manifests

A manifest is a YAML file: a mapping whose entry `urls` is a list of the URLs of the fixtures. The
URLs have to name fixtures, and to name different ones.

## Main definitions

* `ParseBench.Fixture.defaultUrls` — the fixtures that are used without a manifest.
* `ParseBench.Fixture.manifestUrls` — the URLs of a document, if it is a manifest.
* `ParseBench.Fixture.readManifest` — the URLs of a manifest file.
-/

namespace ParseBench.Fixture

open ParseBench.Files
open ParseBench.Text (Points quotedPoints)
open ParseBench.Yaml (Outline)

/-- The directory of the default fixtures. -/
def defaultDirectory : String :=
  "https://raw.githubusercontent.com/sveltejs/learn.svelte.dev/" ++
    "766e768fd0de3168c37c297e41162349f0a8f8a6/src/routes/tutorial/%5Bslug%5D"

/-- The fixtures that are used without a manifest. -/
def defaultUrls : List Points :=
  ["/Menu.svelte", "/Editor.svelte", "/Output.svelte"].map fun name =>
    .ofString (defaultDirectory ++ name)

/-! ## Faults -/

/-- Why a document is not a manifest. -/
inductive ManifestFault where
  /-- There is no entry `urls`, or it is not a list, or it is empty. -/
  | noUrls
  /-- An entry of the list is not a text, or it is empty. -/
  | badEntry
  | unnamed (fault : NameFault)
  | clash (clash : Clash)
deriving DecidableEq, Repr

/-- Why a manifest cannot be used. -/
inductive ManifestFailure where
  | unreadable (path : Path) (fault : AccessFault)
  | notYaml (path : Path) (detail : String)
  | notManifest (path : Path) (fault : ManifestFault)
deriving DecidableEq, Repr

/-- The wording of a failure, which may show surrogates. -/
def ManifestFailure.wording : ManifestFailure → Points
  | .unreadable path fault =>
    .ofString ("cannot read fixture manifest " ++ path.text ++ ": " ++ fault.message)
  | .notYaml path detail => .ofString ("invalid YAML in " ++ path.text ++ ": " ++ detail)
  | .notManifest path .noUrls => .ofString (path.text ++ " must define a non-empty 'urls' list")
  | .notManifest path .badEntry =>
    .ofString (path.text ++ ": every entry in 'urls' must be a non-empty string")
  | .notManifest path (.unnamed fault) => .ofString (path.text ++ ": ") ++ fault.wording
  | .notManifest path (.clash c) =>
    .ofString (path.text ++ ": ") ++ c.later.url ++ .ofString " and " ++ c.earlier.url ++
      .ofString (" share the fixture name " ++ quotedPoints c.later.name)

/-- The wording of a failure. -/
def ManifestFailure.message (f : ManifestFailure) : String := f.wording.lossy

/-- What can end the reading of a manifest. -/
inductive ManifestAbort where
  | failure (f : ManifestFailure)
  /-- The path is malformed. -/
  | path
  /-- The file is not UTF-8. -/
  | utf8 (fault : Text.Utf8.Fault)
  /-- A scalar has no value of its kind. -/
  | scalar (fault : Yaml.ScalarFault)
  /-- The document is nested too deeply. -/
  | tooDeep
deriving DecidableEq, Repr

/-! ## Manifests -/

/-- The texts of a list of outlines, if all of them are texts and none is empty. -/
def nonEmptyTexts : List Outline → Option (List Points)
  | [] => some []
  | .text s :: rest => if s.isEmpty then none else (nonEmptyTexts rest).map (s :: ·)
  | _ :: _ => none

/-- Checks URLs one after the other: each has to name a fixture that none of those before it
names. -/
def checkNames (seen : List Named) : List Points → Except ManifestFault Unit
  | [] => .ok ()
  | url :: rest => do
    let name ← (identifier url).mapError .unnamed
    match firstClash seen [⟨url, name⟩] with
    | some c => .error (.clash c)
    | none => checkNames (seen ++ [⟨url, name⟩]) rest

/-- The URLs of a document, if it is a manifest. -/
def manifestUrls (document : Outline) : Except ManifestFault (List Points) :=
  match document.get? "urls" with
  | some (.list (item :: items)) =>
    match nonEmptyTexts (item :: items) with
    | none => .error .badEntry
    | some urls => (checkNames [] urls).map fun _ => urls
  | _ => .error .noUrls

/-- How deep a document is looked at: the mapping, the list in it and the URLs in the list. -/
def manifestDepth : Nat := 3

/-- The document in a manifest file. -/
def manifestDocument (path : Path) (text : String) : Except ManifestAbort Outline :=
  match Yaml.outline manifestDepth text.toList with
  | .ok document => .ok document
  | .error (.malformed detail) => .error (.failure (.notYaml path detail))
  | .error (.scalar fault) => .error (.scalar fault)
  | .error .tooDeep => .error .tooDeep

/-- The URLs of a manifest file. -/
def readManifest (v : Volume) (path : Path) : Except ManifestAbort (List Points) := do
  let text ← match v.readText path with
    | .ok text => .ok text
    | .error (.access .nul) => .error .path
    | .error (.access fault) => .error (.failure (.unreadable path fault))
    | .error (.utf8 fault) => .error (.utf8 fault)
  let document ← manifestDocument path text
  (manifestUrls document).mapError fun fault => .failure (.notManifest path fault)

end ParseBench.Fixture
