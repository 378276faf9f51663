import ParseBench.Bench.Artifact
import ParseBench.Proofs.Bench.Label
import ParseBench.Proofs.Files.Places
import ParseBench.Proofs.Fixture.Entry
import ParseBench.Proofs.Json.RoundTrip

set_option relaxedAutoImplicit false
set_option autoImplicit false

/-!
# Artifacts that can be read

The label of a task gives the name of its fixture back, and the name of a fixture at a URL holds no
line break. So results of labelled tasks have records, and the file that is written for them is read
as these records.

## Main results

* `ParseBench.Bench.fixtureOfLabel_of_identifier` — the label of a fixture at a URL gives its name
  back.
* `ParseBench.Bench.read_artifactText` — the file is read as its records.
* `ParseBench.Bench.writeArtifact_eq_ok_iff` — when a write on a build server succeeds, and what it
  does then.
-/

namespace ParseBench.Bench

open ParseBench.Files

/-! ## Labels -/

/-- **The label of a fixture that is named by a URL** gives this name back. -/
lemma fixtureOfLabel_of_identifier {url : Text.Points} {name : String}
    (h : ParseBench.Fixture.identifier url = .ok (.ofString name)) :
    fixtureOfLabel (taskLabel name) = .ok name := by
  have hname := (ParseBench.Fixture.identifier_shape h).1
  have hline := ParseBench.Fixture.notMem_identifier (c := '\n') (by decide) h
  rw [← Text.Points.toList_lossy, Text.Points.lossy_ofString] at hline
  refine fixtureOfLabel_taskLabel ?_ hline
  rintro rfl
  exact hname rfl

/-! ## Records -/

/-- The record of a fixture with a result. -/
def recordOf (name : String) (r : TaskResult) : Record := ⟨name, r.period / 1000000.0⟩

/-- Results whose labels give names have records with these names, in order. -/
lemma buildRecords_eq_ok {names : List String} {results : List TaskResult}
    (h : List.Forall₂ (fun name r => fixtureOfLabel r.label = .ok name) names results) :
    buildRecords results = .ok (List.zipWith recordOf names results) := by
  induction h with
  | nil => rfl
  | @cons name r names results hlabel _ ih =>
    rw [buildRecords] at ih
    rw [buildRecords, List.mapM_cons, ih, Record.ofResult, hlabel]
    rfl

/-- **Results have records exactly if each label names a fixture.** -/
lemma buildRecords_eq_ok_iff {results : List TaskResult} {records : List Record} :
    buildRecords results = .ok records ↔
      ∃ names, List.Forall₂ (fun name r => fixtureOfLabel r.label = .ok name) names results ∧
        records = List.zipWith recordOf names results := by
  constructor
  · intro h
    have hall := forall₂_of_mapM h
    clear h
    induction hall with
    | nil => exact ⟨[], .nil, rfl⟩
    | @cons r record results records hr _ ih =>
      obtain ⟨names, hnames, rfl⟩ := ih
      obtain ⟨name, hname, hrecord⟩ := bind_eq_ok_iff.1 hr
      cases hrecord
      exact ⟨name :: names, .cons hname hnames, rfl⟩
  · rintro ⟨names, hnames, rfl⟩
    exact buildRecords_eq_ok hnames

/-- The file is in the data directory, which is there. -/
lemma destination_eq_ok {c : Config} {v : Volume} {path : Path} (h : destination c v = .ok path) :
    ∃ dir, c.dataDirectory = some dir ∧ v.isDirectory dir = .ok true ∧ path = artifactFile dir := by
  rw [destination] at h
  split at h
  · cases h
  · next dir hdir =>
    refine ⟨dir, hdir, ?_⟩
    split at h
    · cases h
    · cases h
    · next htrue =>
      cases h
      exact ⟨htrue, rfl⟩

/-- The results file lies in the data directory. -/
lemma artifactFile_eq (dir : Path) :
    artifactFile dir = ⟨dir.root, dir.names ++ ["results.json"]⟩ := rfl

/-- A build server that is prepared has a data directory. -/
lemma preflight_eq_ok {c : Config} {v : Volume} (hci : c.isCI = true)
    (h : preflight c v = .ok ()) :
    ∃ dir, c.dataDirectory = some dir ∧ v.isDirectory dir = .ok true := by
  rw [preflight, if_pos hci] at h
  cases hpath : destination c v with
  | error a =>
    rw [hpath] at h
    cases h
  | ok path =>
    obtain ⟨dir, hdir, hdirectory, -⟩ := destination_eq_ok hpath
    exact ⟨dir, hdir, hdirectory⟩

/-- The file and its records are known once the data directory is there and the labels name
fixtures. -/
lemma artifactOf_eq_ok_iff {c : Config} {v : Volume} {results : List TaskResult} {path : Path}
    {records : List Record} :
    artifactOf c v results = .ok (path, records) ↔
      (∃ dir, c.dataDirectory = some dir ∧ v.isDirectory dir = .ok true ∧ path = artifactFile dir) ∧
        buildRecords results = .ok records := by
  constructor
  · intro h
    obtain ⟨path', hpath, h⟩ := bind_eq_ok_iff.1 h
    obtain ⟨records', hrecords, h⟩ := bind_eq_ok_iff.1 h
    cases h
    exact ⟨destination_eq_ok hpath, mapError_eq_ok_iff.1 hrecords⟩
  · rintro ⟨⟨dir, hdir, hdirectory, rfl⟩, hrecords⟩
    have hpath : destination c v = .ok (artifactFile dir) := by
      rw [destination, hdir]
      dsimp only
      rw [hdirectory]
    rw [artifactOf, hpath, hrecords]
    rfl

/-- A write on a build server, once the data directory is there and the results have records. -/
lemma writeArtifact_eq {c : Config} {v : Volume} {results : List TaskResult} {path : Path}
    {records : List Record} (hci : c.isCI = true)
    (h : artifactOf c v results = .ok (path, records)) :
    writeArtifact c v results =
      ((v.write path (Text.Utf8.encode (artifactText records))).1,
        ((v.write path (Text.Utf8.encode (artifactText records))).2.mapError
          (.ofWrite path)).map fun _ => some path) := by
  rw [writeArtifact, hci, h]
  rfl

/-- **How a write on a build server ends**: before the file is opened, or as writing the file
ends. -/
lemma writeArtifact_cases {c : Config} {v : Volume} {results : List TaskResult} {steps : List Change}
    {written : Except ArtifactAbort (Option Path)} (hci : c.isCI = true)
    (h : writeArtifact c v results = (steps, written)) :
    (∃ a, artifactOf c v results = .error a ∧ steps = [] ∧ written = .error a) ∨
      ∃ path records result, artifactOf c v results = .ok (path, records) ∧
        v.write path (Text.Utf8.encode (artifactText records)) = (steps, result) ∧
        written = (result.mapError (.ofWrite path)).map fun _ => some path := by
  cases hartifact : artifactOf c v results with
  | error a =>
    rw [writeArtifact, hci, hartifact] at h
    cases h
    exact .inl ⟨a, rfl, rfl, rfl⟩
  | ok artifact =>
    obtain ⟨path, records⟩ := artifact
    rw [writeArtifact_eq hci hartifact] at h
    cases h
    exact .inr ⟨path, records, _, rfl, rfl, rfl⟩

/-- **When a write on a build server succeeds**, and what it does then. -/
lemma writeArtifact_eq_ok_iff {c : Config} {v : Volume} {results : List TaskResult}
    {steps : List Change} {written : Option Path} (hci : c.isCI = true) :
    writeArtifact c v results = (steps, .ok written) ↔
      ∃ dir records, c.dataDirectory = some dir ∧ v.isDirectory dir = .ok true ∧
        buildRecords results = .ok records ∧
        v.write (artifactFile dir) (Text.Utf8.encode (artifactText records)) = (steps, .ok ()) ∧
        written = some (artifactFile dir) := by
  constructor
  · intro h
    rcases writeArtifact_cases hci h with ⟨a, -, -, ha⟩ | ⟨path, records, result, hok, hwrite, hend⟩
    · cases ha
    · obtain ⟨⟨dir, hdir, hdirectory, rfl⟩, hrecords⟩ := artifactOf_eq_ok_iff.1 hok
      cases result with
      | error fault => cases hend
      | ok _ =>
        cases hend
        exact ⟨dir, records, hdir, hdirectory, hrecords, hwrite, rfl⟩
  · rintro ⟨dir, records, hdir, hdirectory, hrecords, hwrite, rfl⟩
    rw [writeArtifact_eq hci (artifactOf_eq_ok_iff.2 ⟨⟨dir, hdir, hdirectory, rfl⟩, hrecords⟩),
      hwrite]
    rfl

end ParseBench.Bench
