import ParseBench.Proofs.Files.TextFile
import ParseBench.Proofs.Fixture.Manifest

set_option relaxedAutoImplicit false
set_option autoImplicit false

/-!
# Manifests that cannot be used

A manifest can be unusable on five levels: the file, its bytes, the syntax of the document, what the
document lists, and the URLs. What is found wrong is a failure that says so, but for two things,
which are found before the document is looked at: a path that no file can have, and bytes that are
no text.

## Main definitions

* `ParseBench.Fixture.Reported` — a list of URLs or a failure.

## Main results

* `ParseBench.Fixture.reported_of_text` — whatever is wrong with a text is reported.
* `ParseBench.Fixture.readManifest_ends` — when a manifest gives URLs or a failure.
* `ParseBench.Fixture.readManifest_not_text` — bytes that are no text.
-/

namespace ParseBench.Fixture

open ParseBench.Files
open ParseBench.Text (Points)
open ParseBench.Yaml (Outline)

/-- A list of URLs, of which there is at least one, or a failure that says why there is none. -/
def Reported (r : Except ManifestAbort (List Points)) : Prop :=
  (∃ urls, urls ≠ [] ∧ r = .ok urls) ∨ ∃ failure, r = .error (.failure failure)

section Unusable

variable {v : Volume} {path : Path} {text : String}

/-- A manifest that has an outline is a document. -/
lemma manifestDocument_of_ok {d : Outline} (h : Yaml.outline manifestDepth text.toList = .ok d) :
    manifestDocument path text = .ok d := by
  rw [manifestDocument, h]

/-- A malformed manifest is no document. -/
lemma manifestDocument_of_malformed {detail : String}
    (h : Yaml.outline manifestDepth text.toList = .error (.malformed detail)) :
    manifestDocument path text = .error (.failure (.notYaml path detail)) := by
  rw [manifestDocument, h]

/-- What a document lists is a list of URLs that is not empty, or the failure names what is
wrong. -/
lemma reported_of_document {d : Outline} (hread : v.readText path = .ok text)
    (hdocument : manifestDocument path text = .ok d) : Reported (readManifest v path) := by
  rw [readManifest_eq hread hdocument]
  cases hurls : manifestUrls d with
  | error fault => exact .inr ⟨_, rfl⟩
  | ok urls =>
    have hlists := (manifestUrls_eq_ok_iff.1 hurls).1
    exact .inl ⟨urls, hlists.2.2.1, rfl⟩

/-- A text that is no document is reported as such. -/
lemma readManifest_of_no_document {abort : ManifestAbort} (hread : v.readText path = .ok text)
    (hdocument : manifestDocument path text = .error abort) :
    readManifest v path = .error abort := by
  rw [readManifest, hread]
  change (manifestDocument path text >>= _) = _
  rw [hdocument]
  rfl

/-- A text is reported on, whether it is a document or malformed. -/
lemma reported_of_text (hread : v.readText path = .ok text)
    (hyaml : (∃ d, Yaml.outline manifestDepth text.toList = .ok d) ∨
      ∃ detail, Yaml.outline manifestDepth text.toList = .error (.malformed detail)) :
    Reported (readManifest v path) := by
  rcases hyaml with ⟨d, hd⟩ | ⟨detail, hdetail⟩
  · exact reported_of_document hread (manifestDocument_of_ok hd)
  · exact .inr ⟨_, readManifest_of_no_document hread (manifestDocument_of_malformed hdetail)⟩

/-- A path that no file can have ends the reading as it is. -/
lemma readManifest_of_nul (h : path.hasNul = true) : readManifest v path = .error .path := by
  rw [readManifest, Volume.readText_eq_nul_iff.2 h]
  rfl

/-- Bytes that are no text end the reading as they are. -/
lemma readManifest_of_utf8 {fault : Text.Utf8.Fault}
    (h : v.readText path = .error (.utf8 fault)) : readManifest v path = .error (.utf8 fault) := by
  rw [readManifest, h]
  rfl

/-- What the operating system objects to is a failure. -/
lemma reported_of_access {fault : AccessFault} (hfault : fault ≠ .nul)
    (h : v.readText path = .error (.access fault)) : Reported (readManifest v path) := by
  rw [readManifest, h]
  cases fault with
  | nul => exact absurd rfl hfault
  | os error name other => exact .inr ⟨.unreadable path (.os error name other), rfl⟩
  | cut reason => exact .inr ⟨.unreadable path (.cut reason), rfl⟩

/-- **Manifests that cannot be used are reported as such** if their path is one that a file can have
and their bytes, if they can be read, are those of a text. A path of another kind and the first
fault among the bytes end the reading as they are. -/
theorem readManifest_ends
    (hyaml : ∀ text, v.readText path = .ok text →
      (∃ d, Yaml.outline manifestDepth text.toList = .ok d) ∨
        ∃ detail, Yaml.outline manifestDepth text.toList = .error (.malformed detail)) :
    (((∃ urls, urls ≠ [] ∧ readManifest v path = .ok urls) ∨
        ∃ failure, readManifest v path = .error (.failure failure)) ↔
      path.hasNul = false ∧ ∀ b, v.read path = .ok b → ∃ s, b = Text.Utf8.encode s) ∧
    (path.hasNul = true → readManifest v path = .error .path) ∧
    ∀ b fault, v.read path = .ok b → Text.Utf8.decode b = .error fault →
      readManifest v path = .error (.utf8 fault) := by
  refine ⟨?_, readManifest_of_nul, fun b fault hread hdecode =>
    readManifest_of_utf8 (Volume.readText_eq_utf8_iff.2 ⟨b, hread, hdecode⟩)⟩
  change Reported _ ↔ _
  rw [Volume.isText_iff, ← Bool.not_eq_true, ← Volume.readText_eq_nul_iff (v := v)]
  cases hread : v.readText path with
  | ok text => simpa using reported_of_text hread (hyaml text hread)
  | error fault =>
    cases fault with
    | utf8 fault => simp [Reported, readManifest_of_utf8 hread]
    | access fault =>
      cases fault with
      | nul => simp [Reported, readManifest_of_nul (Volume.readText_eq_nul_iff.1 hread)]
      | os | cut => simpa using reported_of_access AccessFault.noConfusion hread

end Unusable

/-- A manifest whose document is a list of URLs of the same name. -/
def clashManifest : Volume :=
  Change.applyAll .empty [.write ["m.yaml"] (Text.Utf8.encode "urls: [http://h/a, http://k/a]")]

/-- Two URLs of the same name are reported. -/
theorem readManifest_ends_clash :
    (∀ text, clashManifest.readText ⟨"", ["m.yaml"]⟩ = .ok text →
      (∃ d, Yaml.outline manifestDepth text.toList = .ok d) ∨
        ∃ detail, Yaml.outline manifestDepth text.toList = .error (.malformed detail)) ∧
    ∃ failure, readManifest clashManifest ⟨"", ["m.yaml"]⟩ = .error (.failure failure) := by
  have hread : clashManifest.readText ⟨"", ["m.yaml"]⟩ = .ok "urls: [http://h/a, http://k/a]" := by
    decide +kernel
  have hparsed : (Yaml.outline manifestDepth
      "urls: [http://h/a, http://k/a]".toList).toOption.isSome := by
    decide +kernel
  have hyaml : ∀ text, clashManifest.readText ⟨"", ["m.yaml"]⟩ = .ok text →
      (∃ d, Yaml.outline manifestDepth text.toList = .ok d) ∨
        ∃ detail, Yaml.outline manifestDepth text.toList = .error (.malformed detail) := by
    intro text h
    rw [hread] at h
    cases h
    obtain ⟨d, hd⟩ := Option.isSome_iff_exists.1 hparsed
    exact .inl ⟨d, eq_ok_of_toOption hd⟩
  have htext : ∀ b, clashManifest.read ⟨"", ["m.yaml"]⟩ = .ok b → ∃ s, b = Text.Utf8.encode s := by
    rw [Volume.isText_iff, hread]
    simp
  have hrefused : (readManifest clashManifest ⟨"", ["m.yaml"]⟩).toOption = none := by
    decide +kernel
  refine ⟨hyaml, ?_⟩
  rcases (readManifest_ends hyaml).1.2 ⟨rfl, htext⟩ with ⟨urls, -, hurls⟩ | hfailure
  · rw [hurls] at hrefused
    cases hrefused
  · exact hfailure

/-- A manifest of a single byte, with which no character begins. -/
def brokenManifest : Volume := Change.applyAll .empty [.write ["m.yaml"] [0xff]]

/-- **Bytes that are no text are not reported**, although there is no document to be found wrong. -/
theorem readManifest_not_text :
    (∀ text, brokenManifest.readText ⟨"", ["m.yaml"]⟩ ≠ .ok text) ∧
    readManifest brokenManifest ⟨"", ["m.yaml"]⟩ = .error (.utf8 ⟨0, 1, 0xff, .invalidStart⟩) ∧
    ¬ ((∃ urls, urls ≠ [] ∧ readManifest brokenManifest ⟨"", ["m.yaml"]⟩ = .ok urls) ∨
      ∃ failure, readManifest brokenManifest ⟨"", ["m.yaml"]⟩ = .error (.failure failure)) := by
  have hread : brokenManifest.readText ⟨"", ["m.yaml"]⟩ =
      .error (.utf8 ⟨0, 1, 0xff, .invalidStart⟩) := by
    decide
  have hends := readManifest_of_utf8 hread
  refine ⟨fun text h => ?_, hends, ?_⟩
  · rw [hread] at h
    cases h
  · rw [hends]
    simp

end ParseBench.Fixture
