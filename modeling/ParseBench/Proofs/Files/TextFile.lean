import ParseBench.Files.TextFile
import ParseBench.Proofs.Except
import ParseBench.Proofs.Files.Walk
import ParseBench.Proofs.Text.Utf8

set_option relaxedAutoImplicit false
set_option autoImplicit false

/-!
# Reading text files

A file is read as a text in two stages: its bytes are read, and they are decoded. Either stage can
fail, each with faults of its own.

## Main results

* `ParseBench.Files.Volume.readText_eq_access_iff`, `ParseBench.Files.Volume.readText_eq_utf8_iff` —
  the two ways to fail.
* `ParseBench.Files.Volume.isText_iff` — files that hold texts.
-/

namespace ParseBench.Files.Volume

open ParseBench.Text (Bytes)

variable {v : Volume} {p : Path}

/-- A text is not there if the bytes are not, and for the same reason. -/
lemma readText_eq_access_iff {fault : AccessFault} :
    v.readText p = .error (.access fault) ↔ v.read p = .error fault := by
  rw [readText, bind_eq_error_iff]
  constructor
  · rintro (haccess | ⟨b, -, h⟩)
    · obtain ⟨fault', hread, heq⟩ := mapError_eq_error_iff.1 haccess
      cases heq
      exact hread
    · rcases bind_eq_error_iff.1 h with hdecode | ⟨chars, -, hend⟩
      · obtain ⟨_, -, heq⟩ := mapError_eq_error_iff.1 hdecode
        cases heq
      · cases hend
  · intro hread
    exact .inl (mapError_eq_error_iff.2 ⟨fault, hread, rfl⟩)

/-- A text is not there if the bytes are there, but not those of a text. -/
lemma readText_eq_utf8_iff {fault : Text.Utf8.Fault} :
    v.readText p = .error (.utf8 fault) ↔
      ∃ b, v.read p = .ok b ∧ Text.Utf8.decode b = .error fault := by
  rw [readText, bind_eq_error_iff]
  constructor
  · rintro (haccess | ⟨b, hb, h⟩)
    · obtain ⟨_, -, heq⟩ := mapError_eq_error_iff.1 haccess
      cases heq
    · rcases bind_eq_error_iff.1 h with hdecode | ⟨chars, -, hend⟩
      · obtain ⟨fault', hchars, heq⟩ := mapError_eq_error_iff.1 hdecode
        cases heq
        exact ⟨b, mapError_eq_ok_iff.1 hb, map_eq_error_iff.2 hchars⟩
      · cases hend
  · rintro ⟨b, hread, hdecode⟩
    have hchars : (Text.Utf8.decodeChars b).mapError TextFault.utf8 = .error (.utf8 fault) :=
      mapError_eq_error_iff.2 ⟨fault, map_eq_error_iff.1 hdecode, rfl⟩
    exact .inr ⟨b, mapError_eq_ok_iff.2 hread, bind_eq_error_iff.2 (.inl hchars)⟩

/-- **A file holds a text** if reading it as a text does not fail for its bytes. -/
lemma isText_iff :
    (∀ b, v.read p = .ok b → ∃ s, b = Text.Utf8.encode s) ↔
      ∀ fault, v.readText p ≠ .error (.utf8 fault) := by
  constructor
  · intro h fault hfault
    obtain ⟨b, hread, hdecode⟩ := readText_eq_utf8_iff.1 hfault
    obtain ⟨s, rfl⟩ := h b hread
    rw [Text.Utf8.decode_encode] at hdecode
    cases hdecode
  · intro h b hread
    cases hdecode : Text.Utf8.decode b with
    | ok s => exact ⟨s, (Text.Utf8.encode_of_decode hdecode).symm⟩
    | error fault => exact absurd (readText_eq_utf8_iff.2 ⟨b, hread, hdecode⟩) (h fault)

/-- A path that no file can have is not read. -/
lemma readText_eq_nul_iff : v.readText p = .error (.access .nul) ↔ p.hasNul = true := by
  rw [readText_eq_access_iff, read_eq_nul_iff]

end ParseBench.Files.Volume
