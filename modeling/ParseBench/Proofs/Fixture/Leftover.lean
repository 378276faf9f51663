import ParseBench.Proofs.Files.Faults
import ParseBench.Proofs.Fixture.Job

set_option relaxedAutoImplicit false
set_option autoImplicit false

/-!
# What is left of an entry that is not stored

Storing an entry fails while its directory is made, while its hidden file is opened or written, or
while this file is moved into place. Up to the opening no file is changed. A write that is cut off
leaves a beginning of the data in the hidden file, and a move that fails leaves all of them there.

## Main definitions

* `ParseBench.Fixture.Leftover` — what is left, by the fault that was met.

## Main results

* `ParseBench.Fixture.replace_hidden_error` — why the hidden file cannot be moved into place.
* `ParseBench.Fixture.store_failed` — the files after an entry could not be stored.
-/

namespace ParseBench.Fixture

open ParseBench.Files
open ParseBench.Text (Bytes)

/-- What is left of an entry on the volume `w` that could not be stored on `v`, by the fault that
was met. -/
inductive Leftover (v : Volume) (entry : Path) (data : Bytes) (w : Volume) : AccessFault → Prop where
  /-- A path was at fault before the hidden file was opened: each file is as it was. -/
  | nothing {q : Path} {fault : AccessFault} (hfault : FaultOf q fault)
    (hfiles : ∀ l, w.file? l = v.file? l) : Leftover v entry data w fault
  /-- The hidden file took no more than a beginning of the data. -/
  | torn {most : Nat} {reason : Refusal}
    (hlimit : v.refusals.limits (v.spot (hiddenPath entry)) = some (most, reason))
    (hmost : most < data.length)
    (hfiles : ∀ l, w.file? l =
      if l = v.spot (hiddenPath entry) then some (data.take most) else v.file? l) :
    Leftover v entry data w (.cut reason)
  /-- The hidden file could not be moved: it holds the data, and a directory is in the place of the
  entry, or the move was refused. -/
  | unmoved {e : OsError}
    (hwhy : w.isDirectory entry = .ok true ∨
      v.refusals.moves (v.spot (hiddenPath entry)) (v.spot entry) ≠ none)
    (hfiles : ∀ l, w.file? l =
      if l = v.spot (hiddenPath entry) then some data else v.file? l) :
    Leftover v entry data w (.os e (hiddenPath entry).text (some entry.text))

section Failed

variable {v w : Volume} {entry : Path} {data : Bytes} {steps : List Change} {fault : AccessFault}

/-- Nothing is left where only one path was at fault. -/
lemma Leftover.of_path {e : OsError} {path : String}
    (h : Leftover v entry data w (.os e path none)) : ∀ l, w.file? l = v.file? l := by
  generalize hfault : AccessFault.os e path none = fault at h
  cases h with
  | nothing _ hfiles => exact hfiles
  | torn _ _ _ => cases hfault
  | unmoved _ _ => cases hfault

/-- A beginning of the data is left where a write was cut off. -/
lemma Leftover.of_cut {reason : Refusal} (h : Leftover v entry data w (.cut reason)) :
    ∃ most, v.refusals.limits (v.spot (hiddenPath entry)) = some (most, reason) ∧
      ∀ l, w.file? l = if l = v.spot (hiddenPath entry) then some (data.take most) else v.file? l := by
  generalize hfault : AccessFault.cut reason = fault at h
  cases h with
  | nothing h _ =>
    subst hfault
    cases h
  | torn hlimit _ hfiles =>
    cases hfault
    exact ⟨_, hlimit, hfiles⟩
  | unmoved _ _ => cases hfault

/-- All of the data are left where a pair of paths was at fault. -/
lemma Leftover.of_paths {e : OsError} {path target : String}
    (h : Leftover v entry data w (.os e path (some target))) :
    ∀ l, w.file? l = if l = v.spot (hiddenPath entry) then some data else v.file? l := by
  generalize hfault : AccessFault.os e path (some target) = fault at h
  cases h with
  | nothing h _ =>
    subst hfault
    cases h.other_eq_none
  | torn _ _ _ => cases hfault
  | unmoved _ hfiles => exact hfiles

/-- **Why a hidden file that is there cannot be moved into place**: the entry is a directory, or the
move is refused.

**Proof sketch.** The entry is looked for in the directory of the hidden file, so that only its last
name is left to decide: two dots lead to the directory above, and any other name fails only if a
directory has it or the move is refused. -/
lemma replace_hidden_error (hw : w.WellFormed) {ns : List String} {x : String}
    {d : Location} (hp : entry.names = ns ++ [x]) (hnul : (hiddenPath entry).hasNul = false)
    (hr : w.resolve (hiddenPath entry) = .ok (.named d (temporaryName x)))
    (hnode : w.node? (d ++ [temporaryName x]) = some (.file data))
    (h : w.replace (hiddenPath entry) entry = .error fault) :
    w.isDirectory entry = .ok true ∨
      w.refusals.moves (w.spot (hiddenPath entry)) (w.spot entry) ≠ none := by
  have hentry := (hasNul_hiddenPath hp).symm.trans hnul
  obtain ⟨hplace, hsize⟩ := resolve_of_hidden hp hr
  rw [Volume.isDirectory_eq_true_iff]
  by_cases hx : x = ".."
  · rw [Volume.placeIn, if_pos hx] at hplace
    exact .inl ⟨hentry, _, hplace, hw.dropLast (hw.resolve_named hr)⟩
  · rw [Volume.placeIn_eq_named_iff.2 ⟨hx, hsize, rfl, rfl⟩] at hplace
    rw [Volume.resolve_spot hr, Volume.resolve_spot hplace]
    by_contra hneither
    push Not at hneither
    obtain ⟨hdir, hmoves⟩ := hneither
    have hmoved : w.replace (hiddenPath entry) entry =
        .ok (.move (d ++ [temporaryName x]) (d ++ [x])) :=
      Volume.replace_eq_ok_iff.2 ⟨hnul, hentry, _, _, _, _, hr, hplace, ⟨data, hnode⟩, hmoves,
        hdir hentry _ hplace, rfl⟩
    cases hmoved.symm.trans h

/-- What is where once a hidden file was written. -/
lemma file?_write_hidden (w : Volume) {l : Location} (hl : l ≠ []) (b : Bytes) (l' : Location) :
    ((Change.write l b).apply w).file? l' = if l' = l then some b else w.file? l' := by
  rw [Volume.file?, Volume.file?, Change.node?_write w hl]
  split_ifs <;> rfl

/-- **The files after an entry could not be stored without a break.**

**Proof sketch.** By cases on how far the storing came. Directories hide no file; a file that was
opened is the hidden one at its spot, and what is left to fail then is the rest of the write or the
move. -/
lemma leftover_of_storeEnd (hv : v.WellFormed)
    (h : StoreEnd v entry data steps (.error (.access fault))) :
    Leftover v entry data (Change.applyAll v steps) fault := by
  have hmade := Volume.makeDirectories_made hv entry.parent
  cases h with
  | unmade hparent =>
    rw [hparent] at hmade
    obtain ⟨q, -, hfault⟩ := Volume.makeDirectories_error hparent
    exact .nothing hfault hmade.file?_applyAll
  | @unwritten made written _ hparent hnames hwrite =>
    rw [hparent] at hmade
    rw [Change.applyAll_append]
    rcases Volume.write_cases (Change.applyAll v made) (hiddenPath entry) data with
      ⟨fault', hwritable, heq⟩ | ⟨l, hwritable, ⟨-, heq⟩ | ⟨most, reason, hlimit, hmost, heq⟩⟩
    · cases heq.symm.trans hwrite
      exact .nothing (Volume.writable_error hwritable) hmade.file?_applyAll
    · cases heq.symm.trans hwrite
    · cases heq.symm.trans hwrite
      obtain ⟨ns, x, d, -, -, -, rfl, -⟩ := writable_hidden hnames hwritable
      have hspot : d ++ [temporaryName x] = v.spot (hiddenPath entry) :=
        (Volume.writable_spot hwritable).trans
          (Volume.spot_of_current (Change.applyAll_current v made) _)
      rw [Change.applyAll_refusals, hspot] at hlimit
      refine .torn hlimit hmost fun l => ?_
      rw [Change.applyAll_cons, Change.applyAll_nil, file?_write_hidden _ (by simp), hspot,
        hmade.file?_applyAll]
  | @unmoved made written _ hparent hnames hwrite hmove =>
    rw [hparent] at hmade
    dsimp only at hmade
    have hw := hmade.legal.wellFormed hv
    obtain ⟨l, hwritable, -, rfl⟩ := Volume.write_eq_ok_iff.1 hwrite
    have hlegal := Volume.writable_legal hw hwritable data
    obtain ⟨ns, x, d, hp, hnul, hr, rfl, -⟩ := writable_hidden hnames hwritable
    have hspot : d ++ [temporaryName x] = v.spot (hiddenPath entry) :=
      (Volume.writable_spot hwritable).trans
        (Volume.spot_of_current (Change.applyAll_current v made) _)
    rw [Change.applyAll_append]
    rw [Change.applyAll_cons, Change.applyAll_nil] at hmove ⊢
    have hnode := Change.node?_write (Change.applyAll v made) (m := d ++ [temporaryName x]) (by simp)
      data (d ++ [temporaryName x])
    rw [if_pos rfl] at hnode
    have hwhy := replace_hidden_error (hlegal.wellFormed hw) hp hnul (hlegal.later.resolve hr) hnode
      hmove
    obtain ⟨e, rfl⟩ : ∃ e, fault = .os e (hiddenPath entry).text (some entry.text) := by
      rcases Volume.replace_error hmove with ⟨-, hnul' | hnul'⟩ | hos
      · simp [hnul] at hnul'
      · simp [← hasNul_hiddenPath hp, hnul] at hnul'
      · exact hos
    refine .unmoved ?_ fun l => ?_
    · have hsame : ∀ p, ((Change.write (d ++ [temporaryName x]) data).apply
          (Change.applyAll v made)).spot p = v.spot p :=
        Volume.spot_of_current ((Change.apply_current _ _).trans (Change.applyAll_current v made))
      rwa [hsame, hsame, Change.apply_refusals, Change.applyAll_refusals] at hwhy
    · rw [file?_write_hidden _ (by simp), hspot, hmade.file?_applyAll]

/-- **The files after an entry could not be stored**, in however many pieces its hidden file was
written. If a path was at fault, each file is as it was. If the hidden file could not be written, it
holds a beginning of the data, and if it could not be moved, all of them; each other file is as it
was. -/
theorem store_failed (hv : v.WellFormed) {pieces : List (Option Nat)}
    (h : Job.run entry data v (.start entry) pieces = (steps, .ended (.error (.access fault)))) :
    Leftover v entry data (Change.applyAll v steps) fault := by
  obtain ⟨hresult, hvolume⟩ := Job.run_start h
  rw [hvolume]
  exact leftover_of_storeEnd hv (store_ends (Prod.ext rfl hresult.symm))

end Failed

/-- A volume on which a directory is in the place of the entry `a`. -/
def occupiedVolume : Volume :=
  Change.applyAll .empty [.makeDirectory ["target"], .makeDirectory ["target", "a"]]

/-- The volume with a directory in place of the entry is well formed. -/
lemma occupiedVolume_wellFormed : occupiedVolume.WellFormed := by
  refine Change.LegalAll.wellFormed Volume.wellFormed_empty ?_
  exact ⟨⟨by decide, by decide⟩, ⟨by decide, by decide⟩, trivial⟩

/-- A volume on which there is a file. -/
def fileVolume : Volume := (Change.write ["f"] [1]).apply .empty

/-- The volume with a single file is well formed. -/
lemma fileVolume_wellFormed : fileVolume.WellFormed :=
  Change.Legal.wellFormed Volume.wellFormed_empty ⟨by decide, by decide⟩

/-- A volume on which no file takes more than one byte. -/
def narrowVolume : Volume :=
  { fileVolume with
    refusals := { Refusals.none with limits := fun _ => some (1, .fileTooLarge) } }

/-- The volume on which no file takes more than one byte is well formed. -/
lemma narrowVolume_wellFormed : narrowVolume.WellFormed := by
  obtain ⟨h1, h2⟩ := fileVolume_wellFormed
  exact ⟨h1, h2⟩

/-- If a file is in the way of the directory of an entry, another directory may have been made, and
each file is as it was. If the hidden file takes one byte only, that byte stays. If a directory is
in the place of the entry, the hidden file stays as a whole, here after it was written in two
pieces. -/
theorem store_failed_sample :
    (∃ steps, Job.run ⟨"", ["t", "..", "f", "a"]⟩ [120] fileVolume
        (.start ⟨"", ["t", "..", "f", "a"]⟩) (List.replicate 7 none) =
        (steps, .ended (.error (.access (.os .alreadyExists "t/../f" none)))) ∧
      steps = [.makeDirectory ["t"]] ∧
      ∀ l, (Change.applyAll fileVolume steps).file? l = fileVolume.file? l) ∧
    (∃ steps, Job.run ⟨"", ["a"]⟩ [120, 121] narrowVolume (.start ⟨"", ["a"]⟩)
        (List.replicate 3 none) =
        (steps, .ended (.error (.access (.cut .fileTooLarge)))) ∧
      ∀ l, (Change.applyAll narrowVolume steps).file? l =
        if l = [".a.tmp"] then some [120] else narrowVolume.file? l) ∧
    ∃ steps, Job.run ⟨"", ["target", "a"]⟩ [120, 121] occupiedVolume
        (.start ⟨"", ["target", "a"]⟩) [none, none, some 1, none, none] =
        (steps, .ended (.error (.access
          (.os .isDirectory "target/.a.tmp" (some "target/a"))))) ∧
      ∀ l, (Change.applyAll occupiedVolume steps).file? l =
        if l = ["target", ".a.tmp"] then some [120, 121] else occupiedVolume.file? l := by
  refine ⟨?_, ?_, ?_⟩
  · have hblocked : Job.run ⟨"", ["t", "..", "f", "a"]⟩ [120] fileVolume
        (.start ⟨"", ["t", "..", "f", "a"]⟩) (List.replicate 7 none) =
          ([.makeDirectory ["t"]],
            .ended (.error (.access (.os .alreadyExists "t/../f" none)))) := rfl
    exact ⟨_, hblocked, rfl, (store_failed fileVolume_wellFormed hblocked).of_path⟩
  · have hcut : Job.run ⟨"", ["a"]⟩ [120, 121] narrowVolume (.start ⟨"", ["a"]⟩)
        (List.replicate 3 none) = ([.write [".a.tmp"] [120]],
          .ended (.error (.access (.cut .fileTooLarge)))) := rfl
    obtain ⟨most, hlimit, hfiles⟩ := (store_failed narrowVolume_wellFormed hcut).of_cut
    cases hlimit
    exact ⟨_, hcut, hfiles⟩
  · have hoccupied : Job.run ⟨"", ["target", "a"]⟩ [120, 121] occupiedVolume
        (.start ⟨"", ["target", "a"]⟩) [none, none, some 1, none, none] =
          ([.write ["target", ".a.tmp"] [120], .write ["target", ".a.tmp"] [120, 121]],
            .ended (.error (.access
              (.os .isDirectory "target/.a.tmp" (some "target/a"))))) := rfl
    exact ⟨_, hoccupied, (store_failed occupiedVolume_wellFormed hoccupied).of_paths⟩

/-- A directory is in the place of the entry. The hidden file, which was not there before, is left
behind. -/
theorem store_hidden_left :
    occupiedVolume.WellFormed ∧ ∃ steps, Job.run ⟨"", ["target", "a"]⟩ [120] occupiedVolume
        (.start ⟨"", ["target", "a"]⟩) (List.replicate 4 none) =
        (steps, .ended (.error (.access
          (.os .isDirectory "target/.a.tmp" (some "target/a"))))) ∧
      occupiedVolume.file? ["target", ".a.tmp"] = none ∧
      (Change.applyAll occupiedVolume steps).file? ["target", ".a.tmp"] = some [120] :=
  ⟨occupiedVolume_wellFormed, [.write ["target", ".a.tmp"] [120]], rfl, rfl, rfl⟩

end ParseBench.Fixture
