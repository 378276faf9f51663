import ParseBench.Proofs.Files.Places

set_option relaxedAutoImplicit false
set_option autoImplicit false

/-!
# Faults and their paths

An access to a path fails because the path is malformed or because the operating system objects to
it. When directories are made, this is the path itself or one above it. Only moving a file can fail
because of a pair of paths.

## Main definitions

* `ParseBench.Files.FaultOf` — the faults of an access to a path.

## Main results

* `ParseBench.Files.Volume.write_error`, `ParseBench.Files.Volume.makeDirectories_error`,
  `ParseBench.Files.Volume.replace_error` — the path that is at fault.
-/

namespace ParseBench

open ParseBench.Text (Bytes)

/-- If a path above has a null character, the path has one. -/
lemma Path.hasNul_of_above {p q : Path} (h : Files.Volume.Above p q) (hnul : q.hasNul = true) :
    p.hasNul = true := by
  rw [hasNul, List.any_eq_true] at hnul ⊢
  obtain ⟨n, hn, hzero⟩ := hnul
  exact ⟨n, h.2.subset hn, hzero⟩

namespace Files

/-- The faults of an access to a path: the path is malformed, or the operating system objects to
it. -/
inductive FaultOf (p : Path) : AccessFault → Prop
  | nul (h : p.hasNul = true) : FaultOf p .nul
  | os (e : OsError) : FaultOf p (Volume.faultAt p e)

namespace FaultOf

variable {p : Path}

/-- The fault of a null character comes from one in the path. -/
lemma hasNul (h : FaultOf p .nul) : p.hasNul = true := by
  generalize hfault : AccessFault.nul = fault at h
  cases h with
  | nul h => exact h
  | os e => cases hfault

/-- The fault of an access to a path names no second path. -/
lemma other_eq_none {e : OsError} {path : String} {other : Option String}
    (h : FaultOf p (.os e path other)) : other = none := by
  generalize hfault : AccessFault.os e path other = fault at h
  cases h with
  | nul h => cases hfault
  | os e' =>
    cases hfault
    rfl

end FaultOf

namespace Volume

variable {v : Volume} {p : Path} {fault : AccessFault}

/-- A path that cannot be written has a fault of its own. -/
lemma writable_error (h : v.writable p = .error fault) : FaultOf p fault := by
  rw [writable] at h
  split at h
  · next hnul =>
    cases h
    exact .nul hnul
  · split at h
    · cases h
      exact .os _
    · cases h
      exact .os _
    · split at h
      · cases h
        exact .os _
      · split at h
        · cases h
          exact .os _
        · cases h

/-- The fault of a write is one of the path, or the file takes no more. -/
lemma write_error {content : Bytes} {steps : List Change}
    (h : v.write p content = (steps, .error fault)) :
    FaultOf p fault ∨ ∃ reason, fault = .cut reason := by
  rcases v.write_cases p content with
    ⟨fault', hwritable, heq⟩ | ⟨l, -, ⟨-, heq⟩ | ⟨most, reason, -, -, heq⟩⟩
  · rw [heq] at h
    cases h
    exact .inl (writable_error hwritable)
  · rw [heq] at h
    cases h
  · rw [heq] at h
    cases h
    exact .inr ⟨reason, rfl⟩

/-- A path that cannot be looked at has a fault of its own. -/
lemma isDirectory_error (h : v.isDirectory p = .error fault) : FaultOf p fault := by
  rw [isDirectory] at h
  split at h
  · cases h
  · split at h
    · cases h
    · cases h
      exact .os _
    · cases h

/-- A directory that cannot be made has a fault of its own. -/
lemma makeDirectory_error (h : v.makeDirectory p = .error fault) : FaultOf p fault := by
  rw [makeDirectory] at h
  split at h
  · next hnul =>
    cases h
    exact .nul hnul
  · split at h
    · cases h
      exact .os _
    · cases h
      exact .os _
    · split at h
      · cases h
        exact .os _
      · split at h
        · cases h
          exact .os _
        · cases h

/-- A fault of a path that is not forgiven leads to a fault of the path. -/
lemma forgive_error {fault' : AccessFault} (hfault : FaultOf p fault)
    (h : v.forgive p fault = .error fault') : FaultOf p fault' := by
  cases fault with
  | nul =>
    cases h
    exact hfault
  | os | cut =>
    rw [forgive] at h
    · split at h
      · next hlook =>
        cases h
        exact isDirectory_error hlook
      · cases h
      · cases h
        exact hfault
    · exact AccessFault.noConfusion

/-- A try to make a directory ends with a fault of its path. -/
lemma Tries.error {result : Except AccessFault Unit} {steps : List Change}
    (h : Tries v p steps result) (hresult : result = .error fault) : FaultOf p fault := by
  cases h with
  | made h => cases hresult
  | missing h =>
    cases hresult
    exact .os _
  | refused h hfault => exact forgive_error (makeDirectory_error h) hresult

/-- Making a directory and those above it ends with a fault of one of their paths. -/
lemma Makes.error {result : Except AccessFault Unit} {steps : List Change}
    (h : Makes v p steps result) (hresult : result = .error fault) :
    ∃ q, Above p q ∧ FaultOf q fault := by
  induction h with
  | here _ h => exact ⟨_, above_self _, h.error hresult⟩
  | stopped _ _ _ ih =>
    obtain ⟨q, hq, hfault⟩ := ih hresult
    exact ⟨q, hq.of_parent, hfault⟩
  | after _ _ _ h => exact ⟨_, above_self _, h.error hresult⟩

/-- **Making directories fails at one of them**, which is the path itself or above it. -/
lemma makeDirectories_error {steps : List Change}
    (h : v.makeDirectories p = (steps, .error fault)) : ∃ q, Above p q ∧ FaultOf q fault :=
  (makeDirectories_makes v p).error (congrArg Prod.snd h)

/-- Moving a file fails because of one of the two paths, or of both. -/
lemma replace_error {s t : Path} (h : v.replace s t = .error fault) :
    (fault = .nul ∧ (s.hasNul = true ∨ t.hasNul = true)) ∨
      ∃ e, fault = .os e s.text (some t.text) := by
  rw [replace] at h
  split at h
  · next hnul =>
    cases h
    exact .inl ⟨rfl, Bool.or_eq_true_iff.1 hnul⟩
  · split at h
    · cases h
      exact .inr ⟨_, rfl⟩
    · cases h
      exact .inr ⟨_, rfl⟩
    · split at h
      · cases h
        exact .inr ⟨_, rfl⟩
      · cases h
        exact .inr ⟨_, rfl⟩
      · cases h
        exact .inr ⟨_, rfl⟩
      · cases h
        exact .inr ⟨_, rfl⟩
      · cases h
    · cases h
      exact .inr ⟨_, rfl⟩

end Volume

end Files

end ParseBench
