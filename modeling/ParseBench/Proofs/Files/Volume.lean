import ParseBench.Files.Volume
import Mathlib.Data.List.Infix
import Mathlib.Tactic.Lemma

set_option relaxedAutoImplicit false
set_option autoImplicit false

/-!
# Steps on a volume

What is at each location after a primitive step, and which steps keep a volume a tree. A run that is
cut short leaves the volume in the middle of its steps, perhaps with the last file written in part.

## Main definitions

* `ParseBench.Files.Volume.WellFormed` — whatever is on the volume is in a directory of it.
* `ParseBench.Files.Volume.Same` — two volumes hold the same.
* `ParseBench.Files.Volume.Later` — a volume has at least the directories of another.
* `ParseBench.Files.Change.Legal`, `ParseBench.Files.Change.LegalAll` — steps that a file system
  admits.
* `ParseBench.Files.Stopped` — what steps leave that are stopped at any point.

## Main results

* `ParseBench.Files.Change.LegalAll.wellFormed`, `ParseBench.Files.Change.LegalAll.later` — legal
  steps keep the tree and its directories.
* `ParseBench.Files.Stopped.append_iff` — where a sequence of two runs can be stopped.
-/

namespace ParseBench.Files

open ParseBench.Text (Bytes)

namespace Volume

/-! ## Single steps -/

/-- There is a directory at the root. -/
@[simp] lemma node?_nil (v : Volume) : v.node? [] = some .directory := rfl

/-- What is anywhere else is told by the nodes. -/
lemma node?_of_ne_nil (v : Volume) {l : Location} (h : l ≠ []) : v.node? l = v.nodes.lookup l := by
  simp [node?, h]

/-- Leaving out the entries at a location leaves the others. -/
lemma lookup_filter_ne (nodes : List (Location × Node)) (m l : Location) :
    (nodes.filter fun e => e.1 != m).lookup l = if l = m then none else nodes.lookup l := by
  induction nodes with
  | nil => simp
  | cons e rest ih =>
    obtain ⟨k, n⟩ := e
    have hb : (l == k) = decide (l = k) := beq_eq_decide l k
    by_cases hk : k = m
    · subst hk
      rw [List.filter_cons_of_neg (by simp), ih, List.lookup_cons, hb]
      by_cases hl : l = k <;> simp [hl]
    · rw [List.filter_cons_of_pos (by simpa using hk), List.lookup_cons, List.lookup_cons, ih, hb]
      by_cases hl : l = k
      · simp [hl, hk]
      · simp [hl]

/-- Taking something away leaves the current directory alone. -/
@[simp] lemma erase_current (v : Volume) (m : Location) : (v.erase m).current = v.current := rfl

/-- Putting something somewhere leaves the current directory alone. -/
@[simp] lemma put_current (v : Volume) (m : Location) (n : Node) :
    (v.put m n).current = v.current := rfl

/-- Taking something away changes nothing of what is refused. -/
@[simp] lemma erase_refusals (v : Volume) (m : Location) : (v.erase m).refusals = v.refusals := rfl

/-- Putting something somewhere changes nothing of what is refused. -/
@[simp] lemma put_refusals (v : Volume) (m : Location) (n : Node) :
    (v.put m n).refusals = v.refusals := rfl

/-- What is where after something was taken away: the root stays. -/
lemma node?_erase (v : Volume) (m l : Location) :
    (v.erase m).node? l = if l = m ∧ l ≠ [] then none else v.node? l := by
  by_cases hl : l = []
  · simp [hl]
  · rw [node?_of_ne_nil _ hl, node?_of_ne_nil _ hl, erase, lookup_filter_ne]
    simp [hl]

/-- What is where after something was put somewhere: the root stays. -/
lemma node?_put (v : Volume) (m l : Location) (n : Node) :
    (v.put m n).node? l = if l = m ∧ l ≠ [] then some n else v.node? l := by
  by_cases hl : l = []
  · simp [hl]
  · rw [node?_of_ne_nil _ hl, node?_of_ne_nil _ hl, put, erase]
    have hb : (l == m) = decide (l = m) := beq_eq_decide l m
    simp only [List.lookup_append, lookup_filter_ne, List.lookup_cons, List.lookup_nil, hb]
    by_cases hm : l = m
    · subst hm
      simp [hl]
    · simp [hm]

end Volume

namespace Change

/-- Without changes a volume is as it was. -/
lemma applyAll_nil (v : Volume) : applyAll v [] = v := rfl

/-- Changes are made one after the other, from the first on. -/
lemma applyAll_cons (v : Volume) (ch : Change) (rest : List Change) :
    applyAll v (ch :: rest) = applyAll (ch.apply v) rest := rfl

/-- Changes in two lists are those of the first and then those of the second. -/
lemma applyAll_append (v : Volume) (first rest : List Change) :
    applyAll v (first ++ rest) = applyAll (applyAll v first) rest := by
  simp [applyAll]

/-- A change leaves the current directory alone. -/
@[simp] lemma apply_current (v : Volume) (ch : Change) : (ch.apply v).current = v.current := by
  cases ch with
  | makeDirectory l => rfl
  | write l b => rfl
  | move s t =>
    simp only [apply]
    split <;> rfl

/-- Changes leave the current directory alone. -/
@[simp] lemma applyAll_current (v : Volume) (changes : List Change) :
    (applyAll v changes).current = v.current := by
  induction changes generalizing v with
  | nil => rfl
  | cons ch rest ih => rw [applyAll_cons, ih, apply_current]

/-- What is refused stays so. -/
@[simp] lemma apply_refusals (v : Volume) (ch : Change) : (ch.apply v).refusals = v.refusals := by
  cases ch with
  | makeDirectory l => rfl
  | write l b => rfl
  | move s t =>
    simp only [apply]
    split <;> rfl

/-- Changes change nothing of what is refused. -/
@[simp] lemma applyAll_refusals (v : Volume) (changes : List Change) :
    (applyAll v changes).refusals = v.refusals := by
  induction changes generalizing v with
  | nil => rfl
  | cons ch rest ih => rw [applyAll_cons, ih, apply_refusals]

/-- What is where after a directory was made. -/
lemma node?_makeDirectory (v : Volume) {m : Location} (l : Location) :
    ((makeDirectory m).apply v).node? l = if l = m then some .directory else v.node? l := by
  rw [apply, Volume.node?_put]
  by_cases hl : l = [] <;> simp [hl]

/-- What is where after a file was written. -/
lemma node?_write (v : Volume) {m : Location} (hm : m ≠ []) (b : Bytes) (l : Location) :
    ((write m b).apply v).node? l = if l = m then some (.file b) else v.node? l := by
  rw [apply, Volume.node?_put]
  by_cases hl : l = m
  · simp [hl, hm]
  · simp [hl]

/-- What is where after a file was moved: what was there before is replaced. -/
lemma node?_move (v : Volume) {s t : Location} {b : Bytes} (hs : v.node? s = some (.file b))
    (ht : t ≠ []) (l : Location) :
    ((move s t).apply v).node? l =
      if l = t then some (.file b) else if l = s then none else v.node? l := by
  have hs' : s ≠ [] := by
    rintro rfl
    simp at hs
  rw [apply, hs]
  simp only [Volume.node?_put, Volume.node?_erase]
  by_cases hlt : l = t
  · simp [hlt, ht]
  · by_cases hls : l = s
    · subst hls
      simp [hlt, hs']
    · simp [hlt, hls]

/-! ## Legal steps -/

/-- Whether a file system admits a step: what is made or written is put into a directory, no
directory is made where something is, and no directory is overwritten or moved. -/
def Legal (v : Volume) : Change → Prop
  | .makeDirectory l => v.node? l = none ∧ v.node? l.dropLast = some .directory
  | .write l _ => v.node? l ≠ some .directory ∧ v.node? l.dropLast = some .directory
  | .move s t => (∃ b, v.node? s = some (.file b)) ∧ v.node? t ≠ some .directory ∧
      v.node? t.dropLast = some .directory

/-- Whether a file system admits steps one after the other. -/
def LegalAll (v : Volume) : List Change → Prop
  | [] => True
  | ch :: rest => ch.Legal v ∧ LegalAll (ch.apply v) rest

/-- Changes in two lists are legal exactly if the first are, and then the second. -/
lemma legalAll_append {v : Volume} {first rest : List Change} :
    LegalAll v (first ++ rest) ↔ LegalAll v first ∧ LegalAll (applyAll v first) rest := by
  induction first generalizing v with
  | nil => simp [LegalAll, applyAll_nil]
  | cons ch first ih => simp [LegalAll, applyAll_cons, ih, and_assoc]

end Change

namespace Volume

/-- Whatever is on the volume is in a directory of it, and so is the program. -/
structure WellFormed (v : Volume) : Prop where
  parent : ∀ l, v.node? l ≠ none → v.node? l.dropLast = some .directory
  current : v.node? v.current = some .directory

/-- A volume on which there is nothing but the root. -/
lemma wellFormed_empty : Volume.empty.WellFormed := by
  refine ⟨fun l hl => ?_, rfl⟩
  obtain rfl : l = [] := by
    by_contra hne
    simp [node?_of_ne_nil _ hne, empty] at hl
  rfl

/-- Two volumes hold the same and refuse the same, and the program runs in the same directory of
them. -/
structure Same (v w : Volume) : Prop where
  current : v.current = w.current
  refusals : v.refusals = w.refusals
  node? : ∀ l, v.node? l = w.node? l

/-- The directories of `v` are directories of `w`, and what `v` refuses `w` does. -/
structure Later (v w : Volume) : Prop where
  current : v.current = w.current
  refusals : v.refusals = w.refusals
  directory : ∀ l, v.node? l = some .directory → w.node? l = some .directory

/-- A volume comes of itself. -/
lemma Later.refl (v : Volume) : v.Later v := ⟨rfl, rfl, fun _ h => h⟩

/-- What comes of a volume that has come of another has come of that one. -/
lemma Later.trans {u v w : Volume} (h : u.Later v) (h' : v.Later w) : u.Later w :=
  ⟨h.current.trans h'.current, h.refusals.trans h'.refusals,
    fun l hl => h'.directory l (h.directory l hl)⟩

namespace WellFormed

variable {v : Volume}

/-- Every location that leads to something is one of a directory. -/
lemma directory_of_append (hv : v.WellFormed) {l rest : Location} (hrest : rest ≠ [])
    (h : v.node? (l ++ rest) ≠ none) : v.node? l = some .directory := by
  induction rest using List.reverseRecOn with
  | nil => exact absurd rfl hrest
  | append_singleton rest name ih =>
    have hdir := hv.parent _ h
    rw [← List.append_assoc, List.dropLast_concat] at hdir
    by_cases hr : rest = []
    · simpa [hr] using hdir
    · exact ih hr (by simp [hdir])

/-- Nothing is below a location that holds nothing. -/
lemma node?_append_of_none (hv : v.WellFormed) {l : Location} (h : v.node? l = none)
    (rest : Location) : v.node? (l ++ rest) = none := by
  by_cases hr : rest = []
  · simpa [hr] using h
  · by_contra hne
    rw [hv.directory_of_append hr hne] at h
    simp at h

end WellFormed

end Volume

namespace Change

variable {v : Volume} {ch : Change}

/-- What a legal step puts somewhere or takes away is no directory that was there. -/
lemma Legal.later (h : ch.Legal v) : v.Later (ch.apply v) := by
  refine ⟨(apply_current v ch).symm, (apply_refusals v ch).symm, fun l hl => ?_⟩
  cases ch with
  | makeDirectory m =>
    rw [node?_makeDirectory]
    split
    · rfl
    · exact hl
  | write m b =>
    rw [apply, Volume.node?_put]
    split
    · next hm => exact absurd (hm.1 ▸ hl) h.1
    · exact hl
  | move s t =>
    obtain ⟨⟨b, hs⟩, ht, -⟩ := h
    have ht' : t ≠ [] := by
      rintro rfl
      simp at ht
    rw [node?_move v hs ht']
    have hlt : l ≠ t := by
      rintro rfl
      exact ht hl
    have hls : l ≠ s := by
      rintro rfl
      simp [hs] at hl
    simp [hlt, hls, hl]

/-- A legal step keeps the tree.

**Proof sketch.** The new node is in a directory. A node that was there keeps its parent, since
legal steps keep directories; only below the source of a move something could be left over, and
there is nothing below a file. -/
lemma Legal.wellFormed (hv : v.WellFormed) (h : ch.Legal v) : (ch.apply v).WellFormed := by
  have hlater := h.later
  have keep : ∀ l, v.node? l ≠ none → (ch.apply v).node? l.dropLast = some .directory :=
    fun l hl => hlater.directory _ (hv.parent l hl)
  refine ⟨fun l hl => ?_, by rw [apply_current]; exact hlater.directory _ hv.current⟩
  cases ch with
  | makeDirectory m =>
    rw [node?_makeDirectory] at hl
    by_cases hlm : l = m
    · exact hlm ▸ hlater.directory _ h.2
    · exact keep l (by simpa [hlm] using hl)
  | write m b =>
    rw [apply, Volume.node?_put] at hl
    by_cases hlm : l = m
    · exact hlm ▸ hlater.directory _ h.2
    · exact keep l (by simpa [hlm] using hl)
  | move s t =>
    obtain ⟨⟨b, hs⟩, ht, hdir⟩ := h
    have ht' : t ≠ [] := by
      rintro rfl
      simp at ht
    rw [node?_move v hs ht'] at hl
    by_cases hlt : l = t
    · exact hlt ▸ hlater.directory _ hdir
    · by_cases hls : l = s
      · subst hls
        simp [hlt] at hl
      · exact keep l (by simpa [hlt, hls] using hl)

/-- A volume after legal changes has come of the one before. -/
lemma LegalAll.later {changes : List Change} (h : LegalAll v changes) :
    v.Later (applyAll v changes) := by
  induction changes generalizing v with
  | nil => exact .refl v
  | cons ch rest ih => exact h.1.later.trans (ih h.2)

/-- Legal changes leave a volume well-formed. -/
lemma LegalAll.wellFormed {changes : List Change} (hv : v.WellFormed) (h : LegalAll v changes) :
    (applyAll v changes).WellFormed := by
  induction changes generalizing v with
  | nil => exact hv
  | cons ch rest ih => exact ih (h.1.wellFormed hv) h.2

end Change

/-! ## Stopping -/

/-- `Stopped v changes u`: the steps `changes` from `v` on, stopped at some point, leave `u`. A file
that is being written may then hold only the beginning of its content. -/
inductive Stopped : Volume → List Change → Volume → Prop
  | here (v : Volume) (changes : List Change) : Stopped v changes v
  | torn (v : Volume) (place : Location) (content : Bytes) (written : Nat) (rest : List Change) :
    Stopped v (.write place content :: rest)
      ((Change.write place (content.take written)).apply v)
  | step {v u : Volume} {change : Change} {rest : List Change}
    (h : Stopped (change.apply v) rest u) : Stopped v (change :: rest) u

namespace Stopped

variable {v u : Volume}

/-- Without changes there is nothing to be stopped. -/
lemma nil_iff : Stopped v [] u ↔ u = v := by
  constructor
  · intro h
    cases h
    rfl
  · rintro rfl
    exact .here _ _

/-- Steps that are not stopped. -/
lemma all (v : Volume) (changes : List Change) : Stopped v changes (Change.applyAll v changes) := by
  induction changes generalizing v with
  | nil => exact .here _ _
  | cons ch rest ih => exact .step (ih _)

/-- Two runs are stopped in the first of them or in the second. -/
lemma append_iff {first rest : List Change} :
    Stopped v (first ++ rest) u ↔
      Stopped v first u ∨ Stopped (Change.applyAll v first) rest u := by
  induction first generalizing v with
  | nil =>
    rw [List.nil_append, Change.applyAll_nil, nil_iff]
    constructor
    · exact .inr
    · rintro (rfl | h)
      · exact .here _ _
      · exact h
  | cons ch first ih =>
    rw [List.cons_append, Change.applyAll_cons]
    constructor
    · intro h
      cases h with
      | here => exact .inl (.here _ _)
      | torn l b k => exact .inl (.torn _ _ _ _ _)
      | step h =>
        rcases ih.1 h with h | h
        · exact .inl (.step h)
        · exact .inr h
    · rintro (h | h)
      · cases h with
        | here => exact .here _ _
        | torn l b k => exact .torn _ _ _ _ _
        | step h => exact .step (ih.2 (.inl h))
      · exact .step (ih.2 (.inr h))

/-- Legal steps that are stopped keep the tree. -/
lemma wellFormed {changes : List Change} (hv : v.WellFormed) (hl : Change.LegalAll v changes)
    (h : Stopped v changes u) : u.WellFormed := by
  induction h with
  | here v changes => exact hv
  | torn v place content written rest =>
    have hlegal : (Change.write place (content.take written)).Legal v := hl.1
    exact hlegal.wellFormed hv
  | step h ih => exact ih (hl.1.wellFormed hv) hl.2

end Stopped

end ParseBench.Files
