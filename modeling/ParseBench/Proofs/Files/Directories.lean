import ParseBench.Proofs.Files.Walk

set_option relaxedAutoImplicit false
set_option autoImplicit false

/-!
# Making directories

Making a directory together with those above it takes steps that only make directories, and only
where nothing was. Without names of two dots it succeeds exactly if no file is in the way and no
directory that is missing is refused.

## Main definitions

* `ParseBench.Files.Made` — steps that only make directories where nothing was.
* `ParseBench.Files.Volume.Tries`, `ParseBench.Files.Volume.Makes` — how one directory is made, and
  how it is made together with those above it.
* `ParseBench.Files.Volume.Open` — no file is in the way of a directory, nor is it refused.

## Main results

* `ParseBench.Files.Made.node?_applyAll` — what is where after such steps.
* `ParseBench.Files.Volume.makeDirectories_makes` — directories are made in the described way.
* `ParseBench.Files.Volume.makeDirectories_made` — making directories takes such steps.
* `ParseBench.Files.Volume.makeDirectories_eq_ok_iff` — when it succeeds.
* `ParseBench.Files.Volume.node?_makeDirectories` — what is where if it succeeds.
-/

namespace ParseBench

open ParseBench.Text (Bytes)

/-! ## Paths above a path -/

namespace Path

/-- The parent of a path has all of its names but the last. -/
lemma parent_names {p : Path} {ns : List String} {x : String} (hp : p.names = ns ++ [x]) :
    p.parent.names = ns := by
  rw [parent, hp, List.dropLast_concat]

/-- A path without a null character has none in any of its names. -/
lemma hasNul_eq_false_iff {p : Path} :
    p.hasNul = false ↔ ∀ n ∈ p.names, Char.ofNat 0 ∉ n.toList := by
  simp [hasNul]

/-- The text of a path with a root, or with a name. -/
lemma text_eq_of_ne_nil {p : Path} (hp : p.names ≠ []) :
    p.text = p.root ++ "/".intercalate p.names := by
  rw [text, if_neg]
  simp [hp]

/-- The text above a path is not longer, unless it is the single dot of the empty path. -/
lemma utf8ByteSize_text_parent (p : Path) :
    p.parent.text.utf8ByteSize ≤ max 1 p.text.utf8ByteSize := by
  rcases List.eq_nil_or_concat' p.names with hp | ⟨ns, x, hp⟩
  · have hparent : p.parent = p := by
      rw [parent, hp, List.dropLast_nil, ← hp]
    rw [hparent]
    omega
  · have htext : p.text = p.root ++ "/".intercalate (ns ++ [x]) := by
      rw [text_eq_of_ne_nil (by simp [hp]), hp]
    have hparent : p.parent = ⟨p.root, ns⟩ := by rw [parent, hp, List.dropLast_concat]
    rw [hparent]
    by_cases hns : ns = []
    · subst hns
      have hdot : ".".utf8ByteSize = 1 := by decide
      rw [text]
      split
      · omega
      · rw [htext]
        simp only [String.intercalate_nil, String.utf8ByteSize_append, String.utf8ByteSize_empty]
        omega
    · rw [text_eq_of_ne_nil (p := ⟨p.root, ns⟩) hns, htext,
        String.intercalate_append_of_ne_nil hns (List.cons_ne_nil x [])]
      simp only [String.utf8ByteSize_append]
      omega

/-- The operating system takes a path above one that it takes. -/
lemma Fits.parent {p : Path} (h : p.Fits) : p.parent.Fits where
  nul := by
    rw [hasNul_eq_false_iff]
    intro n hn
    exact hasNul_eq_false_iff.1 h.nul n (List.dropLast_subset _ hn)
  length := by
    have h1 := p.utf8ByteSize_text_parent
    have h2 := h.length
    have h3 : 1 ≤ Files.maxPath := by decide
    omega
  names := fun n hn => h.names n (List.dropLast_subset _ hn)

end Path

namespace Files

/-! ## Steps that only make directories -/

/-- Steps that only make directories, where nothing was. -/
structure Made (v : Volume) (steps : List Change) : Prop where
  legal : Change.LegalAll v steps
  directories : ∀ ch ∈ steps, ∃ l, ch = .makeDirectory l
  allowed : ∀ l, .makeDirectory l ∈ steps → v.refusals.makes l = none

namespace Made

variable {v : Volume} {steps : List Change}

/-- No steps make no directories. -/
lemma nil (v : Volume) : Made v [] := ⟨trivial, by simp, by simp⟩

/-- Directories that are made one after the other. -/
lemma append {rest : List Change} (h : Made v steps) (h' : Made (Change.applyAll v steps) rest) :
    Made v (steps ++ rest) where
  legal := Change.legalAll_append.2 ⟨h.legal, h'.legal⟩
  directories := fun ch hch => (List.mem_append.1 hch).elim (h.directories ch) (h'.directories ch)
  allowed := fun l hl => (List.mem_append.1 hl).elim (h.allowed l) fun hl => by
    rw [← Change.applyAll_refusals v steps]
    exact h'.allowed l hl

/-- What is left after the first directory are directories that are made as well. -/
lemma of_cons {ch : Change} (h : Made v (ch :: steps)) : Made (ch.apply v) steps :=
  ⟨h.legal.2, fun c hc => h.directories c (List.mem_cons_of_mem _ hc), fun l hl => by
    rw [Change.apply_refusals]
    exact h.allowed l (List.mem_cons_of_mem _ hl)⟩

/-- **What is where** after making directories. -/
lemma node?_applyAll (h : Made v steps) (l : Location) :
    (Change.applyAll v steps).node? l =
      if .makeDirectory l ∈ steps then some .directory else v.node? l := by
  induction steps generalizing v with
  | nil => simp [Change.applyAll_nil]
  | cons ch steps ih =>
    obtain ⟨m, rfl⟩ := h.directories ch (List.mem_cons_self ..)
    rw [Change.applyAll_cons, ih h.of_cons, Change.node?_makeDirectory]
    by_cases hmem : .makeDirectory l ∈ steps
    · simp [hmem]
    · by_cases hlm : l = m <;> simp [hmem, hlm]

/-- Directories are made where nothing was. -/
lemma node?_eq_none (h : Made v steps) {l : Location} (hl : .makeDirectory l ∈ steps) :
    v.node? l = none := by
  induction steps generalizing v with
  | nil => simp at hl
  | cons ch steps ih =>
    obtain ⟨m, rfl⟩ := h.directories ch (List.mem_cons_self ..)
    rcases List.mem_cons.1 hl with hlm | hl
    · cases hlm
      exact h.legal.1.1
    · have hnone := ih h.of_cons hl
      rw [Change.node?_makeDirectory] at hnone
      split at hnone
      · simp at hnone
      · exact hnone

/-- What was somewhere stays there. -/
lemma node?_of_some (h : Made v steps) {l : Location} {n : Node} (hn : v.node? l = some n) :
    (Change.applyAll v steps).node? l = some n := by
  rw [h.node?_applyAll, if_neg, hn]
  intro hl
  simp [h.node?_eq_none hl] at hn

/-- No file is changed by making directories. -/
lemma file?_applyAll (h : Made v steps) (l : Location) :
    (Change.applyAll v steps).file? l = v.file? l := by
  rw [Volume.file?, Volume.file?, h.node?_applyAll]
  split_ifs with hl
  · rw [h.node?_eq_none hl]
  · rfl

/-- Making directories is stopped after some of them. -/
lemma of_stopped {u : Volume} (h : Made v steps) (hu : Stopped v steps u) :
    ∃ first, Made v first ∧ first ⊆ steps ∧ u = Change.applyAll v first := by
  induction hu with
  | here v steps => exact ⟨[], nil v, List.nil_subset _, rfl⟩
  | torn v place content written rest =>
    obtain ⟨l, hl⟩ := h.directories _ (List.mem_cons_self ..)
    cases hl
  | @step v u ch rest hu ih =>
    obtain ⟨first, hfirst, hsub, rfl⟩ := ih h.of_cons
    have hall := List.cons_subset_cons ch hsub
    exact ⟨ch :: first, ⟨⟨h.legal.1, hfirst.legal⟩, fun c hc => h.directories c (hall hc),
      fun l hl => h.allowed l (hall hl)⟩, hall, rfl⟩

end Made

namespace Volume

variable {v : Volume}

/-! ## The steps of making directories -/

/-- A directory that is made is one. -/
lemma makeDirectory_made (hv : v.WellFormed) {p : Path} {ch : Change}
    (h : v.makeDirectory p = .ok ch) : Made v [ch] := by
  obtain ⟨-, d, x, hr, hnone, hmakes, rfl⟩ := makeDirectory_eq_ok_iff.1 h
  refine ⟨⟨⟨hnone, ?_⟩, trivial⟩, by simp, by simpa using hmakes⟩
  rw [List.dropLast_concat]
  exact hv.resolve_named hr

/-- One try at a directory: it is made, or it has no place yet, or whatever else is the matter is
forgiven if the directory is there. -/
inductive Tries (v : Volume) (p : Path) : List Change → Except AccessFault Unit → Prop
  | made {ch : Change} (h : v.makeDirectory p = .ok ch) : Tries v p [ch] (.ok ())
  | missing (h : v.makeDirectory p = .error (faultAt p .noEntry)) :
      Tries v p [] (.error (faultAt p .noEntry))
  | refused {fault : AccessFault} (h : v.makeDirectory p = .error fault)
      (hfault : fault ≠ faultAt p .noEntry) : Tries v p [] (v.forgive p fault)

/-- How a directory is made together with those above it: by one try, unless it has no place yet
and is below others. Then those are made first, and a second try follows if that succeeds. -/
inductive Makes (v : Volume) : Path → List Change → Except AccessFault Unit → Prop
  | here {p : Path} {steps : List Change} {result : Except AccessFault Unit}
      (hplace : v.makeDirectory p = .error (faultAt p .noEntry) → p.names = [])
      (h : Tries v p steps result) : Makes v p steps result
  | stopped {p : Path} {above : List Change} {fault : AccessFault} (hnames : p.names ≠ [])
      (hplace : v.makeDirectory p = .error (faultAt p .noEntry))
      (habove : Makes v p.parent above (.error fault)) : Makes v p above (.error fault)
  | after {p : Path} {above steps : List Change} {result : Except AccessFault Unit}
      (hnames : p.names ≠ []) (hplace : v.makeDirectory p = .error (faultAt p .noEntry))
      (habove : Makes v p.parent above (.ok ()))
      (h : Tries (Change.applyAll v above) p steps result) : Makes v p (above ++ steps) result

/-- The fault that a directory has no place is about its path. -/
lemma makeDirectory_noEntry {p : Path} {path : String} {other : Option String}
    (h : v.makeDirectory p = .error (.os .noEntry path other)) : path = p.text ∧ other = none := by
  rw [makeDirectory] at h
  split at h
  · cases h
  · split at h
    · cases h
      exact ⟨rfl, rfl⟩
    · cases h
    · split at h
      · cases h
      · split at h <;> cases h

/-- Any fault but that of a missing place is forgiven or not, given as the cases of the program
leave it. -/
lemma Tries.of_other {p : Path} {fault : AccessFault} (h : v.makeDirectory p = .error fault)
    (hother : ∀ path other, fault = .os .noEntry path other → False) :
    Tries v p [] (v.forgive p fault) :=
  .refused h fun heq => hother _ _ heq

/-- The depth is the number of names, so that it is used up exactly at the path without names.

**Proof sketch.** Induction on the depth, following the recursion: a try that finds the parent
missing makes the parent first and is repeated. -/
lemma makeDirectoriesFrom_makes {depth : Nat} {p : Path} (hdepth : p.names.length = depth) :
    Makes v p (v.makeDirectoriesFrom p depth).1 (v.makeDirectoriesFrom p depth).2 := by
  induction depth generalizing p with
  | zero =>
    have hnil : p.names = [] := List.eq_nil_of_length_eq_zero hdepth
    rw [makeDirectoriesFrom]
    refine .here (fun _ => hnil) ?_
    split
    · next h => exact .made h
    · next h =>
      obtain ⟨rfl, rfl⟩ := makeDirectory_noEntry h
      exact .missing h
    · next hother h => exact .of_other h hother
  | succ depth ih =>
    have hparent : p.parent.names.length = depth := by
      rw [Path.parent, List.length_dropLast, hdepth, Nat.add_sub_cancel]
    have hnames : p.names ≠ [] := by
      rintro hnil
      simp [hnil] at hdepth
    have hne : ¬ p.names.isEmpty = true := by rwa [List.isEmpty_iff]
    have habove := ih hparent
    rw [makeDirectoriesFrom]
    split
    · next h => exact .here (fun h' => by rw [h] at h'; cases h') (.made h)
    · next hplace =>
      obtain ⟨rfl, rfl⟩ := makeDirectory_noEntry hplace
      rw [if_neg hne]
      split
      · next h =>
        rw [h] at habove
        exact .stopped hnames hplace habove
      · next above h =>
        rw [h] at habove
        have again : ∀ {result}, Tries (Change.applyAll v above) p [] result →
            Makes v p above result := by
          intro result h
          simpa using Makes.after hnames hplace habove h
        dsimp only
        split
        · next h => exact .after hnames hplace habove (.made h)
        · next h =>
          obtain ⟨rfl, rfl⟩ := makeDirectory_noEntry h
          exact again (.missing h)
        · next hother h => exact again (.of_other h hother)
    · next hother h =>
      refine .here (fun h' => ?_) (.of_other h hother)
      rw [h] at h'
      exact (hother _ _ (Except.error.inj h')).elim

/-- **How directories are made.** -/
lemma makeDirectories_makes (v : Volume) (p : Path) :
    Makes v p (v.makeDirectories p).1 (v.makeDirectories p).2 :=
  makeDirectoriesFrom_makes rfl

/-- Directories that were made without a failure. -/
lemma makes_of_ok {p : Path} (h : (v.makeDirectories p).2 = .ok ()) :
    Makes v p (v.makeDirectories p).1 (.ok ()) := by
  rw [← h]
  exact makeDirectories_makes v p

/-- What is tried for one directory makes directories only. -/
lemma Tries.made_steps {p : Path} {steps : List Change} {result : Except AccessFault Unit}
    (hv : v.WellFormed) (h : Tries v p steps result) : Made v steps := by
  cases h with
  | made h => exact makeDirectory_made hv h
  | missing h => exact .nil v
  | refused h hfault => exact .nil v

/-- What is done for a directory and those above it makes directories only. -/
lemma Makes.made {p : Path} {steps : List Change} {result : Except AccessFault Unit}
    (hv : v.WellFormed) (h : Makes v p steps result) : Made v steps := by
  induction h with
  | here _ h => exact h.made_steps hv
  | stopped _ _ _ ih => exact ih
  | after _ _ _ h ih => exact ih.append (h.made_steps (ih.legal.wellFormed hv))

/-- **Making directories takes steps that only make directories, where nothing was.** -/
lemma makeDirectories_made (hv : v.WellFormed) (p : Path) : Made v (v.makeDirectories p).1 :=
  (makeDirectories_makes v p).made hv

/-! ## Success -/

/-- When a path leads to a directory. -/
lemma isDirectory_eq_true_iff {p : Path} : v.isDirectory p = .ok true ↔
    p.hasNul = false ∧ ∃ place, v.resolve p = .ok place ∧
      v.node? place.location = some .directory := by
  rw [isDirectory, lookup]
  cases p.hasNul with
  | true => simp
  | false =>
    simp only [Bool.false_eq_true, if_false, true_and]
    cases hr : v.resolve p with
    | error e => cases e <;> simp
    | ok place =>
      cases hn : v.node? place.location with
      | none => simp [hn]
      | some n => cases n <;> simp [hn]

/-- When a failure to make a directory is forgiven: exactly if the path leads to one. -/
lemma forgive_eq_ok_iff {p : Path} {fault : AccessFault} :
    v.forgive p fault = .ok () ↔ fault ≠ .nul ∧ v.isDirectory p = .ok true := by
  cases fault with
  | nul => simp [forgive]
  | os | cut =>
    simp only [forgive, ne_eq, reduceCtorEq, not_false_eq_true, true_and]
    split
    · next h => simp [h]
    · next h => simp [h]
    · next h => simp [h]

/-- A path without names of two dots denotes its location, and the operating system takes it. -/
lemma resolve_location (hv : v.WellFormed) {p : Path} (hdots : ".." ∉ p.names)
    (hnul : p.hasNul = false) {place : Place} (h : v.resolve p = .ok place) :
    p.Fits ∧ place.location = v.locate p := by
  rcases List.eq_nil_or_concat' p.names with hp | ⟨ns, x, hp⟩
  · rw [resolve_eq_nil v hp] at h
    split at h
    · cases h
    · next hlen =>
      cases h
      refine ⟨⟨hnul, by omega, by simp [hp]⟩, ?_⟩
      rw [locate, hp, List.append_nil]
      rfl
  · cases place with
    | named d y =>
      obtain ⟨hfits, rfl, rfl, -⟩ := (resolve_eq_named_iff_locate hv hp hdots hnul).1 h
      exact ⟨hfits, by rw [locate, hp, ← List.append_assoc]; rfl⟩
    | directory l =>
      rw [resolve_eq v hp] at h
      split at h
      · cases h
      · cases hw : v.walk (v.origin p) ns with
        | error e => simp [hw] at h
        | ok d =>
          rw [hw] at h
          simp only [placeIn] at h
          split at h
          · next hx =>
            subst hx
            simp [hp] at hdots
          · split at h <;> cases h

/-- No file is in the way of a directory, and the operating system takes its path and lets make what
is missing of it. -/
structure Open (v : Volume) (p : Path) : Prop where
  fits : p.Fits
  free : ∀ l, l <+: v.locate p → ∀ b, v.node? l ≠ some (.file b)
  allowed : ∀ l, l <+: v.locate p → v.node? l = none → v.refusals.makes l = none

/-- The place of a path is that of its parent, and then its last name. -/
lemma locate_parent (v : Volume) {p : Path} {ns : List String} {x : String}
    (hp : p.names = ns ++ [x]) : v.locate p = v.locate p.parent ++ [x] := by
  rw [locate, locate, Path.parent_names hp, hp, ← List.append_assoc]
  rfl

/-- Steps that make a directory make those above it. -/
lemma makeDirectory_locate (hv : v.WellFormed) {p : Path} (hdots : ".." ∉ p.names) {ch : Change}
    (h : v.makeDirectory p = .ok ch) : ch = .makeDirectory (v.locate p) ∧ p.Fits := by
  obtain ⟨hnul, d, x, hr, -, -, rfl⟩ := makeDirectory_eq_ok_iff.1 h
  obtain ⟨hfits, hloc⟩ := resolve_location hv hdots hnul hr
  exact ⟨by rw [← hloc]; rfl, hfits⟩

/-- A path whose failure is forgiven has a directory in its place. -/
lemma forgive_locate (hv : v.WellFormed) {p : Path} (hdots : ".." ∉ p.names) {fault : AccessFault}
    (h : v.forgive p fault = .ok ()) : v.node? (v.locate p) = some .directory ∧ p.Fits := by
  obtain ⟨-, h⟩ := forgive_eq_ok_iff.1 h
  obtain ⟨hnul, place, hr, hnode⟩ := isDirectory_eq_true_iff.1 h
  obtain ⟨hfits, hloc⟩ := resolve_location hv hdots hnul hr
  exact ⟨hloc ▸ hnode, hfits⟩

/-- A parent has no names of two dots that its path does not have. -/
lemma parent_dots {p : Path} (hdots : ".." ∉ p.names) : ".." ∉ p.parent.names :=
  fun h => hdots (List.dropLast_subset _ h)

/-- What is tried for one directory makes that directory and no other. -/
lemma Tries.locate (hv : v.WellFormed) {p : Path} (hdots : ".." ∉ p.names)
    {steps : List Change} {result : Except AccessFault Unit} (h : Tries v p steps result) :
    ∀ ch ∈ steps, ch = .makeDirectory (v.locate p) := by
  cases h with
  | made h => simpa using (makeDirectory_locate hv hdots h).1
  | missing h => simp
  | refused h hfault => simp

/-- If a try at a directory succeeds, then it is there. -/
lemma Tries.directory (hv : v.WellFormed) {p : Path} (hdots : ".." ∉ p.names)
    {steps : List Change} (h : Tries v p steps (.ok ())) :
    (Change.applyAll v steps).node? (v.locate p) = some .directory ∧ p.Fits := by
  generalize hresult : Except.ok () = result at h
  cases h with
  | made h =>
    obtain ⟨rfl, hfits⟩ := makeDirectory_locate hv hdots h
    refine ⟨?_, hfits⟩
    rw [Change.applyAll_cons, Change.applyAll_nil, Change.node?_makeDirectory, if_pos rfl]
  | missing h => cases hresult
  | refused h hfault => exact forgive_locate hv hdots hresult.symm

/-- What is above the parent of a path is above the path. -/
lemma prefix_locate_of_parent {p : Path} {l : Location} (h : l <+: v.locate p.parent) :
    l <+: v.locate p :=
  h.trans ((List.prefix_append_right_inj _).2 (List.dropLast_prefix _))

/-- All directories that are made for a path are above it. -/
lemma Makes.prefix_locate (hv : v.WellFormed) {p : Path} {steps : List Change}
    {result : Except AccessFault Unit} (h : Makes v p steps result) (hdots : ".." ∉ p.names)
    {l : Location} (hl : .makeDirectory l ∈ steps) : l <+: v.locate p := by
  induction h with
  | here _ h =>
    cases h.locate hv hdots _ hl
    exact List.prefix_rfl
  | stopped _ _ _ ih => exact prefix_locate_of_parent (ih (parent_dots hdots) hl)
  | after _ _ habove h ih =>
    rcases List.mem_append.1 hl with hl | hl
    · exact prefix_locate_of_parent (ih (parent_dots hdots) hl)
    · have hlegal := (habove.made hv).legal
      cases h.locate (hlegal.wellFormed hv) hdots _ hl
      rw [hlegal.later.locate]

/-- **Directories are made only on the way to the last one.** -/
lemma makeDirectories_onWay (hv : v.WellFormed) {p : Path} (hdots : ".." ∉ p.names)
    {l : Location} (hl : .makeDirectory l ∈ (v.makeDirectories p).1) : l <+: v.locate p :=
  (makeDirectories_makes v p).prefix_locate hv hdots hl

/-- If directories are made, then the last one is there. -/
lemma Makes.directory (hv : v.WellFormed) {p : Path} (hdots : ".." ∉ p.names)
    {steps : List Change} (h : Makes v p steps (.ok ())) :
    (Change.applyAll v steps).node? (v.locate p) = some .directory ∧ p.Fits := by
  generalize hresult : Except.ok () = result at h
  cases h with
  | here _ h =>
    subst hresult
    exact h.directory hv hdots
  | stopped _ _ habove => cases hresult
  | after _ _ habove h =>
    subst hresult
    have hlegal := (habove.made hv).legal
    rw [Change.applyAll_append, ← hlegal.later.locate]
    exact h.directory (hlegal.wellFormed hv) hdots

/-- Where no file is in the way, names lead to a directory or to nothing. -/
lemma walk_of_free (hv : v.WellFormed) {f : Location} (hf : v.node? f = some .directory)
    {ns : List String} (hns : ".." ∉ ns) (hsizes : ∀ n ∈ ns, n.utf8ByteSize ≤ maxName)
    (hfree : ∀ l, l <+: f ++ ns → ∀ b, v.node? l ≠ some (.file b)) :
    v.walk f ns = .ok (f ++ ns) ∨ v.walk f ns = .error .noEntry ∧ v.node? (f ++ ns) = none := by
  induction ns generalizing f with
  | nil => exact .inl (by simp [walk])
  | cons n ns ih =>
    have hn : n ≠ ".." := by
      rintro rfl
      simp at hns
    have hsize := hsizes n (by simp)
    have happend : f ++ n :: ns = f ++ [n] ++ ns := by simp
    rw [walk, happend, enter, if_neg hn, if_neg (Nat.not_lt_of_le hsize)]
    cases hnode : v.node? (f ++ [n]) with
    | none => exact .inr ⟨rfl, hv.node?_append_of_none hnode ns⟩
    | some node =>
      cases node with
      | file b => exact absurd hnode (hfree _ ⟨ns, happend.symm⟩ b)
      | directory =>
        refine ih hnode (fun h => hns (by simp [h])) (fun m hm => hsizes m (by simp [hm])) ?_
        rw [← happend]
        exact hfree

/-- A directory that no file is in the way of is made, or is there, or the one above it is not. -/
lemma makeDirectory_of_open (hv : v.WellFormed) {p : Path} (hdots : ".." ∉ p.names)
    (hp : v.Open p) :
    v.makeDirectory p = .ok (.makeDirectory (v.locate p)) ∨
      (v.makeDirectory p = .error (faultAt p .alreadyExists) ∧ v.isDirectory p = .ok true) ∨
      (v.makeDirectory p = .error (faultAt p .noEntry) ∧ p.names ≠ [] ∧
        v.node? (v.locate p.parent) = none) := by
  have hlen : ¬ maxPath < p.text.utf8ByteSize := Nat.not_lt_of_le hp.fits.length
  rcases List.eq_nil_or_concat' p.names with hnil | ⟨ns, x, hns⟩
  · have hr : v.resolve p = .ok (.directory (v.origin p)) := by
      rw [resolve_eq_nil v hnil, if_neg hlen]
    refine .inr (.inl ⟨?_, isDirectory_eq_true_iff.2 ⟨hp.fits.nul, _, hr, hv.origin p⟩⟩)
    rw [makeDirectory, hp.fits.nul, hr]
    rfl
  · have hloc : v.locate p = v.origin p ++ ns ++ [x] := by rw [locate, hns, List.append_assoc]
    have hparent : v.locate p.parent = v.origin p ++ ns := by
      rw [locate, Path.parent_names hns]
      rfl
    have hnodots : ".." ∉ ns := fun h => hdots (by simp [hns, h])
    have hsizes : ∀ n ∈ ns, n.utf8ByteSize ≤ maxName :=
      fun n hn => hp.fits.names n (by simp [hns, hn])
    have hfree : ∀ l, l <+: v.origin p ++ ns → ∀ b, v.node? l ≠ some (.file b) :=
      fun l hl => hp.free l (hl.trans (hloc ▸ List.prefix_append _ _))
    rcases walk_of_free hv (hv.origin p) hnodots hsizes hfree with hw | ⟨hw, hnone⟩
    · have hr : v.resolve p = .ok (.named (v.origin p ++ ns) x) := by
        rw [resolve_eq v hns, if_neg hlen, hw]
        refine placeIn_eq_named_iff.2 ⟨?_, hp.fits.names x (by simp [hns]), rfl, rfl⟩
        rintro rfl
        simp [hns] at hdots
      cases hnode : v.node? (v.origin p ++ ns ++ [x]) with
      | none =>
        have hmakes : v.refusals.makes (v.origin p ++ ns ++ [x]) = none :=
          hp.allowed _ (by rw [hloc]) hnode
        exact .inl (makeDirectory_eq_ok_iff.2 ⟨hp.fits.nul, _, _, hr, hnode, hmakes, by rw [hloc]⟩)
      | some node =>
        cases node with
        | file b => exact absurd hnode (hp.free _ (by rw [hloc]) b)
        | directory =>
          refine .inr (.inl ⟨?_, isDirectory_eq_true_iff.2 ⟨hp.fits.nul, _, hr, hnode⟩⟩)
          rw [makeDirectory, hp.fits.nul, hr]
          simp only [Bool.false_eq_true, if_false, hnode]
    · refine .inr (.inr ⟨?_, by simp [hns], hparent ▸ hnone⟩)
      rw [makeDirectory, hp.fits.nul, resolve_eq v hns, if_neg hlen, hw]
      rfl

/-- A try at a directory succeeds if no file is in the way and it has a place. -/
lemma Tries.ok_of_open (hv : v.WellFormed) {p : Path} (hdots : ".." ∉ p.names) (hp : v.Open p)
    {steps : List Change} {result : Except AccessFault Unit} (h : Tries v p steps result)
    (hplace : p.names ≠ [] → v.node? (v.locate p.parent) = none →
      v.makeDirectory p ≠ .error (faultAt p .noEntry)) : result = .ok () := by
  rcases makeDirectory_of_open hv hdots hp with hmk | ⟨hmk, hdir⟩ | ⟨hmk, hne, hnone⟩
  · cases h with
    | made h => rfl
    | missing h => simp [hmk] at h
    | refused h hfault => simp [hmk] at h
  · cases h with
    | made h => rfl
    | missing h => simp [hmk, faultAt] at h
    | refused h hfault =>
      cases hmk.symm.trans h
      exact forgive_eq_ok_iff.2 ⟨by simp [faultAt], hdir⟩
  · exact absurd hmk (hplace hne hnone)

/-- If nothing is in the way of a path, nothing is in the way of its parent. -/
lemma Open.parent {p : Path} (hp : v.Open p) : v.Open p.parent :=
  ⟨hp.fits.parent, fun l hl => hp.free l (prefix_locate_of_parent hl),
    fun l hl => hp.allowed l (prefix_locate_of_parent hl)⟩

/-- Making directories puts no file in the way. -/
lemma Open.of_made {p : Path} {steps : List Change} (hp : v.Open p) (h : Made v steps) :
    (Change.applyAll v steps).Open p := by
  refine ⟨hp.fits, fun l hl b hfile => ?_, fun l hl hnone => ?_⟩
  · rw [h.legal.later.locate] at hl
    rw [h.node?_applyAll] at hfile
    split at hfile
    · cases hfile
    · exact hp.free l hl b hfile
  · rw [h.legal.later.locate] at hl
    rw [h.node?_applyAll] at hnone
    rw [Change.applyAll_refusals]
    split at hnone
    · cases hnone
    · exact hp.allowed l hl hnone

/-- Where no file is in the way, directories are made.

**Proof sketch.** Induction on how they are made. At the first try the directory has a place or
is the first one of all. If it has none, then those above it are made by the induction hypothesis,
no file has come in the way, and the directory above is there at the second try. -/
lemma Makes.ok_of_open (hv : v.WellFormed) {p : Path} {steps : List Change}
    {result : Except AccessFault Unit} (h : Makes v p steps result) (hdots : ".." ∉ p.names)
    (hp : v.Open p) : result = .ok () := by
  induction h with
  | here hplace h => exact h.ok_of_open hv hdots hp fun hne _ hmk => hne (hplace hmk)
  | stopped _ _ _ ih => exact ih (parent_dots hdots) hp.parent
  | after _ _ habove h =>
    have hmade := habove.made hv
    refine h.ok_of_open (hmade.legal.wellFormed hv) hdots (hp.of_made hmade) fun _ hnone => ?_
    rw [hmade.legal.later.locate, (habove.directory hv (parent_dots hdots)).1] at hnone
    cases hnone

/-- After directories were made there are directories all the way. -/
lemma makeDirectories_directory (hv : v.WellFormed) {p : Path} (hdots : ".." ∉ p.names)
    (h : (v.makeDirectories p).2 = .ok ()) {l : Location} (hl : l <+: v.locate p) :
    (Change.applyAll v (v.makeDirectories p).1).node? l = some .directory := by
  have hv' := (makeDirectories_made hv p).legal.wellFormed hv
  have hdir := ((makes_of_ok h).directory hv hdots).1
  obtain ⟨rest, hrest⟩ := hl
  rw [← hrest] at hdir
  by_cases hnil : rest = []
  · simpa [hnil] using hdir
  · exact hv'.directory_of_append hnil (by simp [hdir])

/-- **When directories are made**: exactly if no file is in the way, and none is refused. -/
lemma makeDirectories_eq_ok_iff (hv : v.WellFormed) {p : Path} (hdots : ".." ∉ p.names) :
    (v.makeDirectories p).2 = .ok () ↔ v.Open p := by
  constructor
  · intro h
    have hmade := makeDirectories_made hv p
    refine ⟨((makes_of_ok h).directory hv hdots).2, fun l hl b hfile => ?_, fun l hl hnone => ?_⟩
    · have hfile' := hmade.node?_of_some hfile
      rw [makeDirectories_directory hv hdots h hl] at hfile'
      simp at hfile'
    · have hdir := makeDirectories_directory hv hdots h hl
      rw [hmade.node?_applyAll, hnone] at hdir
      refine hmade.allowed l ?_
      by_contra hno
      rw [if_neg hno] at hdir
      cases hdir
  · exact (makeDirectories_makes v p).ok_of_open hv hdots

/-- **What is where after directories were made**: directories on the way to the last one, and all
else as it was. -/
lemma node?_makeDirectories (hv : v.WellFormed) {p : Path} (hdots : ".." ∉ p.names)
    (h : (v.makeDirectories p).2 = .ok ()) (l : Location) :
    (Change.applyAll v (v.makeDirectories p).1).node? l =
      if l <+: v.locate p then some .directory else v.node? l := by
  split
  · next hl => exact makeDirectories_directory hv hdots h hl
  · next hl =>
    rw [(makeDirectories_made hv p).node?_applyAll, if_neg]
    exact fun hmem => hl (makeDirectories_onWay hv hdots hmem)

end Volume

end Files

end ParseBench
