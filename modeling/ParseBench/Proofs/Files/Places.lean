import ParseBench.Proofs.Except
import ParseBench.Proofs.Files.Directories

set_option relaxedAutoImplicit false
set_option autoImplicit false

/-!
# The places that steps touch

A step changes what is at one or two locations and nothing else. There are no links, so that a path
leads to one location only, whatever directories there are: a name goes down, and a name of two dots
goes up. Every operation on a path changes nothing but what is there.

## Main definitions

* `ParseBench.Files.Change.places` — the locations that a step touches.
* `ParseBench.Files.Volume.spot` — the location that a path leads to.

## Main results

* `ParseBench.Files.Change.LegalAll.node?_of_notMem` — elsewhere everything stays as it was.
* `ParseBench.Files.Volume.resolve_spot` — a path that can be followed leads to its spot.
* `ParseBench.Files.Volume.write_spot` — what is written is written where its path leads.
-/

namespace ParseBench.Files

open ParseBench.Text (Bytes)

namespace Change

/-- The locations that a step touches. -/
def places : Change → List Location
  | .makeDirectory l => [l]
  | .write l _ => [l]
  | .move source target => [source, target]

variable {v : Volume} {l : Location}

/-- A change leaves all places that are not its own. -/
lemma Legal.node?_of_notMem {ch : Change} (h : ch.Legal v) (hl : l ∉ ch.places) :
    (ch.apply v).node? l = v.node? l := by
  cases ch with
  | makeDirectory m =>
    rw [node?_makeDirectory, if_neg (by simpa [places] using hl)]
  | write m b =>
    have hm : m ≠ [] := by
      rintro rfl
      exact h.1 rfl
    rw [node?_write v hm, if_neg (by simpa [places] using hl)]
  | move s t =>
    obtain ⟨⟨b, hs⟩, ht, -⟩ := h
    have htarget : t ≠ [] := by
      rintro rfl
      exact ht rfl
    simp only [places, List.mem_cons, List.not_mem_nil, or_false, not_or] at hl
    rw [node?_move v hs htarget, if_neg hl.2, if_neg hl.1]

/-- **Steps change nothing but what they touch.** -/
lemma LegalAll.node?_of_notMem {changes : List Change} (h : LegalAll v changes)
    (hl : ∀ ch ∈ changes, l ∉ ch.places) : (applyAll v changes).node? l = v.node? l := by
  induction changes generalizing v with
  | nil => rfl
  | cons ch rest ih =>
    rw [applyAll_cons, ih h.2 fun ch' h' => hl ch' (List.mem_cons_of_mem _ h'),
      h.1.node?_of_notMem (hl ch List.mem_cons_self)]

/-- Only making a directory puts one where there was none. -/
lemma Legal.eq_makeDirectory {ch : Change} (h : ch.Legal v) (hbefore : v.node? l ≠ some .directory)
    (hafter : (ch.apply v).node? l = some .directory) : ch = .makeDirectory l := by
  cases ch with
  | makeDirectory m =>
    rw [node?_makeDirectory] at hafter
    split_ifs at hafter with hm
    · rw [hm]
    · exact absurd hafter hbefore
  | write m b =>
    have hm : m ≠ [] := by
      rintro rfl
      exact h.1 rfl
    rw [node?_write v hm] at hafter
    split_ifs at hafter
    · cases hafter
    · exact absurd hafter hbefore
  | move s t =>
    obtain ⟨⟨b, hs⟩, ht, -⟩ := h
    have htarget : t ≠ [] := by
      rintro rfl
      exact ht rfl
    rw [node?_move v hs htarget] at hafter
    split_ifs at hafter
    · cases hafter
    · exact absurd hafter hbefore

/-- **A directory that is new was made.** -/
lemma LegalAll.makeDirectory_mem {changes : List Change} (h : LegalAll v changes)
    (hbefore : v.node? l ≠ some .directory)
    (hafter : (applyAll v changes).node? l = some .directory) : .makeDirectory l ∈ changes := by
  induction changes generalizing v with
  | nil => exact absurd hafter hbefore
  | cons ch rest ih =>
    by_cases hnow : (ch.apply v).node? l = some .directory
    · rw [← h.1.eq_makeDirectory hbefore hnow]
      exact List.mem_cons_self
    · exact List.mem_cons_of_mem _ (ih h.2 hnow hafter)

/-- **A directory that was made is there.** -/
lemma LegalAll.node?_of_makeDirectory {changes : List Change} (h : LegalAll v changes)
    (hl : .makeDirectory l ∈ changes) : (applyAll v changes).node? l = some .directory := by
  induction changes generalizing v with
  | nil => cases hl
  | cons ch rest ih =>
    rcases List.mem_cons.1 hl with rfl | hl
    · refine h.2.later.directory l ?_
      rw [node?_makeDirectory, if_pos rfl]
    · exact ih h.2 hl

end Change

namespace Volume

/-! ## Where paths lead -/

/-- One name further from a location. -/
def further (l : Location) (name : String) : Location :=
  if name = ".." then l.dropLast else l ++ [name]

/-- The location that a path leads to, if there are directories on the way. -/
def spot (v : Volume) (p : Path) : Location := p.names.foldl further (v.origin p)

/-- Where a path leads depends on the current directory alone. -/
lemma spot_of_current {v w : Volume} (h : w.current = v.current) (p : Path) :
    w.spot p = v.spot p := by
  rw [spot, spot, origin, origin, h]

variable {v : Volume} {p : Path}

/-- A name that can be entered leads one name further. -/
lemma enter_further {f d : Location} {n : String} (h : v.enter f n = .ok d) : d = further f n := by
  rw [further]
  rcases enter_eq_ok_iff.1 h with ⟨hn, rfl⟩ | ⟨hn, -, -, rfl⟩
  · rw [if_pos hn]
  · rw [if_neg hn]

/-- Names that can be walked lead as many names further. -/
lemma walk_further {f d : Location} {ns : List String} (h : v.walk f ns = .ok d) :
    d = ns.foldl further f := by
  induction ns generalizing f with
  | nil =>
    cases h
    rfl
  | cons n ns ih =>
    rw [walk] at h
    cases hn : v.enter f n with
    | error e =>
      rw [hn] at h
      cases h
    | ok next =>
      rw [hn] at h
      rw [List.foldl_cons, ← enter_further hn]
      exact ih h

/-- The place that is found under a name lies one name further. -/
lemma placeIn_further {d : Location} {x : String} {place : Place} (h : placeIn d x = .ok place) :
    place.location = further d x := by
  simp only [placeIn] at h
  rw [further]
  split_ifs at h with hx
  · cases h
    rw [if_pos hx]
    rfl
  · cases h
    rw [if_neg hx]
    rfl

/-- **A path that can be followed leads to its spot.** -/
lemma resolve_spot {place : Place} (h : v.resolve p = .ok place) : v.spot p = place.location := by
  rw [spot]
  rcases List.eq_nil_or_concat' p.names with hp | ⟨ns, x, hp⟩
  · rw [resolve_eq_nil v hp] at h
    split at h
    · cases h
    · cases h
      rw [hp]
      rfl
  · rw [resolve_eq v hp] at h
    split at h
    · cases h
    · cases hw : v.walk (v.origin p) ns with
      | error e =>
        rw [hw] at h
        cases h
      | ok d =>
        rw [hw] at h
        rw [hp, List.foldl_append, ← walk_further hw, placeIn_further h]
        rfl

/-- A directory that can be made is made where its path leads. -/
lemma makeDirectory_spot {ch : Change} (h : v.makeDirectory p = .ok ch) :
    ch = .makeDirectory (v.spot p) := by
  obtain ⟨-, d, x, hr, -, -, rfl⟩ := makeDirectory_eq_ok_iff.1 h
  rw [resolve_spot hr]
  rfl

/-- The paths above a path, and the path itself. -/
def Above (p q : Path) : Prop := q.root = p.root ∧ q.names <+: p.names

/-- A path is above itself. -/
lemma above_self (p : Path) : Above p p := ⟨rfl, List.prefix_rfl⟩

/-- What is above the parent is above the path. -/
lemma Above.of_parent {q : Path} (h : Above p.parent q) : Above p q :=
  ⟨h.1, h.2.trans (List.dropLast_prefix _)⟩

/-! ## Files in a directory -/

/-- A file is opened at the spot of its path. -/
lemma writable_spot {l : Location} (h : v.writable p = .ok l) : l = v.spot p := by
  obtain ⟨-, d, x, hr, rfl, -⟩ := writable_eq_ok_iff.1 h
  rw [resolve_spot hr]
  rfl

/-- Writing into a file that can be opened is a legal step. -/
lemma writable_legal (hv : v.WellFormed) {l : Location} (h : v.writable p = .ok l) (b : Bytes) :
    (Change.write l b).Legal v := by
  obtain ⟨-, d, x, hr, rfl, hdir, -⟩ := writable_eq_ok_iff.1 h
  exact ⟨hdir, by rw [List.dropLast_concat]; exact hv.resolve_named hr⟩

/-- The names of a directory can all be followed. -/
lemma walk_of_isDirectory (h : v.isDirectory p = .ok true) :
    ∃ d, v.walk (v.origin p) p.names = .ok d := by
  obtain ⟨-, place, hr, hnode⟩ := isDirectory_eq_true_iff.1 h
  rcases List.eq_nil_or_concat' p.names with hp | ⟨ns, x, hp⟩
  · exact ⟨v.origin p, by rw [hp]; rfl⟩
  · rw [resolve_eq v hp] at hr
    split at hr
    · cases hr
    · rw [hp]
      cases hw : v.walk (v.origin p) ns with
      | error e =>
        rw [hw] at hr
        cases hr
      | ok d =>
        rw [hw] at hr
        simp only [placeIn] at hr
        split_ifs at hr with hx hsize
        · exact ⟨d.dropLast, walk_concat_eq_ok_iff.2 ⟨d, hw, enter_eq_ok_iff.2 (.inl ⟨hx, rfl⟩)⟩⟩
        · cases hr
          exact ⟨d ++ [x], walk_concat_eq_ok_iff.2 ⟨d, hw,
            enter_eq_ok_iff.2 (.inr ⟨hx, Nat.le_of_not_lt hsize, hnode, rfl⟩)⟩⟩

/-- **A file in a directory can be opened for writing** unless a directory has its name, the path is
too long, or this is refused: looking at the path tells of the first two.

**Proof sketch.** The names of the directory can be followed, so that only the length of the whole
path and the node at the last name are left to decide, and both accesses ask for these. -/
lemma writable_eq {dir : Path} {x : String} (hp : p = ⟨dir.root, dir.names ++ [x]⟩)
    (hx : x ≠ "..") (hsize : x.utf8ByteSize ≤ maxName) (hnul : p.hasNul = false)
    (hdir : v.isDirectory dir = .ok true) :
    v.writable p =
      match v.isDirectory p with
      | .ok false =>
        match v.refusals.opens (v.spot p) with
        | some reason => .error (faultAt p (.refused reason))
        | none => .ok (v.spot p)
      | .ok true => .error (faultAt p .isDirectory)
      | .error _ => .error (faultAt p .nameTooLong) := by
  obtain ⟨d, hwalk⟩ := walk_of_isDirectory hdir
  have hnames : p.names = dir.names ++ [x] := by rw [hp]
  have horigin : v.origin p = v.origin dir := by rw [hp]; rfl
  have hplace : placeIn d x = .ok (.named d x) := placeIn_eq_named_iff.2 ⟨hx, hsize, rfl, rfl⟩
  rw [writable, isDirectory, lookup, hnul, if_neg Bool.false_ne_true, if_neg Bool.false_ne_true]
  by_cases hlong : maxPath < p.text.utf8ByteSize
  · rw [resolve_eq v hnames, if_pos hlong]
  · have hresolve : v.resolve p = .ok (.named d x) := by
      rw [resolve_eq v hnames, if_neg hlong, horigin, hwalk]
      exact hplace
    rw [hresolve, resolve_spot hresolve]
    dsimp only [Place.location]
    cases v.node? (d ++ [x]) with
    | none => cases v.refusals.opens (d ++ [x]) <;> rfl
    | some n =>
      cases n with
      | directory => rfl
      | file b => cases v.refusals.opens (d ++ [x]) <;> rfl

/-- **A file in a directory stays as it was**, while directories are kept and its spot is not
touched. -/
lemma lookup_of_later {w : Volume} {dir : Path} {x : String} (hp : p = ⟨dir.root, dir.names ++ [x]⟩)
    (hdir : v.isDirectory dir = .ok true) (hlater : v.Later w)
    (hnode : w.node? (v.spot p) = v.node? (v.spot p)) : w.lookup p = v.lookup p := by
  obtain ⟨d, hwalk⟩ := walk_of_isDirectory hdir
  have hnames : p.names = dir.names ++ [x] := by rw [hp]
  have horigin : v.origin p = v.origin dir := by rw [hp]; rfl
  have hplace : w.resolve p = v.resolve p := by
    rw [resolve_eq w hnames, resolve_eq v hnames, hlater.origin, horigin, hwalk, hlater.walk hwalk]
  rw [lookup, lookup, hplace]
  cases hr : v.resolve p with
  | error e => rfl
  | ok place =>
    rw [resolve_spot hr] at hnode
    dsimp only
    rw [hnode]

end Volume

end ParseBench.Files
