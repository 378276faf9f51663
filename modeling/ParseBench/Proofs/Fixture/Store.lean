import ParseBench.Fixture.Store
import ParseBench.Proofs.Except
import ParseBench.Proofs.Files.Directories

set_option relaxedAutoImplicit false
set_option autoImplicit false

/-!
# Storing an entry

The steps that store an entry make directories, write the hidden file of the entry and move it into
place. Only the last of them touches the entry.

## Main definitions

* `ParseBench.Fixture.hiddenPath` — the path of the hidden file of an entry.
* `ParseBench.Fixture.StoreEnd` — how storing an entry ends.
* `ParseBench.Fixture.Storable` — nothing is in the way of an entry.
* `ParseBench.Fixture.Underway` — a volume on which an entry is being stored and is not yet in
  place.

## Main results

* `ParseBench.Fixture.store_ends` — storing an entry ends in one of these ways.
* `ParseBench.Fixture.store_inv` — all that storing an entry can do.
* `ParseBench.Fixture.store_eq_ok_iff` — when an entry is stored.
* `ParseBench.Fixture.node?_store` — what is where after an entry was stored.
* `ParseBench.Fixture.store_stopped` — what is left when storing an entry is stopped or fails.
-/

namespace ParseBench.Fixture

open ParseBench.Files
open ParseBench.Text (Bytes)

/-! ## Storing without a break -/

/-- Writes the hidden file of an entry and moves it into place. -/
def writeAndMove (v : Volume) (entry hidden : Path) (data : Bytes) :
    List Change × Except StoreFault Unit :=
  match v.write hidden data with
  | (steps, .error fault) => (steps, .error (.access fault))
  | (steps, .ok ()) =>
    match (Change.applyAll v steps).replace hidden entry with
    | .error fault => (steps, .error (.access fault))
    | .ok moved => (steps ++ [moved], .ok ())

/-- Stores an entry without a break: its directory is made, its hidden file is written in one piece,
and then moved into place. The steps taken are given also when a later one fails. -/
def store (v : Volume) (entry : Path) (data : Bytes) : List Change × Except StoreFault Unit :=
  match v.makeDirectories entry.parent with
  | (made, .error fault) => (made, .error (.access fault))
  | (made, .ok ()) =>
    match temporary? entry with
    | none => (made, .error (.noName entry))
    | some hidden =>
      let (steps, result) := writeAndMove (Change.applyAll v made) entry hidden data
      (made ++ steps, result)

/-! ## Hidden files -/

/-- The path of the hidden file of an entry. -/
def hiddenPath (entry : Path) : Path :=
  ⟨entry.root, entry.names.dropLast ++ [temporaryName entry.name]⟩

/-- An entry with a name has a hidden file. -/
lemma temporary?_eq {entry : Path} (h : entry.names ≠ []) :
    temporary? entry = some (hiddenPath entry) := by
  rw [temporary?, Path.withName?, if_neg]
  · rfl
  · simpa using h

/-- An entry without a name has none. -/
lemma temporary?_eq_none {entry : Path} (h : entry.names = []) : temporary? entry = none := by
  rw [temporary?, Path.withName?, h]
  rfl

/-- The name of a path is its last part. -/
lemma name_eq {p : Path} {ns : List String} {x : String} (hp : p.names = ns ++ [x]) :
    p.name = x := by
  rw [Path.name, hp]
  simp

/-- The hidden file of an entry lies beside it. -/
lemma hiddenPath_names {entry : Path} {ns : List String} {x : String}
    (h : entry.names = ns ++ [x]) : (hiddenPath entry).names = ns ++ [temporaryName x] := by
  rw [hiddenPath, name_eq h, h, List.dropLast_concat]

/-- A temporary name is the name with a dot before it and `.tmp` after it. -/
lemma toList_temporaryName (x : String) :
    (temporaryName x).toList = '.' :: (x.toList ++ ['.', 't', 'm', 'p']) := by
  rw [temporaryName, String.toList_append, String.toList_append]
  rfl

/-- A hidden file never has the name of its entry. -/
lemma temporaryName_ne (x : String) : temporaryName x ≠ x := by
  intro h
  have hlen := congrArg (fun s : String => s.toList.length) h
  simp [toList_temporaryName] at hlen
  omega

/-- No temporary name is the name of the parent. -/
lemma temporaryName_ne_dots (x : String) : temporaryName x ≠ ".." := by
  intro h
  have hlen := congrArg (fun s : String => s.toList.length) h
  simp [toList_temporaryName] at hlen

/-- A temporary name determines the name that it is made from. -/
lemma temporaryName_injective {x y : String} (h : temporaryName x = temporaryName y) : x = y := by
  have hlist := congrArg String.toList h
  simp only [toList_temporaryName, List.cons.injEq, true_and] at hlist
  exact String.toList_inj.1 (List.append_cancel_right hlist)

/-- A temporary name is five bytes longer than the name. -/
lemma utf8ByteSize_temporaryName (x : String) :
    (temporaryName x).utf8ByteSize = x.utf8ByteSize + 5 := by
  have h1 : ".".utf8ByteSize = 1 := by decide
  have h4 : ".tmp".utf8ByteSize = 4 := by decide
  rw [temporaryName, String.utf8ByteSize_append, String.utf8ByteSize_append, h1, h4]
  omega

/-- The path of a hidden file is malformed exactly if that of its entry is. -/
lemma hasNul_hiddenPath {entry : Path} {ns : List String} {x : String}
    (hp : entry.names = ns ++ [x]) : (hiddenPath entry).hasNul = entry.hasNul := by
  have hname : (temporaryName x).toList.contains (Char.ofNat 0) =
      x.toList.contains (Char.ofNat 0) := by
    rw [toList_temporaryName]
    simp
  rw [Path.hasNul, Path.hasNul, hiddenPath_names hp, hp, List.any_append, List.any_append,
    List.any_cons, List.any_cons, hname]

/-- The path of an entry is shorter than that of its hidden file. -/
lemma utf8ByteSize_text_hiddenPath {entry : Path} {ns : List String} {x : String}
    (hp : entry.names = ns ++ [x]) :
    (hiddenPath entry).text.utf8ByteSize = entry.text.utf8ByteSize + 5 := by
  have hsize := utf8ByteSize_temporaryName x
  have hroot : (hiddenPath entry).root = entry.root := rfl
  rw [Path.text_eq_of_ne_nil (by rw [hiddenPath_names hp]; simp), hiddenPath_names hp, hroot,
    Path.text_eq_of_ne_nil (by simp [hp]), hp]
  by_cases hns : ns = []
  · subst hns
    simp only [List.nil_append, String.intercalate_singleton, String.utf8ByteSize_append]
    omega
  · rw [String.intercalate_append_of_ne_nil hns (List.cons_ne_nil _ []),
      String.intercalate_append_of_ne_nil hns (List.cons_ne_nil _ [])]
    simp only [String.intercalate_singleton, String.utf8ByteSize_append]
    omega

/-- The operating system takes the path of an entry if it takes that of its hidden file. -/
lemma fits_of_hidden {entry : Path} {ns : List String} {x : String} (hp : entry.names = ns ++ [x])
    (h : (hiddenPath entry).Fits) : entry.Fits where
  nul := (hasNul_hiddenPath hp).symm.trans h.nul
  length := by
    have hlen := h.length
    rw [utf8ByteSize_text_hiddenPath hp] at hlen
    omega
  names := by
    have hnames := h.names
    rw [hiddenPath_names hp] at hnames
    rw [hp]
    intro n hn
    rcases List.mem_append.1 hn with hn | hn
    · exact hnames n (by simp [hn])
    · have hx := hnames (temporaryName x) (by simp)
      rw [utf8ByteSize_temporaryName] at hx
      rw [List.mem_singleton.1 hn]
      omega

/-! ## How storing ends -/

/-- **How storing an entry ends**, and the steps that it takes. -/
inductive StoreEnd (v : Volume) (entry : Path) (data : Bytes) :
    List Change → Except StoreFault Unit → Prop where
  | unmade {made : List Change} {fault : AccessFault}
    (h : v.makeDirectories entry.parent = (made, .error fault)) :
    StoreEnd v entry data made (.error (.access fault))
  | unnamed {made : List Change} (h : v.makeDirectories entry.parent = (made, .ok ()))
    (hnames : entry.names = []) : StoreEnd v entry data made (.error (.noName entry))
  | unwritten {made written : List Change} {fault : AccessFault}
    (h : v.makeDirectories entry.parent = (made, .ok ())) (hnames : entry.names ≠ [])
    (hwrite : (Change.applyAll v made).write (hiddenPath entry) data = (written, .error fault)) :
    StoreEnd v entry data (made ++ written) (.error (.access fault))
  | unmoved {made written : List Change} {fault : AccessFault}
    (h : v.makeDirectories entry.parent = (made, .ok ())) (hnames : entry.names ≠ [])
    (hwrite : (Change.applyAll v made).write (hiddenPath entry) data = (written, .ok ()))
    (hmove : (Change.applyAll (Change.applyAll v made) written).replace (hiddenPath entry) entry =
      .error fault) :
    StoreEnd v entry data (made ++ written) (.error (.access fault))
  | moved {made written : List Change} {moved : Change}
    (h : v.makeDirectories entry.parent = (made, .ok ())) (hnames : entry.names ≠ [])
    (hwrite : (Change.applyAll v made).write (hiddenPath entry) data = (written, .ok ()))
    (hmove : (Change.applyAll (Change.applyAll v made) written).replace (hiddenPath entry) entry =
      .ok moved) :
    StoreEnd v entry data (made ++ (written ++ [moved])) (.ok ())

section Ends

variable {v w : Volume} {entry : Path} {data : Bytes} {steps : List Change}
  {r : Except StoreFault Unit}

/-- **Storing an entry ends** in one of these ways. -/
lemma store_ends (h : store v entry data = (steps, r)) : StoreEnd v entry data steps r := by
  rw [store] at h
  split at h
  · next made fault hmade =>
    cases h
    exact .unmade hmade
  · next made hmade =>
    by_cases hnames : entry.names = []
    · rw [temporary?_eq_none hnames] at h
      cases h
      exact .unnamed hmade hnames
    · rw [temporary?_eq hnames] at h
      dsimp only at h
      rw [writeAndMove] at h
      generalize hwrite : (Change.applyAll v made).write (hiddenPath entry) data = w at h
      obtain ⟨written, result⟩ := w
      cases result with
      | error fault =>
        cases h
        exact .unwritten hmade hnames hwrite
      | ok _ =>
        dsimp only at h
        cases hmove : (Change.applyAll (Change.applyAll v made) written).replace
          (hiddenPath entry) entry with
        | error fault =>
          rw [hmove] at h
          cases h
          exact .unmoved hmade hnames hwrite hmove
        | ok moved =>
          rw [hmove] at h
          cases h
          exact .moved hmade hnames hwrite hmove

/-- Where a hidden file is that can be opened. -/
lemma writable_hidden {l : Location} (hnames : entry.names ≠ [])
    (h : w.writable (hiddenPath entry) = .ok l) :
    ∃ ns x d, entry.names = ns ++ [x] ∧ (hiddenPath entry).hasNul = false ∧
      w.resolve (hiddenPath entry) = .ok (.named d (temporaryName x)) ∧
      l = d ++ [temporaryName x] ∧ w.node? (d ++ [temporaryName x]) ≠ some .directory ∧
      w.refusals.opens (d ++ [temporaryName x]) = none := by
  obtain ⟨ns, x, hp⟩ := (List.eq_nil_or_concat' entry.names).resolve_left hnames
  obtain ⟨hnul, d, y, hr, rfl, hdir, hopens⟩ := Volume.writable_eq_ok_iff.1 h
  obtain rfl : y = temporaryName x := by
    obtain ⟨ns', hns', -⟩ := Volume.resolve_eq_named_iff.1 hr
    rw [hiddenPath_names hp] at hns'
    simpa using (List.append_inj' hns' rfl).2.symm
  exact ⟨ns, x, d, hp, hnul, hr, rfl, hdir, hopens⟩

/-- The entry is in the directory of its hidden file: the walks to both are the same, and the path
of the entry is shorter. -/
lemma resolve_of_hidden {ns : List String} {x : String} {d : Location}
    (hp : entry.names = ns ++ [x])
    (hr : w.resolve (hiddenPath entry) = .ok (.named d (temporaryName x))) :
    w.resolve entry = Volume.placeIn d x ∧ x.utf8ByteSize ≤ maxName := by
  obtain ⟨ns', hns', hlength, hwalk, -, hsize⟩ := Volume.resolve_eq_named_iff.1 hr
  rw [hiddenPath_names hp] at hns'
  obtain ⟨rfl, -⟩ := List.append_inj' hns' rfl
  rw [utf8ByteSize_text_hiddenPath hp] at hlength
  rw [utf8ByteSize_temporaryName] at hsize
  have horigin : w.origin entry = w.origin (hiddenPath entry) := rfl
  constructor
  · rw [Volume.resolve_eq w hp, if_neg (by omega), horigin, hwalk]
  · omega

end Ends

/-! ## All that storing can do -/

/-- **All that storing an entry can do.** Directories are made where nothing was. If that succeeds,
the hidden file is opened in the directory `d` of the entry and the data are written, perhaps not
all of them; and if nothing else is in the way and nothing is refused, it is moved into place.

**Proof sketch.** The hidden file and the entry are found by the same walk, since they differ in
their last names only, and writing the first does not change where the second is. -/
lemma store_inv {v : Volume} (hv : v.WellFormed) {entry : Path} {data : Bytes} {steps : List Change}
    {r : Except StoreFault Unit} (h : store v entry data = (steps, r)) :
    ∃ made, made = (v.makeDirectories entry.parent).1 ∧ Made v made ∧
      ((steps = made ∧ ∃ e, r = .error e) ∨
        (v.makeDirectories entry.parent).2 = .ok () ∧
        ∃ ns x d, entry.names = ns ++ [x] ∧ (hiddenPath entry).hasNul = false ∧
          (Change.applyAll v made).resolve (hiddenPath entry) = .ok (.named d (temporaryName x)) ∧
          (Change.applyAll v made).node? (d ++ [temporaryName x]) ≠ some .directory ∧
          v.refusals.opens (d ++ [temporaryName x]) = none ∧
          ((∃ n, steps = made ++ [.write (d ++ [temporaryName x]) (data.take n)] ∧
              ∃ e, r = .error e) ∨
            steps = made ++ [.write (d ++ [temporaryName x]) data,
              .move (d ++ [temporaryName x]) (d ++ [x])] ∧ r = .ok () ∧
            (Change.applyAll v made).resolve entry = .ok (.named d x) ∧
            (Change.applyAll v made).node? (d ++ [x]) ≠ some .directory ∧
            v.Takes (d ++ [temporaryName x]) data ∧
            v.refusals.moves (d ++ [temporaryName x]) (d ++ [x]) = none)) := by
  have hmade := Volume.makeDirectories_made hv entry.parent
  have hends := store_ends h
  cases hends with
  | unmade hparent =>
    rw [hparent] at hmade ⊢
    exact ⟨steps, rfl, hmade, .inl ⟨rfl, _, rfl⟩⟩
  | unnamed hparent =>
    rw [hparent] at hmade ⊢
    exact ⟨steps, rfl, hmade, .inl ⟨rfl, _, rfl⟩⟩
  | @unwritten made written fault hparent hnames hwrite =>
    rw [hparent] at hmade ⊢
    rcases Volume.write_cases (Change.applyAll v made) (hiddenPath entry) data with
      ⟨fault', -, heq⟩ | ⟨l, hwritable, ⟨-, heq⟩ | ⟨most, reason, -, -, heq⟩⟩
    · cases heq.symm.trans hwrite
      rw [List.append_nil]
      exact ⟨made, rfl, hmade, .inl ⟨rfl, _, rfl⟩⟩
    · cases heq.symm.trans hwrite
    · cases heq.symm.trans hwrite
      obtain ⟨ns, x, d, hp, hnul, hr, rfl, hdir, hopens⟩ := writable_hidden hnames hwritable
      rw [Change.applyAll_refusals] at hopens
      exact ⟨made, rfl, hmade, .inr ⟨rfl, ns, x, d, hp, hnul, hr, hdir, hopens,
        .inl ⟨most, rfl, _, rfl⟩⟩⟩
  | @unmoved made _ _ hparent hnames hwrite =>
    rw [hparent] at hmade ⊢
    obtain ⟨l, hwritable, -, rfl⟩ := Volume.write_eq_ok_iff.1 hwrite
    obtain ⟨ns, x, d, hp, hnul, hr, rfl, hdir, hopens⟩ := writable_hidden hnames hwritable
    rw [Change.applyAll_refusals] at hopens
    exact ⟨made, rfl, hmade, .inr ⟨rfl, ns, x, d, hp, hnul, hr, hdir, hopens,
      .inl ⟨data.length, by rw [List.take_length], _, rfl⟩⟩⟩
  | @moved made _ _ hparent hnames hwrite hmove =>
    rw [hparent] at hmade ⊢
    obtain ⟨l, hwritable, htakes, rfl⟩ := Volume.write_eq_ok_iff.1 hwrite
    obtain ⟨ns, x, d, hp, hnul, hr, rfl, hdir, hopens⟩ := writable_hidden hnames hwritable
    rw [Change.applyAll_refusals] at hopens
    -- the hidden file is written, and the walk to the entry is the same as before
    have hd := (hmade.legal.wellFormed hv).resolve_named hr
    have hlegal : (Change.write (d ++ [temporaryName x]) data).Legal (Change.applyAll v made) :=
      ⟨hdir, by rw [List.dropLast_concat]; exact hd⟩
    obtain ⟨-, -, e, z, d', y, hs, ht, -, hmoves, htdir, rfl⟩ := Volume.replace_eq_ok_iff.1 hmove
    rw [Change.applyAll_cons, Change.applyAll_nil] at hs ht htdir
    rw [hlegal.later.resolve hr] at hs
    cases hs
    rw [(resolve_of_hidden hp (hlegal.later.resolve hr)).1] at ht
    obtain ⟨hx, hsize, rfl, rfl⟩ := Volume.placeIn_eq_named_iff.1 ht
    have hentry : (Change.applyAll v made).resolve entry = .ok (.named d' y) := by
      rw [(resolve_of_hidden hp hr).1]
      exact Volume.placeIn_eq_named_iff.2 ⟨hx, hsize, rfl, rfl⟩
    rw [Change.applyAll_refusals, Change.applyAll_refusals] at hmoves
    have htakes' : v.Takes (d' ++ [temporaryName y]) data := by
      rw [Volume.Takes, Change.applyAll_refusals] at htakes
      exact htakes
    refine ⟨made, rfl, hmade, .inr ⟨rfl, ns, y, d', hp, hnul, hr, hdir, hopens,
      .inr ⟨rfl, rfl, hentry, fun hnode => ?_, htakes', hmoves⟩⟩⟩
    exact htdir (hlegal.later.directory _ hnode)

/-- Storing an entry takes legal steps. -/
lemma store_legal {v : Volume} (hv : v.WellFormed) {entry : Path} {data : Bytes}
    {steps : List Change} {r : Except StoreFault Unit} (h : store v entry data = (steps, r)) :
    Change.LegalAll v steps := by
  obtain ⟨made, -, hmade, ⟨rfl, -⟩ | ⟨-, ns, x, d, -, -, hr, hdir, -, hcases⟩⟩ := store_inv hv h
  · exact hmade.legal
  · have hd := (hmade.legal.wellFormed hv).resolve_named hr
    have hwrite : ∀ b, (Change.write (d ++ [temporaryName x]) b).Legal (Change.applyAll v made) :=
      fun b => ⟨hdir, by rw [List.dropLast_concat]; exact hd⟩
    rcases hcases with ⟨n, rfl, -⟩ | ⟨rfl, -, -, hxdir, -⟩
    · exact Change.legalAll_append.2 ⟨hmade.legal, hwrite _, trivial⟩
    · refine Change.legalAll_append.2 ⟨hmade.legal, hwrite _, ⟨⟨data, ?_⟩, ?_, ?_⟩, trivial⟩
      · rw [Change.node?_write _ (by simp), if_pos rfl]
      · rw [Change.node?_write _ (by simp), if_neg]
        · exact hxdir
        · intro heq
          exact temporaryName_ne x (by simpa using heq.symm)
      · rw [List.dropLast_concat]
        exact (hwrite data).later.directory _ hd

/-- **Where an entry is that was stored**, and what is where otherwise. -/
lemma store_ok {v : Volume} (hv : v.WellFormed) {entry : Path} {data : Bytes} {steps : List Change}
    (h : store v entry data = (steps, .ok ())) :
    ∃ made, made = (v.makeDirectories entry.parent).1 ∧
      (v.makeDirectories entry.parent).2 = .ok () ∧
      Made v made ∧ ∃ ns x d, entry.names = ns ++ [x] ∧ entry.hasNul = false ∧
        (Change.applyAll v steps).resolve entry = .ok (.named d x) ∧
        ∀ l, (Change.applyAll v steps).node? l =
          if l = d ++ [x] then some (.file data)
          else if l = d ++ [temporaryName x] then none else (Change.applyAll v made).node? l := by
  have hlegal := store_legal hv h
  obtain ⟨made, hmd, hmade, ⟨-, e, he⟩ | ⟨hok, ns, x, d, hp, hnul, -, -, -,
    ⟨n, -, e, he⟩ | hlast⟩⟩ := store_inv hv h
  · cases he
  · cases he
  · obtain ⟨rfl, -, hr, -⟩ := hlast
    refine ⟨made, hmd, hok, hmade, ns, x, d, hp,
      (hasNul_hiddenPath hp).symm.trans hnul, ?_, fun l => ?_⟩
    · rw [Change.applyAll_append]
      exact (Change.legalAll_append.1 hlegal).2.later.resolve hr
    · have hhidden : ((Change.write (d ++ [temporaryName x]) data).apply
          (Change.applyAll v made)).node? (d ++ [temporaryName x]) = some (.file data) := by
        rw [Change.node?_write _ (by simp), if_pos rfl]
      rw [Change.applyAll_append, Change.applyAll_cons, Change.applyAll_cons, Change.applyAll_nil,
        Change.node?_move _ hhidden (by simp), Change.node?_write _ (by simp)]
      split_ifs <;> rfl

/-! ## Entries in a directory without names of two dots -/

section Plain

variable {v : Volume} {entry : Path} {data : Bytes} {steps : List Change}
  {r : Except StoreFault Unit}

/-- The hidden file lies in the directory of the entry. -/
lemma locate_hiddenPath (v : Volume) (entry : Path) :
    v.locate (hiddenPath entry) = v.locate entry.parent ++ [temporaryName entry.name] := by
  rw [Volume.locate, Volume.locate, List.append_assoc]
  rfl

/-- An entry lies in its directory, under its name. -/
lemma locate_entry (v : Volume) {entry : Path} (h : entry.names ≠ []) :
    v.locate entry = v.locate entry.parent ++ [entry.name] := by
  obtain ⟨ns, x, hp⟩ := (List.eq_nil_or_concat' entry.names).resolve_left h
  rw [Volume.locate_parent v hp, name_eq hp]

/-- An entry and its hidden file lie in different places. -/
lemma locate_hiddenPath_ne (v : Volume) {entry : Path} (h : entry.names ≠ []) :
    v.locate entry ≠ v.locate (hiddenPath entry) := by
  rw [locate_entry v h, locate_hiddenPath]
  intro heq
  exact temporaryName_ne entry.name (by simpa using heq.symm)

/-- What is in a directory is not on the way to it. -/
lemma concat_not_above (l : Location) (x : String) : ¬ l ++ [x] <+: l := by
  intro h
  have hlen := h.length_le
  rw [List.length_append, List.length_singleton] at hlen
  omega

/-- The path of a hidden file goes up nowhere if that of its directory does not. -/
lemma hiddenPath_dots (hdots : ".." ∉ entry.parent.names) :
    ".." ∉ (hiddenPath entry).names := by
  intro h
  rcases List.mem_append.1 h with h | h
  · exact hdots h
  · exact temporaryName_ne_dots _ (List.mem_singleton.1 h).symm

/-- Where the hidden file of an entry is, if it can be found. -/
lemma resolve_hiddenPath {w : Volume} (hw : w.WellFormed) (hdots : ".." ∉ entry.parent.names)
    (hnul : (hiddenPath entry).hasNul = false) {d : Location} {y : String} :
    w.resolve (hiddenPath entry) = .ok (.named d y) ↔ (hiddenPath entry).Fits ∧
      d = w.locate entry.parent ∧ y = temporaryName entry.name ∧
      w.node? (w.locate entry.parent) = some .directory :=
  Volume.resolve_eq_named_iff_locate hw rfl (hiddenPath_dots hdots) hnul

/-- When the hidden file of an entry can be opened. -/
lemma writable_hiddenPath_iff {w : Volume} (hw : w.WellFormed) (hdots : ".." ∉ entry.parent.names)
    {l : Location} :
    w.writable (hiddenPath entry) = .ok l ↔ (hiddenPath entry).Fits ∧
      w.node? (w.locate entry.parent) = some .directory ∧
      w.node? (w.locate (hiddenPath entry)) ≠ some .directory ∧
      w.refusals.opens (w.locate (hiddenPath entry)) = none ∧ l = w.locate (hiddenPath entry) := by
  rw [Volume.writable_eq_ok_iff, locate_hiddenPath]
  constructor
  · rintro ⟨hnul, d, x, hr, rfl, hdir, hopens⟩
    obtain ⟨hfits, rfl, rfl, hd⟩ := (resolve_hiddenPath hw hdots hnul).1 hr
    exact ⟨hfits, hd, hdir, hopens, rfl⟩
  · rintro ⟨hfits, hd, hdir, hopens, rfl⟩
    exact ⟨hfits.nul, _, _, (resolve_hiddenPath hw hdots hfits.nul).2 ⟨hfits, rfl, rfl, hd⟩, rfl,
      hdir, hopens⟩

/-- When the hidden file of an entry can be moved into place. -/
lemma replace_hiddenPath_iff {w : Volume} (hw : w.WellFormed) (hdots : ".." ∉ entry.parent.names)
    (hnames : entry.names ≠ []) {change : Change} :
    w.replace (hiddenPath entry) entry = .ok change ↔
      ((hiddenPath entry).Fits ∧ entry.name ≠ ".." ∧
        w.node? (w.locate entry.parent) = some .directory) ∧
      (∃ b, w.node? (w.locate (hiddenPath entry)) = some (.file b)) ∧
      w.refusals.moves (w.locate (hiddenPath entry)) (w.locate entry) = none ∧
      w.node? (w.locate entry) ≠ some .directory ∧
      change = .move (w.locate (hiddenPath entry)) (w.locate entry) := by
  obtain ⟨ns, x, hp⟩ := (List.eq_nil_or_concat' entry.names).resolve_left hnames
  rw [Volume.replace_eq_ok_iff, locate_hiddenPath, locate_entry w hnames]
  constructor
  · rintro ⟨hnul, -, d, y, d', y', hr, hr', hfile, hmoves, hdir, rfl⟩
    obtain ⟨hfits, rfl, rfl, hd⟩ := (resolve_hiddenPath hw hdots hnul).1 hr
    rw [name_eq hp] at hr
    rw [(resolve_of_hidden hp hr).1] at hr'
    obtain ⟨hx, -, rfl, rfl⟩ := Volume.placeIn_eq_named_iff.1 hr'
    rw [name_eq hp] at hfile hmoves ⊢
    exact ⟨⟨hfits, hx, hd⟩, hfile, hmoves, hdir, rfl⟩
  · rintro ⟨⟨hfits, hx, hd⟩, hfile, hmoves, hdir, rfl⟩
    have hfits' := fits_of_hidden hp hfits
    have hr := (resolve_hiddenPath hw hdots hfits.nul).2 ⟨hfits, rfl, rfl, hd⟩
    have hr' : w.resolve entry = .ok (.named (w.locate entry.parent) entry.name) := by
      have hhidden := hr
      rw [name_eq hp] at hhidden hx ⊢
      rw [(resolve_of_hidden hp hhidden).1]
      exact Volume.placeIn_eq_named_iff.2 ⟨hx, (resolve_of_hidden hp hhidden).2, rfl, rfl⟩
    exact ⟨hfits.nul, hfits'.nul, _, _, _, _, hr, hr', hfile, hmoves, hdir, rfl⟩

/-- The hidden file of an entry may be opened, it takes the data, and it may be moved into place. -/
structure Permitted (v : Volume) (entry : Path) (data : Bytes) : Prop where
  opens : v.refusals.opens (v.locate (hiddenPath entry)) = none
  takes : v.Takes (v.locate (hiddenPath entry)) data
  moves : v.refusals.moves (v.locate (hiddenPath entry)) (v.locate entry) = none

/-- What is permitted does not depend on what is on the volume. -/
lemma Permitted.of_refusals {w : Volume} (h : Permitted v entry data)
    (hcurrent : w.current = v.current) (hrefusals : w.refusals = v.refusals) :
    Permitted w entry data := by
  have hlocate := Volume.locate_eq_of_current hcurrent
  refine ⟨?_, ?_, ?_⟩
  · rw [hrefusals, hlocate]
    exact h.opens
  · rw [Volume.Takes, hrefusals, hlocate]
    exact h.takes
  · rw [hrefusals, hlocate, hlocate]
    exact h.moves

/-- Nothing is in the way of an entry with these data: its directory is there or can be made, no
directory is in its place or in that of its hidden file, and nothing is refused. -/
structure Storable (v : Volume) (entry : Path) (data : Bytes) : Prop where
  names : entry.names ≠ []
  dots : entry.name ≠ ".."
  fits : (hiddenPath entry).Fits
  free : ∀ l, l <+: v.locate entry.parent → ∀ b, v.node? l ≠ some (.file b)
  allowed : ∀ l, l <+: v.locate entry.parent → v.node? l = none → v.refusals.makes l = none
  hidden : v.node? (v.locate (hiddenPath entry)) ≠ some .directory
  permitted : Permitted v entry data
  entry : v.node? (v.locate entry) ≠ some .directory

/-- Nothing is in the way of the directory of an entry if nothing is in the way of the entry. -/
lemma Storable.open (h : Storable v entry data) : v.Open entry.parent := by
  have hparent : (hiddenPath entry).parent = entry.parent := by
    rw [Path.parent, hiddenPath, List.dropLast_concat]
    rfl
  exact ⟨hparent ▸ h.fits.parent, h.free, h.allowed⟩

/-- The directory of an entry and what is in it, once the directory is made. -/
lemma node?_made (hv : v.WellFormed) (hdots : ".." ∉ entry.parent.names)
    (hok : (v.makeDirectories entry.parent).2 = .ok ()) (x : String) :
    (Change.applyAll v (v.makeDirectories entry.parent).1).node? (v.locate entry.parent ++ [x]) =
      v.node? (v.locate entry.parent ++ [x]) := by
  rw [Volume.node?_makeDirectories hv hdots hok, if_neg (concat_not_above _ _)]

/-- Nothing comes in the way of an entry when its directory is made. -/
lemma Storable.of_made (hv : v.WellFormed) (hdots : ".." ∉ entry.parent.names)
    (hok : (v.makeDirectories entry.parent).2 = .ok ()) (h : Storable v entry data) :
    Storable (Change.applyAll v (v.makeDirectories entry.parent).1) entry data := by
  have hmade := Volume.makeDirectories_made hv entry.parent
  have hlocate := hmade.legal.later.locate
  have hsame := node?_made hv hdots hok
  have hopen := h.open.of_made hmade
  refine ⟨h.names, h.dots, h.fits, hopen.free, hopen.allowed, ?_,
    h.permitted.of_refusals (Change.applyAll_current v _) (Change.applyAll_refusals v _), ?_⟩
  · rw [hlocate, locate_hiddenPath, hsame, ← locate_hiddenPath]
    exact h.hidden
  · rw [hlocate, locate_entry v h.names, hsame, ← locate_entry v h.names]
    exact h.entry

/-- In a directory that is there the hidden file of an entry can be opened. -/
lemma Storable.writable (hv : v.WellFormed) (hdots : ".." ∉ entry.parent.names)
    (h : Storable v entry data) (hd : v.node? (v.locate entry.parent) = some .directory) :
    v.writable (hiddenPath entry) = .ok (v.locate (hiddenPath entry)) :=
  (writable_hiddenPath_iff hv hdots).2 ⟨h.fits, hd, h.hidden, h.permitted.opens, rfl⟩

/-- In a directory that is there a hidden file that has been written can be moved into place. -/
lemma Storable.replace (hv : v.WellFormed) (hdots : ".." ∉ entry.parent.names)
    (h : Storable v entry data) (hd : v.node? (v.locate entry.parent) = some .directory) {b : Bytes}
    (hwritten : v.node? (v.locate (hiddenPath entry)) = some (.file b)) :
    v.replace (hiddenPath entry) entry =
      .ok (.move (v.locate (hiddenPath entry)) (v.locate entry)) :=
  (replace_hiddenPath_iff hv hdots h.names).2
    ⟨⟨h.fits, h.dots, hd⟩, ⟨b, hwritten⟩, h.permitted.moves, h.entry, rfl⟩

/-- Nothing comes in the way of an entry when its hidden file is written. -/
lemma Storable.of_write (h : Storable v entry data) (b : Bytes) :
    Storable ((Change.write (v.locate (hiddenPath entry)) b).apply v) entry data := by
  have hne : v.locate (hiddenPath entry) ≠ [] := by
    rw [locate_hiddenPath]
    simp
  have hnode := Change.node?_write v hne b
  have hlocate : ∀ p, ((Change.write (v.locate (hiddenPath entry)) b).apply v).locate p =
      v.locate p := Volume.locate_eq_of_current rfl
  have habove : ∀ l, l <+: v.locate entry.parent →
      ((Change.write (v.locate (hiddenPath entry)) b).apply v).node? l = v.node? l := by
    intro l hl
    rw [hnode, if_neg]
    rintro rfl
    rw [locate_hiddenPath] at hl
    exact concat_not_above _ _ hl
  refine ⟨h.names, h.dots, h.fits, ?_, ?_, ?_, h.permitted.of_refusals rfl rfl, ?_⟩
  · intro l hl
    rw [hlocate] at hl
    rw [habove l hl]
    exact h.free l hl
  · intro l hl
    rw [hlocate] at hl
    rw [habove l hl]
    exact h.allowed l hl
  · rw [hlocate, hnode, if_pos rfl]
    simp
  · rw [hlocate, hnode, if_neg (locate_hiddenPath_ne v h.names)]
    exact h.entry

/-- In a directory that is there an entry is written and moved into its place. -/
lemma writeAndMove_of_storable (hv : v.WellFormed) (hdots : ".." ∉ entry.parent.names)
    (h : Storable v entry data) (hd : v.node? (v.locate entry.parent) = some .directory) :
    (writeAndMove v entry (hiddenPath entry) data).2 = .ok () := by
  have hwrite := Volume.write_eq_ok_iff.2 ⟨_, h.writable hv hdots hd, h.permitted.takes, rfl⟩
  have hlegal : (Change.write (v.locate (hiddenPath entry)) data).Legal v := by
    refine ⟨h.hidden, ?_⟩
    rw [locate_hiddenPath, List.dropLast_concat]
    exact hd
  have hlocate := hlegal.later.locate
  have hwritten : ((Change.write (v.locate (hiddenPath entry)) data).apply v).node?
      (v.locate (hiddenPath entry)) = some (.file data) := by
    rw [Change.node?_write, if_pos rfl]
    rw [locate_hiddenPath]
    simp
  have hreplace := (h.of_write data).replace (hlegal.wellFormed hv) hdots
    (by rw [hlocate]; exact hlegal.later.directory _ hd) (by rw [hlocate]; exact hwritten)
  rw [writeAndMove, hwrite]
  simp only [Change.applyAll_cons, Change.applyAll_nil, hreplace]

/-- An entry is stored if nothing is in its way.

**Proof sketch.** The directory of the entry is made, and nothing comes in the way of the entry by
that. In the directory the entry is written and moved into its place. -/
lemma store_of_storable (hv : v.WellFormed) (hdots : ".." ∉ entry.parent.names)
    (h : Storable v entry data) : (store v entry data).2 = .ok () := by
  have hok := (Volume.makeDirectories_eq_ok_iff hv hdots).2 h.open
  have hlegal := (Volume.makeDirectories_made hv entry.parent).legal
  have hd := Volume.makeDirectories_directory hv hdots hok (List.prefix_refl _)
  have hstorable := h.of_made hv hdots hok
  rw [store]
  generalize v.makeDirectories entry.parent = md at *
  obtain ⟨made, result⟩ := md
  obtain rfl : result = .ok () := hok
  rw [temporary?_eq h.names]
  refine writeAndMove_of_storable (hlegal.wellFormed hv) hdots hstorable ?_
  rw [hlegal.later.locate]
  exact hd

/-- **When an entry is stored**: exactly if nothing is in its way. -/
lemma store_eq_ok_iff (hv : v.WellFormed) (hdots : ".." ∉ entry.parent.names) :
    (store v entry data).2 = .ok () ↔ Storable v entry data := by
  refine ⟨fun h => ?_, store_of_storable hv hdots⟩
  generalize hs : store v entry data = s at h
  obtain ⟨steps, r⟩ := s
  obtain rfl : r = .ok () := h
  obtain ⟨made, rfl, hmade, ⟨-, e, he⟩ | ⟨hok, ns, x, d, hp, hnul, hr, hdir, hopens,
    ⟨n, -, e, he⟩ | hlast⟩⟩ := store_inv hv hs
  · cases he
  · cases he
  · obtain ⟨-, -, hr', hdir', htakes, hmoves⟩ := hlast
    have hne : entry.names ≠ [] := by simp [hp]
    obtain ⟨hfits, rfl, -, -⟩ := (resolve_hiddenPath (hmade.legal.wellFormed hv) hdots hnul).1 hr
    rw [hmade.legal.later.locate] at hopens htakes hmoves
    rw [hmade.legal.later.locate, node?_made hv hdots hok] at hdir hdir'
    obtain ⟨-, -, -, -, hx, -⟩ := Volume.resolve_eq_named_iff.1 hr'
    have hopen := (Volume.makeDirectories_eq_ok_iff hv hdots).1 hok
    have hhidden : v.locate (hiddenPath entry) = v.locate entry.parent ++ [temporaryName x] := by
      rw [locate_hiddenPath, name_eq hp]
    have hentry : v.locate entry = v.locate entry.parent ++ [x] := by
      rw [locate_entry v hne, name_eq hp]
    rw [← hhidden] at hdir hopens htakes hmoves
    rw [← hentry] at hdir' hmoves
    exact ⟨hne, by rw [name_eq hp]; exact hx, hfits, hopen.free, hopen.allowed, hdir,
      ⟨hopens, htakes, hmoves⟩, hdir'⟩

/-- **What is where after an entry was stored**: the entry in its place, nothing in that of its
hidden file, directories above them, and all else as it was. -/
lemma node?_store (hv : v.WellFormed) (hdots : ".." ∉ entry.parent.names)
    (h : store v entry data = (steps, .ok ())) (l : Location) :
    (Change.applyAll v steps).node? l =
      if l = v.locate entry then some (.file data)
      else if l = v.locate (hiddenPath entry) then none
      else if l <+: v.locate entry.parent then some .directory
      else v.node? l := by
  obtain ⟨made, rfl, hok, -, ns, x, d, hp, hnul, hr, hnode⟩ := store_ok hv h
  have hlegal := store_legal hv h
  have hx : x ≠ ".." := by
    obtain ⟨_, -, -, -, hx, -⟩ := Volume.resolve_eq_named_iff.1 hr
    exact hx
  have hnames : ".." ∉ entry.names := by
    rw [hp, List.mem_append, List.mem_singleton]
    rintro (hns | rfl)
    · exact hdots (by rwa [Path.parent_names hp])
    · exact hx rfl
  obtain ⟨-, rfl, -, -⟩ :=
    (Volume.resolve_eq_named_iff_locate (hlegal.wellFormed hv) hp hnames hnul).1 hr
  have hdirectory : (Change.applyAll v steps).origin entry ++ ns = v.locate entry.parent := by
    rw [hlegal.later.origin, Volume.locate, Path.parent_names hp]
    rfl
  have hne : entry.names ≠ [] := by simp [hp]
  rw [hnode, hdirectory, locate_entry v hne, locate_hiddenPath, name_eq hp,
    Volume.node?_makeDirectories hv hdots hok]

/-- On `u` an entry is being stored that is not there on `v` yet: above all, directories are made,
and what is in the place of the hidden file may be anything but a new directory. -/
structure Underway (v u : Volume) (entry : Path) : Prop where
  current : u.current = v.current
  refusals : u.refusals = v.refusals
  elsewhere : ∀ l, entry.names = [] ∨ l ≠ v.locate (hiddenPath entry) → u.node? l = v.node? l ∨
    l <+: v.locate entry.parent ∧ v.node? l = none ∧ u.node? l = some .directory
  hidden : v.node? (v.locate (hiddenPath entry)) ≠ some .directory →
    u.node? (v.locate (hiddenPath entry)) ≠ some .directory

/-- While the directory of an entry is made, the entry is being stored. -/
lemma underway_of_made (hv : v.WellFormed) (hdots : ".." ∉ entry.parent.names) {first : List Change}
    (hfirst : Made v first) (hsub : first ⊆ (v.makeDirectories entry.parent).1) :
    Underway v (Change.applyAll v first) entry := by
  have above : ∀ {l}, .makeDirectory l ∈ first → l <+: v.locate entry.parent :=
    fun hl => Volume.makeDirectories_onWay hv hdots (hsub hl)
  refine ⟨Change.applyAll_current v first, Change.applyAll_refusals v first, fun l _ => ?_,
    fun h => ?_⟩
  · rw [hfirst.node?_applyAll]
    split
    · next hl => exact .inr ⟨above hl, hfirst.node?_eq_none hl, rfl⟩
    · exact .inl rfl
  · rw [hfirst.node?_applyAll, if_neg]
    · exact h
    · intro hl
      have hpre := above hl
      rw [locate_hiddenPath] at hpre
      exact concat_not_above _ _ hpre

/-- While the hidden file of an entry is written, the entry is being stored. -/
lemma Underway.write {u : Volume} (h : Underway v u entry) (hnames : entry.names ≠ []) (b : Bytes) :
    Underway v ((Change.write (v.locate (hiddenPath entry)) b).apply u) entry := by
  have hne : v.locate (hiddenPath entry) ≠ [] := by
    rw [locate_hiddenPath]
    simp
  refine ⟨h.current, h.refusals, fun l hl => ?_, fun _ => ?_⟩
  · rw [Change.node?_write _ hne, if_neg (hl.resolve_left hnames)]
    exact h.elsewhere l hl
  · rw [Change.node?_write _ hne, if_pos rfl]
    simp

/-- **What is left when storing an entry is stopped**: either the entry is being stored, or it is in
its place and nothing remains to be done.

**Proof sketch.** The steps are directories, the hidden file and the move. Up to the move the entry
is being stored (`underway_of_made`, `Underway.write`), also if the hidden file is written in
part. -/
lemma store_stopped (hv : v.WellFormed) (hdots : ".." ∉ entry.parent.names)
    (h : store v entry data = (steps, r)) {u : Volume} (hu : Stopped v steps u) :
    Underway v u entry ∨ r = .ok () ∧ u = Change.applyAll v steps := by
  obtain ⟨made, rfl, hmade, hcases⟩ := store_inv hv h
  have making : ∀ {w}, Stopped v (v.makeDirectories entry.parent).1 w → Underway v w entry := by
    intro w hw
    obtain ⟨first, hfirst, hsub, rfl⟩ := hmade.of_stopped hw
    exact underway_of_made hv hdots hfirst hsub
  rcases hcases with ⟨rfl, -⟩ | ⟨-, ns, x, d, hp, hnul, hr, -, -, hcases⟩
  · exact .inl (making hu)
  · have hne : entry.names ≠ [] := by simp [hp]
    obtain ⟨-, rfl, -, -⟩ := (resolve_hiddenPath (hmade.legal.wellFormed hv) hdots hnul).1 hr
    have hhidden : v.locate entry.parent ++ [temporaryName x] = v.locate (hiddenPath entry) := by
      rw [locate_hiddenPath, name_eq hp]
    simp only [hmade.legal.later.locate, hhidden] at hcases
    have hall := making (Stopped.all v _)
    rcases hcases with ⟨n, rfl, -⟩ | ⟨rfl, rfl, -⟩
    · rcases Stopped.append_iff.1 hu with hu | hu
      · exact .inl (making hu)
      · cases hu with
        | here => exact .inl hall
        | torn _ _ k _ => exact .inl (hall.write hne _)
        | step hu =>
          rw [Stopped.nil_iff.1 hu]
          exact .inl (hall.write hne _)
    · rcases Stopped.append_iff.1 hu with hu | hu
      · exact .inl (making hu)
      · cases hu with
        | here => exact .inl hall
        | torn _ _ k _ => exact .inl (hall.write hne _)
        | step hu =>
          cases hu with
          | here => exact .inl (hall.write hne _)
          | step hu =>
            rw [Stopped.nil_iff.1 hu]
            exact .inr ⟨rfl, by rw [Change.applyAll_append]; rfl⟩

end Plain

end ParseBench.Fixture
