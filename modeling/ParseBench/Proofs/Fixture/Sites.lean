import ParseBench.Proofs.Files.Faults
import ParseBench.Proofs.Fixture.Attempts
import ParseBench.Proofs.Fixture.Job

set_option relaxedAutoImplicit false
set_option autoImplicit false

/-!
# Where workers write

On every volume, for every path of the cache and whatever other workers do, the worker of an entry
makes directories above the entry, writes its hidden file and moves it to the entry, each where its
path leads. Its steps are legal, because the place of an open hidden file never becomes a directory,
and if one of them fails there is a reason for it in the path of the entry or on the volume. As long
as entries are in different places, what a worker has written stays there.

## Main definitions

* `ParseBench.Fixture.Proper` — entries that can name a file.
* `ParseBench.Fixture.Seated` — entries in the directory of the cache, and this directory.
* `ParseBench.Fixture.Work` — a change that the worker of an entry makes.
* `ParseBench.Fixture.Unstored` — why an entry cannot be stored.
* `ParseBench.Fixture.Job.Sited` — what a worker knows of any volume.
* `ParseBench.Fixture.Spared`, `ParseBench.Fixture.Distant` — places where a worker does not write.
* `ParseBench.Fixture.Job.Leaves` — what a worker has left on the volume.

## Main results

* `ParseBench.Fixture.Job.Sited.step`, `ParseBench.Fixture.Job.Sited.frame` — what one step of a
  worker does, and what it leaves to other workers.
* `ParseBench.Fixture.Job.Leaves.step`, `ParseBench.Fixture.Job.Leaves.frame` — the same for what a
  worker leaves.
* `ParseBench.Fixture.read_of_work` — what can be read elsewhere can still be read.
-/

namespace ParseBench

namespace Files.Change

variable {v : Volume} {l : Location}

/-- A file stays where nothing but directories are made. -/
lemma LegalAll.node?_of_file {changes : List Change} {content : Text.Bytes}
    (h : LegalAll v changes) (hfile : v.node? l = some (.file content))
    (hl : ∀ ch ∈ changes, (∀ m, ch ≠ .makeDirectory m) → l ∉ ch.places) :
    (applyAll v changes).node? l = some (.file content) := by
  induction changes generalizing v with
  | nil => exact hfile
  | cons ch rest ih =>
    rw [List.forall_mem_cons] at hl
    refine ih h.2 ?_ hl.2
    by_cases hplace : l ∈ ch.places
    · have hmake : ∃ m, ch = .makeDirectory m := by
        by_contra hnot
        exact hl.1 (fun m hm => hnot ⟨m, hm⟩) hplace
      obtain ⟨m, rfl⟩ := hmake
      obtain rfl : l = m := List.mem_singleton.1 hplace
      rw [h.1.1] at hfile
      cases hfile
    · rw [h.1.node?_of_notMem hplace, hfile]

/-- Where a directory is made nothing was, unless a file was moved away from there. -/
lemma LegalAll.node?_eq_none {changes : List Change} (h : LegalAll v changes)
    (hmade : .makeDirectory l ∈ changes)
    (hstays : ∀ source target, .move source target ∈ changes → source ≠ l) : v.node? l = none := by
  induction changes generalizing v with
  | nil => cases hmade
  | cons ch rest ih =>
    rcases List.mem_cons.1 hmade with rfl | hrest
    · exact h.1.1
    · have hnone := ih h.2 hrest fun source target hmove =>
        hstays source target (List.mem_cons_of_mem _ hmove)
      by_contra hsome
      by_cases hplace : l ∈ ch.places
      · cases ch with
        | makeDirectory m => exact hsome (List.mem_singleton.1 hplace ▸ h.1.1)
        | write m content =>
          obtain rfl : l = m := List.mem_singleton.1 hplace
          have hnil : l ≠ [] := by
            rintro rfl
            exact h.1.1 rfl
          rw [node?_write v hnil, if_pos rfl] at hnone
          cases hnone
        | move source target =>
          have hsource := hstays source target List.mem_cons_self
          obtain rfl : l = target := (List.mem_pair.1 hplace).resolve_left hsource.symm
          obtain ⟨⟨content, hfile⟩, hfree, -⟩ := h.1
          have hnil : l ≠ [] := by
            rintro rfl
            exact hfree rfl
          rw [node?_move v hfile hnil, if_pos rfl] at hnone
          cases hnone
      · rw [h.1.node?_of_notMem hplace] at hnone
        exact hsome hnone

end Files.Change

namespace Fixture

open ParseBench.Bench (Config)
open ParseBench.Files
open ParseBench.Text (Bytes)

variable {c : Config} {u : Volume} {entry entry' : Path} {data : Bytes} {job next : Job}
  {changes : List Change}

/-! ## Places of entries -/

/-- The path of an entry that can name a file: its last name is not that of the parent. -/
def Proper (entry : Path) : Prop := entry.names ≠ [] ∧ entry.name ≠ ".."

/-- An entry lies in the directory of the cache, or it is this directory. -/
def Seated (c : Config) (entry : Path) : Prop := entry.parent = c.cache ∨ entry = c.cache

/-- The entry of a fixture lies in the directory of the cache, or it is this directory. -/
lemma seated_entryPath (c : Config) {url name : Text.Points} (hid : identifier url = .ok name) :
    Seated c (entryPath c name) := by
  by_cases hdot : name.lossy = "."
  · exact .inr (entryPath_dot c hdot)
  · refine .inl ?_
    rw [entryPath_of_ne c hid hdot, Path.parent, List.dropLast_concat]

/-- The directories above an entry are those of the cache and above it. -/
lemma Seated.above (h : Seated c entry) {q : Path} (hq : Volume.Above entry.parent q) :
    Volume.Above c.cache q := by
  rcases h with h | rfl
  · rwa [h] at hq
  · exact hq.of_parent

/-- The hidden file of an entry leads where the entry does, but for the name. -/
lemma spot_hiddenPath (u : Volume) (entry : Path) :
    u.spot (hiddenPath entry) = u.spot entry.parent ++ [temporaryName entry.name] := by
  have horigin : u.origin (hiddenPath entry) = u.origin entry.parent := rfl
  rw [Volume.spot, horigin, hiddenPath, List.foldl_append]
  exact if_neg (temporaryName_ne_dots _)

/-- A proper entry leads to its name in the directory of its parent. -/
lemma Proper.spot_eq (h : Proper entry) (u : Volume) :
    u.spot entry = u.spot entry.parent ++ [entry.name] := by
  obtain ⟨ns, x, hp⟩ := (List.eq_nil_or_concat' entry.names).resolve_left h.1
  have hname := name_eq hp
  have horigin : u.origin entry = u.origin entry.parent := rfl
  have hdots : x ≠ ".." := hname ▸ h.2
  rw [hname, Volume.spot, Volume.spot, horigin, Path.parent, hp, List.dropLast_concat,
    List.foldl_append]
  exact if_neg hdots

/-- A path that denotes a name in a directory is proper. -/
lemma proper_of_resolve {d : Location} {x : String} (h : u.resolve entry = .ok (.named d x)) :
    Proper entry := by
  obtain ⟨ns, hp, -, -, hx, -⟩ := Volume.resolve_eq_named_iff.1 h
  refine ⟨by simp [hp], ?_⟩
  rwa [name_eq hp]

/-- A file that can be read has a proper path. -/
lemma proper_of_read (hu : u.WellFormed) (h : u.read entry = .ok data) : Proper entry := by
  obtain ⟨-, d, x, hr, -⟩ := (Volume.read_eq_ok_iff hu).1 h
  exact proper_of_resolve hr

/-! ## What a worker does -/

/-- A change that the worker of an entry makes: the hidden file that it moves is in no place of the
directories of the cache. -/
inductive Work (c : Config) (u : Volume) (entry : Path) : Change → Prop where
  | directory {q : Path} (h : Volume.Above entry.parent q) :
    Work c u entry (.makeDirectory (u.spot q))
  | hidden (hnames : entry.names ≠ []) (content : Bytes) :
    Work c u entry (.write (u.spot (hiddenPath entry)) content)
  | moved (h : Proper entry)
    (hapart : ∀ q, Volume.Above c.cache q → u.spot q ≠ u.spot (hiddenPath entry)) :
    Work c u entry (.move (u.spot (hiddenPath entry)) (u.spot entry))

/-- What a worker changes depends on the current directory alone. -/
lemma Work.of_current {w : Volume} {ch : Change} (hcurrent : w.current = u.current)
    (h : Work c w entry ch) : Work c u entry ch := by
  have hspot := Volume.spot_of_current hcurrent
  cases h with
  | directory h =>
    rw [hspot]
    exact .directory h
  | hidden hnames content =>
    rw [hspot]
    exact .hidden hnames content
  | moved h hapart =>
    simp only [hspot] at hapart ⊢
    exact .moved h hapart

/-- No directory of the cache is made in the place of a hidden file that is moved. -/
lemma Work.place_ne {l source target : Location} (hseat : Seated c entry)
    (h : Work c u entry (.makeDirectory l)) (h' : Work c u entry' (.move source target)) :
    l ≠ source := by
  generalize hmade : Change.makeDirectory l = ch at h
  cases h with
  | hidden | moved => cases hmade
  | @directory q hq =>
    cases hmade
    generalize hmoved : Change.move source target = ch at h'
    cases h' with
    | directory | hidden => cases hmoved
    | moved hproper hapart =>
      cases hmoved
      exact hapart q (hseat.above hq)

/-- Why an entry cannot be stored: its path is at fault, it has no last name, or the operating
system objects. -/
def Unstored (entry : Path) (e : StoreFault) : Prop :=
  (∃ fault, e = .access fault ∧ (fault = .nul → entry.hasNul = true)) ∨
    e = .noName entry ∧ entry.names = []

/-- A fault of the operating system is why an entry cannot be stored. -/
lemma unstored_of_ne {fault : AccessFault} (h : fault ≠ .nul) : Unstored entry (.access fault) :=
  .inl ⟨fault, rfl, fun heq => absurd heq h⟩

/-- The hidden file of an entry is open, in a place where no directory of the cache is made. -/
structure OpenAt (c : Config) (u : Volume) (entry : Path) (place : Location) : Prop where
  names : entry.names ≠ []
  eq_spot : place = u.spot (hiddenPath entry)
  directory : u.node? place.dropLast = some .directory
  free : u.node? place ≠ some .directory
  apart : ∀ q, Volume.Above c.cache q → u.spot q ≠ place

/-- The paths above one that can be walked to lead to directories. -/
lemma directory_of_above (hu : u.WellFormed) {p : Path} {d : Location}
    (hwalk : u.walk (u.origin p) p.names = .ok d) {q : Path} (hq : Volume.Above p q) :
    u.node? (u.spot q) = some .directory := by
  obtain ⟨hroot, rest, hrest⟩ := hq
  have horigin : u.origin q = u.origin p := by rw [Volume.origin, Volume.origin, hroot]
  rw [← hrest, Volume.walk_append] at hwalk
  cases hfirst : u.walk (u.origin p) q.names with
  | error e =>
    rw [hfirst] at hwalk
    cases hwalk
  | ok e =>
    rw [Volume.spot, horigin, ← Volume.walk_further hfirst]
    exact hu.walk (hu.origin _) hfirst

/-- An entry is not in the place of its hidden file. -/
lemma spot_ne_hiddenPath (u : Volume) (hnames : entry.names ≠ []) :
    u.spot entry ≠ u.spot (hiddenPath entry) := by
  rw [spot_hiddenPath]
  intro heq
  by_cases hdots : entry.name = ".."
  · obtain ⟨ns, y, hentry⟩ := (List.eq_nil_or_concat' entry.names).resolve_left hnames
    have hup : u.spot entry = (u.spot entry.parent).dropLast := by
      have horigin : u.origin entry = u.origin entry.parent := rfl
      rw [Volume.spot, Volume.spot, horigin, Path.parent, hentry, List.dropLast_concat,
        List.foldl_append]
      exact if_pos ((name_eq hentry).symm.trans hdots)
    have hlength := congrArg List.length (hup.symm.trans heq)
    simp only [List.length_dropLast, List.length_append, List.length_singleton] at hlength
    omega
  · rw [Proper.spot_eq ⟨hnames, hdots⟩ u] at heq
    have hlast := List.append_cancel_left heq
    have hlength := congrArg String.utf8ByteSize (List.singleton_inj.1 hlast)
    rw [utf8ByteSize_temporaryName] at hlength
    omega

/-- A hidden file that is no directory is in no place of the directories of the cache.

**Proof sketch.** The parent of the entry can be walked to, so that each path above it leads to a
directory already, while there is none in the place of the hidden file. The path of the cache itself
is above the parent too, unless the entry is the cache; then its own place is told from that of the
hidden file by the last name. -/
lemma spot_ne_of_resolve (hu : u.WellFormed) (hseat : Seated c entry) (hnames : entry.names ≠ [])
    {d : Location} {x : String} (hr : u.resolve (hiddenPath entry) = .ok (.named d x))
    (hfree : u.node? (d ++ [x]) ≠ some .directory) {q : Path} (hq : Volume.Above c.cache q) :
    u.spot q ≠ d ++ [x] := by
  have hplace : u.spot (hiddenPath entry) = d ++ [x] := Volume.resolve_spot hr
  obtain ⟨ns, hp, -, hwalk, -⟩ := Volume.resolve_eq_named_iff.1 hr
  obtain ⟨rfl, -⟩ := List.append_inj' hp rfl
  have horigin : u.origin (hiddenPath entry) = u.origin entry.parent := rfl
  rw [horigin] at hwalk
  by_cases hparent : Volume.Above entry.parent q
  · intro heq
    rw [← heq] at hfree
    exact hfree (directory_of_above hu hwalk hparent)
  · rcases hseat with hseat | rfl
    · exact absurd (hseat ▸ hq) hparent
    · have hsame : q.names = c.cache.names := by
        obtain ⟨ns, y, hcache⟩ := (List.eq_nil_or_concat' c.cache.names).resolve_left hnames
        have hprefix := hq.2
        rw [hcache] at hprefix ⊢
        refine (List.prefix_concat_iff.1 hprefix).resolve_right fun hns => hparent ⟨hq.1, ?_⟩
        rwa [Path.parent, hcache, List.dropLast_concat]
      have hspot : u.spot q = u.spot c.cache := by
        rw [Volume.spot, Volume.spot, hsame, Volume.origin, Volume.origin, hq.1]
      rw [hspot, ← hplace]
      exact spot_ne_hiddenPath u hnames

/-- The hidden file that can be opened is in a place where no directory of the cache is made. -/
lemma openAt_of_writable (hu : u.WellFormed) (hseat : Seated c entry) (hnames : entry.names ≠ [])
    {place : Location} (h : u.writable (hiddenPath entry) = .ok place) : OpenAt c u entry place := by
  have hplace := Volume.writable_spot h
  obtain ⟨-, d, x, hr, rfl, hfree, -⟩ := Volume.writable_eq_ok_iff.1 h
  refine ⟨hnames, hplace, ?_, hfree, fun q hq => spot_ne_of_resolve hu hseat hnames hr hfree hq⟩
  rw [List.dropLast_concat]
  exact hu.resolve_named hr

/-- What a worker knows of any volume. -/
def Job.Sited (c : Config) (u : Volume) (entry : Path) : Job → Prop
  | .making directory _ below =>
    Volume.Above entry.parent directory ∧ ∀ q ∈ below, Volume.Above entry.parent q
  | .checking directory fault below => Volume.Above entry.parent directory ∧
    (∀ q ∈ below, Volume.Above entry.parent q) ∧ FaultOf directory fault
  | .opening hidden => hidden = hiddenPath entry ∧ entry.names ≠ []
  | .writing hidden place _ => hidden = hiddenPath entry ∧ OpenAt c u entry place
  | .moving hidden => hidden = hiddenPath entry ∧ entry.names ≠ []
  | .ended (.ok ()) => Proper entry
  | .ended (.error e) => Unstored entry e

/-- A worker that is to start knows all that it needs. -/
lemma Job.sited_start (c : Config) (u : Volume) (entry : Path) : (start entry).Sited c u entry :=
  ⟨Volume.above_self _, by simp⟩

/-- What a worker knows once a directory is there. -/
lemma Job.sited_after {below : List Path} (h : ∀ q ∈ below, Volume.Above entry.parent q) :
    (after entry below).Sited c u entry := by
  cases below with
  | nil =>
    by_cases hnames : entry.names = []
    · rw [after, temporary?_eq_none hnames]
      exact .inr ⟨rfl, hnames⟩
    · rw [after, temporary?_eq hnames]
      exact ⟨rfl, hnames⟩
  | cons q below =>
    rw [List.forall_mem_cons] at h
    exact h

/-- What one step of a worker does, and what it knows then. -/
structure Job.Goes (c : Config) (u : Volume) (entry : Path) (changes : List Change) (next : Job) :
    Prop where
  legal : Change.LegalAll u changes
  work : ∀ ch ∈ changes, Work c u entry ch
  sited : next.Sited c (Change.applyAll u changes) entry

/-- A step that changes nothing. -/
lemma Job.goes_idle (h : next.Sited c u entry) : Goes c u entry [] next :=
  ⟨trivial, by simp, h⟩

/-- A single change. -/
lemma Job.goes_one {ch : Change} (hlegal : ch.Legal u) (hwork : Work c u entry ch)
    (hnext : next.Sited c (ch.apply u) entry) : Goes c u entry [ch] next :=
  ⟨⟨hlegal, trivial⟩, by simpa using hwork, hnext⟩

/-- A worker writes a piece. -/
lemma Job.goes_put {hidden : Path} {place : Location} (h : OpenAt c u entry place)
    (hhidden : hidden = hiddenPath entry) (written : Nat) (piece : Option Nat) :
    Goes c u entry (put u hidden place data written piece).1
      (put u hidden place data written piece).2 := by
  have hnil : place ≠ [] := by
    rintro rfl
    exact h.free rfl
  have hlegal : ∀ content, (Change.write place content).Legal u := fun _ => ⟨h.free, h.directory⟩
  have hwork : ∀ content, Work c u entry (.write place content) := by
    intro content
    rw [h.eq_spot]
    exact .hidden h.names content
  obtain ⟨total, hput⟩ := put_eq u hidden place data written piece
  rw [hput]
  rcases u.writeAt_cases place (data.take total) with ⟨-, hwrite⟩ | ⟨most, reason, -, -, hwrite⟩
  · rw [hwrite]
    refine goes_one (hlegal _) (hwork _) ?_
    dsimp only
    split_ifs
    · refine ⟨hhidden, h.names, ?_, (hlegal _).later.directory _ h.directory, ?_, fun q hq => ?_⟩
      · rw [Volume.spot_of_current (Change.apply_current u _)]
        exact h.eq_spot
      · rw [Change.node?_write u hnil, if_pos rfl]
        simp
      · rw [Volume.spot_of_current (Change.apply_current u _)]
        exact h.apart q hq
    · exact ⟨hhidden, h.names⟩
  · rw [hwrite]
    exact goes_one (hlegal _) (hwork _) (unstored_of_ne (by simp))

/-- A worker makes a directory, or finds out what is in the way. -/
lemma Job.goes_make (hu : u.WellFormed) {directory : Path} {below : List Path} (climbing : Bool)
    (h : Volume.Above entry.parent directory) (hbelow : ∀ q ∈ below, Volume.Above entry.parent q) :
    Goes c u entry (make u entry directory climbing below).1
      (make u entry directory climbing below).2 := by
  rw [make]
  split
  · next change hmade =>
    have hlegal := (Volume.makeDirectory_made hu hmade).legal.1
    obtain rfl := Volume.makeDirectory_spot hmade
    exact goes_one hlegal (.directory h) (sited_after hbelow)
  · split_ifs
    · refine goes_idle ⟨⟨h.1, (List.dropLast_prefix _).trans h.2⟩, ?_⟩
      rw [List.forall_mem_cons]
      exact ⟨h, hbelow⟩
    · exact goes_idle (unstored_of_ne (by simp))
  · next hfault => exact goes_idle ⟨h, hbelow, Volume.makeDirectory_error hfault⟩

/-- **What one step of a worker does.**

**Proof sketch.** By cases on the job. A path that an operation follows without a fault leads to its
spot (`Volume.resolve_spot`), so that the change is one of this entry; a fault is one of the path
that was given, and a path with a null character can only come of an entry with one. -/
lemma Job.Sited.step (hu : u.WellFormed) (hseat : Seated c entry) (h : job.Sited c u entry)
    (data : Bytes) (piece : Option Nat) :
    Goes c u entry (job.step u entry data piece).1 (job.step u entry data piece).2 := by
  have nul : ∀ {p : Path} {fault : AccessFault}, (p.hasNul = true → entry.hasNul = true) →
      FaultOf p fault → Unstored entry (.access fault) := by
    intro p fault hp hfault
    refine .inl ⟨fault, rfl, ?_⟩
    rintro rfl
    exact hp hfault.hasNul
  cases job with
  | making directory climbing below => exact goes_make hu climbing h.1 h.2
  | checking directory fault below =>
    obtain ⟨habove, hbelow, hfault⟩ := h
    rw [Job.step]
    split
    · exact goes_idle (sited_after hbelow)
    · next hforgiven =>
      exact goes_idle (nul (Path.hasNul_of_above habove.of_parent)
        (Volume.forgive_error hfault hforgiven))
  | opening hidden =>
    obtain ⟨rfl, hnames⟩ := h
    rw [Job.step]
    split
    · next place hopen => exact goes_put (openAt_of_writable hu hseat hnames hopen) rfl 0 piece
    · next fault hfault =>
      obtain ⟨ns, x, hp⟩ := (List.eq_nil_or_concat' entry.names).resolve_left hnames
      exact goes_idle (nul (hasNul_hiddenPath hp ▸ id) (Volume.writable_error hfault))
  | writing hidden place written => exact goes_put h.2 h.1 written piece
  | moving hidden =>
    obtain ⟨rfl, hnames⟩ := h
    rw [Job.step]
    split
    · next change hmove =>
      obtain ⟨-, -, d, x, d', x', hr, hr', hfile, -, hfree, rfl⟩ :=
        Volume.replace_eq_ok_iff.1 hmove
      have hproper := proper_of_resolve hr'
      have hwork : Work c u entry (.move (d ++ [x]) (d' ++ [x'])) := by
        have hapart : ∀ q, Volume.Above c.cache q → u.spot q ≠ u.spot (hiddenPath entry) := by
          obtain ⟨content, hcontent⟩ := hfile
          intro q hq
          rw [Volume.resolve_spot hr]
          exact spot_ne_of_resolve hu hseat hnames hr (by rw [hcontent]; simp) hq
        have hmoved := Work.moved hproper hapart
        rw [Volume.resolve_spot hr, Volume.resolve_spot hr'] at hmoved
        exact hmoved
      refine goes_one ⟨hfile, hfree, ?_⟩ hwork hproper
      rw [List.dropLast_concat]
      exact hu.resolve_named hr'
    · next fault hfault =>
      obtain ⟨ns, x, hp⟩ := (List.eq_nil_or_concat' entry.names).resolve_left hnames
      refine goes_idle (.inl ⟨fault, rfl, ?_⟩)
      rintro rfl
      rcases Volume.replace_error hfault with ⟨-, hhidden | hentry⟩ | ⟨e', he⟩
      · rwa [hasNul_hiddenPath hp] at hhidden
      · exact hentry
      · cases he
  | ended result => exact goes_idle h

/-- **What a worker knows is preserved by other workers.** -/
lemma Job.Sited.frame (hseat : Seated c entry') (hlegal : Change.LegalAll u changes)
    (hwork : ∀ ch ∈ changes, Work c u entry' ch) (h : job.Sited c u entry) :
    job.Sited c (Change.applyAll u changes) entry := by
  cases job with
  | writing hidden place written =>
    obtain ⟨hhidden, hopen⟩ := h
    have hspot := Volume.spot_of_current (Change.applyAll_current u changes)
    refine ⟨hhidden, hopen.names, ?_, hlegal.later.directory _ hopen.directory, fun hnow => ?_,
      fun q hq => ?_⟩
    · rw [hspot]
      exact hopen.eq_spot
    · have hmade := hlegal.makeDirectory_mem hopen.free hnow
      generalize hch : Change.makeDirectory place = ch at hmade
      cases hwork ch hmade with
      | @directory q hq =>
        cases hch
        exact hopen.apart q (hseat.above hq) rfl
      | hidden | moved => cases hch
    · rw [hspot]
      exact hopen.apart q hq
  | ended result => cases result <;> exact h
  | making | checking | opening | moving => exact h

/-! ## What is written stays -/

/-- A location is in neither of the two places where the worker of an entry writes. -/
structure Spared (u : Volume) (l : Location) (entry : Path) : Prop where
  ne_entry : l ≠ u.spot entry
  ne_hidden : l ≠ u.spot (hiddenPath entry)

/-- An entry and its hidden file are not where the worker of another entry writes. -/
structure Distant (u : Volume) (entry entry' : Path) : Prop where
  entry_spared : Spared u (u.spot entry) entry'
  hidden_spared : Spared u (u.spot (hiddenPath entry)) entry'

/-- A file stays that is not where a worker writes. -/
lemma node?_of_work {l : Location} {content : Bytes} (hlegal : Change.LegalAll u changes)
    (hwork : ∀ ch ∈ changes, Work c u entry' ch) (hspared : Spared u l entry')
    (hfile : u.node? l = some (.file content)) :
    (Change.applyAll u changes).node? l = some (.file content) := by
  refine hlegal.node?_of_file hfile fun ch hch hnot hl => ?_
  cases hwork ch hch with
  | directory => exact hnot _ rfl
  | hidden => exact hspared.ne_hidden (List.mem_singleton.1 hl)
  | moved =>
    rcases List.mem_pair.1 hl with hl | hl
    · exact hspared.ne_hidden hl
    · exact hspared.ne_entry hl

/-- **What can be read elsewhere can still be read.** -/
lemma read_of_work (hu : u.WellFormed) (hlegal : Change.LegalAll u changes)
    (hwork : ∀ ch ∈ changes, Work c u entry' ch) (hspared : Spared u (u.spot entry) entry')
    (h : u.read entry = .ok data) : (Change.applyAll u changes).read entry = .ok data := by
  obtain ⟨hnul, d, x, hr, hfile⟩ := (Volume.read_eq_ok_iff hu).1 h
  rw [Volume.read_eq_ok_iff (hlegal.wellFormed hu)]
  rw [Volume.resolve_spot hr] at hspared
  exact ⟨hnul, d, x, hlegal.later.resolve hr, node?_of_work hlegal hwork hspared hfile⟩

/-- What the worker of an entry has left on the volume: all the data in the hidden file that is to
be moved, and in the end in the entry. -/
def Job.Leaves (u : Volume) (entry : Path) (data : Bytes) : Job → Prop
  | .moving _ => u.node? (u.spot (hiddenPath entry)) = some (.file data)
  | .ended (.ok ()) => u.read entry = .ok data
  | _ => True

/-- A worker that goes on with a directory has left nothing yet. -/
lemma Job.leaves_after (entry : Path) (below : List Path) :
    (after entry below).Leaves u entry data := by
  cases below with
  | nil =>
    rw [after]
    split <;> trivial
  | cons q below => trivial

/-- A worker that has written everything has left it in the hidden file. -/
lemma Job.leaves_put {hidden : Path} {place : Location} (h : OpenAt c u entry place)
    (written : Nat) (piece : Option Nat) :
    (put u hidden place data written piece).2.Leaves
      (Change.applyAll u (put u hidden place data written piece).1) entry data := by
  have hnil : place ≠ [] := by
    rintro rfl
    exact h.free rfl
  obtain ⟨total, hput⟩ := put_eq u hidden place data written piece
  rw [hput]
  rcases u.writeAt_cases place (data.take total) with ⟨-, hwrite⟩ | ⟨most, reason, -, -, hwrite⟩
  · rw [hwrite]
    dsimp only
    split_ifs with hpart
    · trivial
    · have hspot := Volume.spot_of_current
        (Change.applyAll_current u [.write place (data.take total)])
      rw [Leaves, hspot, ← h.eq_spot, Change.applyAll_cons, Change.applyAll_nil,
        Change.node?_write u hnil, if_pos rfl, List.take_of_length_le (by omega)]
  · rw [hwrite]
    trivial

/-- **What one step of a worker leaves.** -/
lemma Job.Leaves.step (hu : u.WellFormed) (hseat : Seated c entry) (hsited : job.Sited c u entry)
    (h : job.Leaves u entry data) (piece : Option Nat) :
    (job.step u entry data piece).2.Leaves
      (Change.applyAll u (job.step u entry data piece).1) entry data := by
  cases job with
  | making directory climbing below =>
    rw [Job.step, make]
    split
    · exact leaves_after entry below
    · split_ifs <;> trivial
    · trivial
  | checking directory fault below =>
    rw [Job.step]
    split
    · exact leaves_after entry below
    · trivial
  | opening hidden =>
    obtain ⟨rfl, hnames⟩ := hsited
    rw [Job.step]
    split
    · next place hopen => exact leaves_put (openAt_of_writable hu hseat hnames hopen) 0 piece
    · trivial
  | writing hidden place written => exact leaves_put hsited.2 written piece
  | moving hidden =>
    have hgoes := hsited.step hu hseat data piece
    obtain ⟨rfl, hnames⟩ := hsited
    rw [Job.step] at hgoes ⊢
    split at hgoes
    · next change hmove =>
      obtain ⟨-, hnul, d, x, d', x', hr, hr', -, -, hfree, rfl⟩ := Volume.replace_eq_ok_iff.1 hmove
      have hlegal := hgoes.legal
      have hnil : d' ++ [x'] ≠ [] := by simp
      have hspot : u.spot (hiddenPath entry) = d ++ [x] := Volume.resolve_spot hr
      rw [Leaves, hspot] at h
      show (Change.applyAll u _).read entry = .ok data
      rw [Volume.read_eq_ok_iff (hlegal.wellFormed hu)]
      refine ⟨hnul, d', x', hlegal.later.resolve hr', ?_⟩
      rw [Change.applyAll_cons, Change.applyAll_nil, Change.node?_move u h hnil, if_pos rfl]
    · trivial
  | ended result => exact h

/-- **What a worker has left stays** while others store distant entries. -/
lemma Job.Leaves.frame (hu : u.WellFormed) (hlegal : Change.LegalAll u changes)
    (hwork : ∀ ch ∈ changes, Work c u entry' ch) (hdistant : Distant u entry entry')
    (h : job.Leaves u entry data) : job.Leaves (Change.applyAll u changes) entry data := by
  cases job with
  | moving hidden =>
    have hspot := Volume.spot_of_current (Change.applyAll_current u changes)
    rw [Leaves, hspot]
    exact node?_of_work hlegal hwork hdistant.hidden_spared h
  | ended result =>
    cases result with
    | error e => trivial
    | ok _ => exact read_of_work hu hlegal hwork hdistant.entry_spared h
  | making | checking | opening | writing => trivial

end Fixture

end ParseBench
