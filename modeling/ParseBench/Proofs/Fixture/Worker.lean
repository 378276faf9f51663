import ParseBench.Proofs.Fixture.Complete
import ParseBench.Proofs.Fixture.Job

set_option relaxedAutoImplicit false
set_option autoImplicit false

/-!
# One worker among others

What the worker of a text knows of the volume stays true whatever other workers do. All that it
changes belongs to its text, and if nothing is in the way of the text then no step of the worker
fails.

## Main definitions

* `ParseBench.Fixture.Leading` — directories that are made one after the other.
* `ParseBench.Fixture.Job.Holds` — what a worker knows of the volume.
* `ParseBench.Fixture.Job.Smooth` — nothing has failed so far.

## Main results

* `ParseBench.Fixture.Job.Holds.step` — what one step of a worker changes and preserves.
* `ParseBench.Fixture.Job.Holds.frame` — what a worker knows is preserved by other workers.
* `ParseBench.Fixture.Job.Holds.smooth` — no step fails if nothing is in the way.
-/

namespace ParseBench.Fixture

open ParseBench.Bench (Config)
open ParseBench.Files
open ParseBench.Http (Network)
open ParseBench.Text (Bytes Points)

/-! ## Directories one after the other -/

/-- Directories that a worker makes one after the other, to come to that of an entry: each is in the
one before it. -/
def Leading (entry : Path) : Path → List Path → Prop
  | directory, [] => directory = entry.parent
  | directory, next :: below => next.names ≠ [] ∧ next.parent = directory ∧ Leading entry next below

/-- What holds of the directory of an entry and of all above it holds of the directories that lead
there. -/
lemma Leading.above {entry : Path} {P : Path → Prop} (hparent : ∀ p, P p → P p.parent)
    (hentry : P entry.parent) {directory : Path} {below : List Path}
    (h : Leading entry directory below) : P directory := by
  induction below generalizing directory with
  | nil => exact h ▸ hentry
  | cons next below ih =>
    obtain ⟨-, rfl, hrest⟩ := h
    exact hparent _ (ih hrest)

variable {c : Config} {follow : Bool} {net : Network} {v u : Volume} {named : List Named}
  {a b : Attempt} {change : Change} {job next : Job} {changes : List Change}

/-- The directories that lead to an entry have no names of two dots. -/
lemma Leading.dots {entry directory : Path} {below : List Path}
    (h : Leading entry directory below) (hdots : ".." ∉ entry.parent.names) :
    ".." ∉ directory.names :=
  h.above (P := fun p => ".." ∉ p.names) (fun _ => Volume.parent_dots) hdots

/-- The directories that lead to an entry are on the way to it. -/
lemma Leading.locate {entry directory : Path} {below : List Path}
    (h : Leading entry directory below) (v : Volume) :
    v.locate directory <+: v.locate entry.parent :=
  h.above (P := fun p => v.locate p <+: v.locate entry.parent)
    (fun _ hp => (Volume.prefix_locate_of_parent List.prefix_rfl).trans hp) List.prefix_rfl

/-- If nothing is in the way of the directory of an entry, nothing is in the way of those that lead
there. -/
lemma Leading.open {entry directory : Path} {below : List Path}
    (h : Leading entry directory below) (hopen : v.Open entry.parent) : v.Open directory :=
  h.above (P := v.Open) (fun _ => Volume.Open.parent) hopen

/-! ## What a worker knows -/

/-- The hidden file of a text has been opened. -/
structure Opened (c : Config) (v u : Volume) (a : Attempt) (hidden : Path) : Prop where
  hidden : hidden = hiddenPath (a.entry c)
  names : (a.entry c).names ≠ []
  fits : (hiddenPath (a.entry c)).Fits
  opens : v.refusals.opens (v.locate (hiddenPath (a.entry c))) = none
  directory : u.node? (v.locate (a.entry c).parent) = some .directory

/-- What the worker of a text knows of the volume `u`, which has come of `v`. -/
def Job.Holds (c : Config) (v u : Volume) (a : Attempt) : Job → Prop
  | .making directory climbing below => Leading (a.entry c) directory below ∧
    (climbing = false → u.node? (v.locate directory.parent) = some .directory)
  | .checking directory _ below => Leading (a.entry c) directory below
  | .opening hidden => hidden = hiddenPath (a.entry c) ∧ (a.entry c).names ≠ [] ∧
    u.node? (v.locate (a.entry c).parent) = some .directory
  | .writing hidden place _ => Opened c v u a hidden ∧
    place = v.locate (hiddenPath (a.entry c)) ∧ u.node? place ≠ some .directory
  | .moving hidden => Opened c v u a hidden ∧ v.Takes (v.locate (hiddenPath (a.entry c))) a.data ∧
    u.node? (v.locate (hiddenPath (a.entry c))) = some (.file a.data)
  | .ended (.ok ()) => Stored c v u a
  | .ended (.error _) => True

/-- A worker that is to start knows all that it needs. -/
lemma Job.holds_start (c : Config) (v u : Volume) (a : Attempt) :
    (Job.start (a.entry c)).Holds c v u a :=
  ⟨rfl, by simp⟩

/-- A worker whose directory is there goes on with those below it, or opens the hidden file. -/
lemma Job.holds_after {directory : Path} {below : List Path}
    (h : Leading (a.entry c) directory below)
    (hdirectory : u.node? (v.locate directory) = some .directory) :
    (after (a.entry c) below).Holds c v u a := by
  cases below with
  | nil =>
    obtain rfl : directory = (a.entry c).parent := h
    by_cases hnames : (a.entry c).names = []
    · rw [after, temporary?_eq_none hnames]
      trivial
    · rw [after, temporary?_eq hnames]
      exact ⟨rfl, hnames, hdirectory⟩
  | cons next below =>
    obtain ⟨-, rfl, hrest⟩ := h
    exact ⟨hrest, fun _ => hdirectory⟩

/-! ## Steps of the worker -/

/-- What one step of a worker changes and preserves: only the last step moves the entry into
place. -/
structure Job.Works (c : Config) (follow : Bool) (net : Network) (v : Volume) (named : List Named)
    (u : Volume) (a : Attempt) (changes : List Change) (next : Job) : Prop where
  acts : Acts c follow net v named u a.named changes
  holds : next.Holds c v (Change.applyAll u changes) a
  moves : next = .ended (.ok ()) ∨ ∀ s t, .move s t ∉ changes

/-- A step that changes nothing on the volume. -/
lemma Job.Works.of_idle (h : next.Holds c v u a) : Job.Works c follow net v named u a [] next :=
  ⟨.idle, h, .inr fun _ _ => List.not_mem_nil⟩

/-- A worker writes a piece. -/
lemma Job.holds_put {hidden : Path} {place : Location} (written : Nat) (piece : Option Nat)
    (hlater : v.Later u) (hpending : content? c u a.named.name = none)
    (hopened : Opened c v u a hidden) (hplace : place = v.locate (hiddenPath (a.entry c)))
    (hfree : u.node? place ≠ some .directory) :
    ∃ content next, put u hidden place a.data written piece = ([.write place content], next) ∧
      Touch c v u a (.write place content) ∧
        next.Holds c v ((Change.write place content).apply u) a := by
  obtain rfl := hplace
  have hnil := locate_hiddenPath_ne_nil v (a.entry c)
  have hlegal : ∀ content,
      (Change.write (v.locate (hiddenPath (a.entry c))) content).Legal u := by
    intro content
    refine ⟨hfree, ?_⟩
    rw [locate_hiddenPath, List.dropLast_concat]
    exact hopened.directory
  have htouch : ∀ content,
      Touch c v u a (.write (v.locate (hiddenPath (a.entry c))) content) :=
    fun content => .hidden hopened.names (hlegal content) hpending
  obtain ⟨total, hput⟩ :=
    put_eq u hidden (v.locate (hiddenPath (a.entry c))) a.data written piece
  rcases u.writeAt_cases (v.locate (hiddenPath (a.entry c))) (a.data.take total) with
    ⟨htakes, hwrite⟩ | ⟨most, reason, -, -, hwrite⟩
  · rw [hput, hwrite]
    have hopened' : Opened c v ((Change.write (v.locate (hiddenPath (a.entry c)))
        (a.data.take total)).apply u) a hidden :=
      ⟨hopened.hidden, hopened.names, hopened.fits, hopened.opens,
        (hlegal _).later.directory _ hopened.directory⟩
    have hnode := Change.node?_write u hnil (a.data.take total)
    refine ⟨_, _, rfl, htouch _, ?_⟩
    dsimp only
    split_ifs with hpart
    · refine ⟨hopened', rfl, ?_⟩
      rw [hnode, if_pos rfl]
      simp
    · rw [List.take_of_length_le (by omega)] at htakes
      refine ⟨hopened', ?_, ?_⟩
      · rw [Volume.Takes, hlater.refusals]
        exact htakes
      · rw [hnode, if_pos rfl, List.take_of_length_le (by omega)]
  · rw [hput, hwrite]
    exact ⟨_, _, rfl, htouch _, trivial⟩

/-- A worker makes a directory, or finds out what is in the way. -/
lemma Job.holds_make (hc : Compatible c named) (ha : Wanted c follow net v named a)
    (hlater : v.Later u) (hu : u.WellFormed) {directory : Path} {climbing : Bool}
    {below : List Path} (h : Leading (a.entry c) directory below) :
    ∃ changes next, make u (a.entry c) directory climbing below = (changes, next) ∧
      Works c follow net v named u a changes next := by
  have hdots := h.dots (hc.entry_dots (ha.for_named hc))
  rw [make]
  split
  · next change hmade =>
    obtain ⟨-, -, -, -, -, hmakes, -⟩ := Volume.makeDirectory_eq_ok_iff.1 hmade
    have hlegal := (Volume.makeDirectory_made hu hmade).legal.1
    have hallowed := (Volume.makeDirectory_made hu hmade).allowed
    obtain ⟨rfl, -⟩ := Volume.makeDirectory_locate hu hdots hmade
    rw [hlater.locate] at hlegal hallowed
    refine ⟨_, _, rfl, ?_, ?_, .inr (by simp)⟩
    · rw [hlater.locate]
      refine .touch ha rfl (.directory (h.locate v) hlegal ?_)
      rw [hlater.refusals]
      exact hallowed _ (by simp)
    · rw [hlater.locate]
      refine Job.holds_after h ?_
      rw [Change.applyAll_cons, Change.applyAll_nil, Change.node?_makeDirectory, if_pos rfl]
  · split_ifs with hclimb
    · rw [Bool.and_eq_true, Bool.not_eq_true', List.isEmpty_eq_false_iff] at hclimb
      exact ⟨_, _, rfl, .of_idle ⟨⟨hclimb.2, rfl, h⟩, by simp⟩⟩
    · exact ⟨_, _, rfl, .of_idle trivial⟩
  · exact ⟨_, _, rfl, .of_idle h⟩

/-- **What one step of a worker changes and preserves**, as long as the entry is not in place.

**Proof sketch.** By cases on the job. Opening the hidden file and writing on come to the same piece
of a write (`holds_put`); what the worker knows of the open file and of the whole hidden file is
just what `Storing.stored_of_move` asks for in the end. -/
lemma Job.Holds.step (hc : Compatible c named) (ha : Wanted c follow net v named a)
    (hlater : v.Later u) (hu : u.WellFormed) (hpending : content? c u a.named.name = none)
    (piece : Option Nat) (h : job.Holds c v u a) :
    ∃ changes next, job.step u (a.entry c) a.data piece = (changes, next) ∧
      Works c follow net v named u a changes next := by
  have hdots := hc.entry_dots (ha.for_named hc)
  have hplace := hlater.locate
  have wrote : ∀ {hidden place written}, Opened c v u a hidden →
      place = v.locate (hiddenPath (a.entry c)) → u.node? place ≠ some .directory →
      ∃ changes next, put u hidden place a.data written piece = (changes, next) ∧
        Works c follow net v named u a changes next := by
    intro hidden place written hopened hlocated hfree
    obtain ⟨content, next, hput, htouch, hnext⟩ :=
      holds_put written piece hlater hpending hopened hlocated hfree
    exact ⟨_, next, hput, .touch ha rfl htouch, hnext, .inr (by simp)⟩
  cases job with
  | making directory climbing below => exact holds_make hc ha hlater hu h.1
  | checking directory fault below =>
    rw [step]
    split
    · next hforgiven =>
      have hdirectory := (Volume.forgive_locate hu (Leading.dots h hdots) hforgiven).1
      rw [hplace] at hdirectory
      exact ⟨_, _, rfl, .of_idle (holds_after h hdirectory)⟩
    · exact ⟨_, _, rfl, .of_idle trivial⟩
  | opening hidden =>
    obtain ⟨rfl, hnames, hdirectory⟩ := h
    rw [step]
    cases hopen : u.writable (hiddenPath (a.entry c)) with
    | error fault => exact ⟨_, _, rfl, .of_idle trivial⟩
    | ok place =>
      obtain ⟨hfits, -, hfree, hopens, rfl⟩ := (writable_hiddenPath_iff hu hdots).1 hopen
      rw [hplace, ← hlater.refusals] at hopens
      exact wrote ⟨rfl, hnames, hfits, hopens, hdirectory⟩ (hplace _) hfree
  | writing hidden place written => exact wrote h.1 h.2.1 h.2.2
  | moving hidden =>
    obtain ⟨hopened, htakes, hwritten⟩ := h
    obtain rfl := hopened.hidden
    rw [step]
    cases hmove : u.replace (hiddenPath (a.entry c)) (a.entry c) with
    | error fault => exact ⟨_, _, rfl, .of_idle trivial⟩
    | ok change =>
      obtain ⟨⟨hfits, hdots', -⟩, -, hmoves, hfree, rfl⟩ :=
        (replace_hiddenPath_iff hu hdots hopened.names).1 hmove
      rw [hplace, hplace, ← hlater.refusals] at hmoves
      rw [hplace] at hfree
      have hstoring : Storing v (a.entry c) a.data :=
        ⟨hopened.names, hdots', hfits, hopened.opens, htakes, hmoves⟩
      have hlegal : (Change.move (v.locate (hiddenPath (a.entry c)))
          (v.locate (a.entry c))).Legal u := by
        refine ⟨⟨_, hwritten⟩, hfree, ?_⟩
        rw [locate_entry v hopened.names, List.dropLast_concat]
        exact hopened.directory
      rw [hplace, hplace]
      exact ⟨_, _, rfl, .touch ha rfl (.moved hstoring hlegal hwritten),
        hstoring.stored_of_move hlegal hwritten, .inl rfl⟩
  | ended result => exact ⟨[], _, rfl, .of_idle h⟩

/-! ## Steps of other workers -/

/-- A worker does not touch the hidden file of another. -/
lemma Touch.node?_hidden (hc : Compatible c named) (ha : a.For named) (hb : b.For named)
    (hne : b.named ≠ a.named) (hnames : (b.entry c).names ≠ []) (h : Touch c v u a change) :
    (change.apply u).node? (v.locate (hiddenPath (b.entry c))) =
      u.node? (v.locate (hiddenPath (b.entry c))) := by
  cases h with
  | @directory l habove hlegal hallowed =>
    rw [Change.node?_makeDirectory, if_neg]
    rintro rfl
    exact hc.hidden_not_above hb ha hnames v habove
  | hidden hnames' hlegal hpending =>
    rw [Change.node?_write _ (locate_hiddenPath_ne_nil v _),
      if_neg (hc.hidden_ne hb ha hne hnames hnames' v)]
  | moved hstoring hlegal hwritten =>
    have hcross : v.locate (hiddenPath (b.entry c)) ≠ v.locate (a.entry c) :=
      (hc.entry_ne_hidden hb ha.1 ha.2 hnames v).symm
    rw [hstoring.node?_move hwritten, if_neg hcross,
      if_neg (hc.hidden_ne hb ha hne hnames hstoring.names v)]

/-- An open hidden file stays so. -/
lemma Opened.later {hidden : Path} {w : Volume} (h : Opened c v u b hidden) (hlater : u.Later w) :
    Opened c v w b hidden :=
  ⟨h.hidden, h.names, h.fits, h.opens, hlater.directory _ h.directory⟩

/-- **What a worker knows is preserved by other workers.** -/
lemma Job.Holds.frame (hc : Compatible c named) (hu : u.WellFormed) (hlater : v.Later u)
    (ha : Wanted c follow net v named a) (hb : Wanted c follow net v named b)
    (hne : b.named ≠ a.named) (htouch : Touch c v u a change) (h : job.Holds c v u b) :
    job.Holds c v (change.apply u) b := by
  have hstays := htouch.legal.later
  have hhidden := fun hnames =>
    htouch.node?_hidden hc (ha.for_named hc) (hb.for_named hc) hne hnames
  cases job with
  | making directory climbing below =>
    exact ⟨h.1, fun hclimb => hstays.directory _ (h.2 hclimb)⟩
  | checking directory fault below => exact h
  | opening hidden => exact ⟨h.1, h.2.1, hstays.directory _ h.2.2⟩
  | writing hidden place written =>
    obtain ⟨hopened, rfl, hfree⟩ := h
    refine ⟨hopened.later hstays, rfl, ?_⟩
    rwa [hhidden hopened.names]
  | moving hidden =>
    obtain ⟨hopened, htakes, hwritten⟩ := h
    refine ⟨hopened.later hstays, htakes, ?_⟩
    rwa [hhidden hopened.names]
  | ended result =>
    cases result with
    | error fault => trivial
    | ok _ => exact Stored.touch hc hu hlater ha hb h htouch

/-! ## Nothing fails -/

/-- Nothing that a worker has done so far has failed. -/
def Job.Smooth (u : Volume) : Job → Prop
  | .checking directory fault _ =>
    u.node? (u.locate directory) = some .directory ∧ fault ≠ .nul
  | .ended result => result = .ok ()
  | _ => True

/-- What is left to be done once a directory is there has not failed. -/
lemma Job.smooth_after {entry : Path} (hnames : entry.names ≠ []) (below : List Path)
    (w : Volume) : (after entry below).Smooth w := by
  cases below with
  | nil =>
    rw [after, temporary?_eq hnames]
    trivial
  | cons next below => trivial

/-- Nothing fails because of later changes. -/
lemma Job.Smooth.later {w : Volume} (h : job.Smooth u) (hlater : u.Later w) : job.Smooth w := by
  cases job with
  | checking directory fault below =>
    refine ⟨?_, h.2⟩
    rw [hlater.locate]
    exact hlater.directory _ h.1
  | ended result => exact h
  | making | opening | writing | moving => trivial

/-- A directory that is there and that nothing is in the way of is told to be one. -/
lemma forgive_of_directory (hu : u.WellFormed) {p : Path} (hdots : ".." ∉ p.names) (hopen : u.Open p)
    (hdirectory : u.node? (u.locate p) = some .directory) {fault : AccessFault}
    (hfault : fault ≠ .nul) : u.forgive p fault = .ok () := by
  refine Volume.forgive_eq_ok_iff.2 ⟨hfault, ?_⟩
  rcases Volume.makeDirectory_of_open hu hdots hopen with hmade | ⟨-, htold⟩ | ⟨-, hnames, hnone⟩
  · have hlegal := (Volume.makeDirectory_made hu hmade).legal.1
    exact absurd hlegal.1 (by simp [hdirectory])
  · exact htold
  · obtain ⟨ns, x, hp⟩ := (List.eq_nil_or_concat' p.names).resolve_left hnames
    rw [Volume.locate_parent u hp, hu.node?_append_of_none hnone] at hdirectory
    cases hdirectory

/-- **No step of a worker fails if nothing is in the way** of its text.

**Proof sketch.** By cases on the job: each operation is one that `Storable` permits at its place. A
directory that is there already is met by a second look (`forgive_of_directory`), and a piece of a
text is taken whenever the whole text is. -/
lemma Job.Holds.smooth (hc : Compatible c named) (ha : a.For named) (hu : u.WellFormed)
    (hlater : v.Later u) (hs : Storable u (a.entry c) a.data) (h : job.Holds c v u a)
    (hsmooth : job.Smooth u) {piece : Option Nat}
    (hstep : job.step u (a.entry c) a.data piece = (changes, next)) :
    next.Smooth (Change.applyAll u changes) := by
  have hdots := hc.entry_dots ha
  have hplace := hlater.locate
  have wrote : ∀ {hidden place written}, place = u.locate (hiddenPath (a.entry c)) →
      put u hidden place a.data written piece = (changes, next) →
        next.Smooth (Change.applyAll u changes) := by
    rintro hidden place written rfl hwrote
    obtain ⟨total, hput⟩ :=
      put_eq u hidden (u.locate (hiddenPath (a.entry c))) a.data written piece
    have htakes : u.Takes (u.locate (hiddenPath (a.entry c))) (a.data.take total) := by
      intro most reason hlimit
      have := hs.permitted.takes most reason hlimit
      rw [List.length_take]
      omega
    rw [hput, Volume.writeAt_of_takes htakes] at hwrote
    cases hwrote
    dsimp only
    split_ifs <;> trivial
  cases job with
  | making directory climbing below =>
    obtain ⟨hleading, hclimbing⟩ := h
    have hdots' := hleading.dots hdots
    have hopen := hleading.open hs.open
    rw [Job.step, make] at hstep
    rcases Volume.makeDirectory_of_open hu hdots' hopen with
      hmade | ⟨hmade, htold⟩ | ⟨hmade, hnames, hnone⟩
    · rw [hmade] at hstep
      cases hstep
      exact smooth_after hs.names below _
    · rw [hmade] at hstep
      cases hstep
      have hforgiven := Volume.forgive_eq_ok_iff.2
        ⟨(by simp [Volume.faultAt] : Volume.faultAt directory .alreadyExists ≠ .nul), htold⟩
      exact ⟨(Volume.forgive_locate hu hdots' hforgiven).1, by simp⟩
    · have hclimb : (climbing && !directory.names.isEmpty) = true := by
        cases climbing with
        | true => simpa using hnames
        | false =>
          have hdirectory := hclimbing rfl
          rw [← hplace, hnone] at hdirectory
          cases hdirectory
      simp only [hmade, Volume.faultAt, if_pos hclimb] at hstep
      cases hstep
      trivial
  | checking directory fault below =>
    have hforgiven := forgive_of_directory hu (Leading.dots h hdots) (Leading.open h hs.open)
      hsmooth.1 hsmooth.2
    rw [Job.step, hforgiven] at hstep
    cases hstep
    exact smooth_after hs.names below _
  | opening hidden =>
    obtain ⟨rfl, hnames, hdirectory⟩ := h
    rw [← hplace] at hdirectory
    rw [Job.step, hs.writable hu hdots hdirectory] at hstep
    exact wrote rfl hstep
  | writing hidden place written =>
    obtain ⟨-, rfl, -⟩ := h
    exact wrote (hplace _).symm hstep
  | moving hidden =>
    obtain ⟨hopened, -, hwritten⟩ := h
    obtain rfl := hopened.hidden
    have hdirectory := hopened.directory
    rw [← hplace] at hdirectory hwritten
    rw [Job.step, hs.replace hu hdots hdirectory hwritten] at hstep
    cases hstep
    rfl
  | ended result =>
    cases hstep
    exact hsmooth

end ParseBench.Fixture
