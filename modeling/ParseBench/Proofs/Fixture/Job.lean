import ParseBench.Proofs.Fixture.Store

set_option relaxedAutoImplicit false
set_option autoImplicit false

/-!
# Jobs that are done alone

A job whose steps are not interleaved with those of others stores its entry without a break. It does
not matter for the volume in the end in how many pieces the hidden file is written.

## Main definitions

* `ParseBench.Fixture.Job.run` — a job that is done alone, with the pieces of its steps.
* `ParseBench.Fixture.Job.Does` — a job that is done alone, in whole pieces.

## Main results

* `ParseBench.Fixture.Job.start_does` — in whole pieces a job takes the steps of `store`.
* `ParseBench.Fixture.Job.Does.run_whole` — so many steps as its rank says are enough.
* `ParseBench.Fixture.Job.run_start` — a job comes to the same in whatever pieces.
-/

namespace ParseBench

namespace Files.Change

open ParseBench.Text (Bytes)

/-- A second write at a location makes the first forgotten. -/
lemma write_write (v : Volume) (l : Location) (a b : Bytes) :
    (write l b).apply ((write l a).apply v) = (write l b).apply v := by
  have hfilter : (((v.nodes.filter fun e => e.1 != l) ++ [(l, Node.file a)]).filter
      fun e => e.1 != l) = v.nodes.filter fun e => e.1 != l := by
    rw [List.filter_append, List.filter_filter]
    simp
  simp only [apply, Volume.put, Volume.erase, hfilter]

end Files.Change

namespace Fixture.Job

open ParseBench.Files
open ParseBench.Text (Bytes)

variable {entry : Path} {data : Bytes} {v u : Volume} {job next : Job}
  {steps : List Change} {result : Except StoreFault Unit}

/-- A job that is done alone, given the pieces of its steps. -/
def run (entry : Path) (data : Bytes) (v : Volume) (job : Job) :
    List (Option Nat) → List Change × Job
  | [] => ([], job)
  | piece :: pieces =>
    let (steps, next) := job.step v entry data piece
    let (later, last) := run entry data (Change.applyAll v steps) next pieces
    (steps ++ later, last)

/-- What a job comes to that is done alone and in whole pieces. -/
inductive Does (entry : Path) (data : Bytes) :
    Volume → Job → List Change → Except StoreFault Unit → Prop where
  | ended (v : Volume) (result : Except StoreFault Unit) :
    Does entry data v (.ended result) [] result
  | step {v : Volume} {job next : Job} {steps rest : List Change} {result : Except StoreFault Unit}
    (hstep : job.step v entry data none = (steps, next))
    (hrest : Does entry data (Change.applyAll v steps) next rest result) :
    Does entry data v job (steps ++ rest) result

/-! ## Ranks -/

/-- A job that has failed has nothing left to be done. -/
@[simp] lemma rank_failed (fault : AccessFault) : (failed fault).rank = 0 := rfl

/-- What is left to be done once a directory is there. -/
lemma rank_after_le (entry : Path) (below : List Path) :
    (after entry below).rank ≤ 2 * below.length + 3 := by
  cases below with
  | nil =>
    rw [after]
    split <;> simp [rank]
  | cons directory below =>
    simp only [after, rank, List.length_cons]
    omega

/-- A job that makes a directory has more to do than the directories below it need. -/
lemma rank_making_ge (directory : Path) (climbing : Bool) (below : List Path) :
    2 * below.length + 5 ≤ (making directory climbing below).rank := by
  cases climbing
  · exact le_rfl
  · rw [rank]
    omega

/-- A job that writes all that is left. -/
lemma put_none (v : Volume) (hidden : Path) (place : Location) (data : Bytes) (written : Nat) :
    put v hidden place data written none = ([(v.writeAt place data).1],
      match (v.writeAt place data).2 with
      | .ok () => .moving hidden
      | .error fault => failed fault) := by
  simp only [put, List.take_length, lt_irrefl, if_false]
  split <;> next h => rw [h]

/-- **A step in a whole piece lowers the rank** of a job that has not ended.

**Proof sketch.** By cases on the job. A name to climb counts three and a path that is still to be
made counts two, so that climbing trades the one for the other; each other step goes on to a job
that counts less. -/
lemma rank_step_lt (v : Volume) (entry : Path) (data : Bytes) (hjob : ∀ result, job ≠ .ended result) :
    (job.step v entry data none).2.rank < job.rank := by
  have hput : ∀ hidden place written,
      (put v hidden place data written none).2.rank < (writing hidden place written).rank := by
    intro hidden place written
    rw [put_none, rank]
    dsimp only
    split <;> simp [rank, failed]
  cases job with
  | making directory climbing below =>
    have hafter := rank_after_le entry below
    have hge := rank_making_ge directory climbing below
    rw [step, make]
    split
    · dsimp only
      omega
    · split_ifs with hclimb
      · rw [Bool.and_eq_true, Bool.not_eq_true', List.isEmpty_eq_false_iff] at hclimb
        obtain ⟨rfl, hnames⟩ := hclimb
        have hpos := List.length_pos_of_ne_nil hnames
        simp only [rank, Path.parent, List.length_dropLast, List.length_cons]
        omega
      · rw [rank_failed]
        omega
    · rw [rank]
      omega
  | checking directory fault below =>
    have hafter := rank_after_le entry below
    rw [step, rank]
    split
    · dsimp only
      omega
    · rw [rank_failed]
      omega
  | opening hidden =>
    rw [step]
    split
    · exact (hput hidden _ 0).trans (by simp [rank])
    · simp [rank, failed]
  | writing hidden place written => exact hput hidden place written
  | moving hidden =>
    rw [step]
    split <;> simp [rank, failed]
  | ended result => exact absurd rfl (hjob result)

/-- A job that has ended takes no more steps. -/
lemma run_ended (entry : Path) (data : Bytes) (v : Volume) (result : Except StoreFault Unit)
    (pieces : List (Option Nat)) : run entry data v (.ended result) pieces = ([], .ended result) := by
  induction pieces with
  | nil => rfl
  | cons piece pieces ih =>
    rw [run, step]
    dsimp only
    rw [Change.applyAll_nil, ih, List.nil_append]

/-- **So many steps in whole pieces as the rank of a job says are enough.** -/
lemma Does.run_whole (h : Does entry data v job steps result) {k : Nat} (hk : job.rank ≤ k) :
    run entry data v job (List.replicate k none) = (steps, .ended result) := by
  induction h generalizing k with
  | ended v result => exact run_ended entry data v result _
  | @step v job next steps rest result hstep hrest ih =>
    by_cases hjob : ∀ result, job ≠ .ended result
    · have hlt := rank_step_lt v entry data hjob
      rw [hstep] at hlt
      obtain ⟨k, rfl⟩ := Nat.exists_eq_succ_of_ne_zero (n := k) (by omega)
      rw [List.replicate_succ, run, hstep]
      dsimp only
      rw [ih (by dsimp only at hlt; omega)]
    · push Not at hjob
      obtain ⟨result', rfl⟩ := hjob
      cases hstep
      exact ih hk

/-- What a job comes to is determined. -/
lemma Does.unique {steps' : List Change} {result' : Except StoreFault Unit}
    (h : Does entry data v job steps result) (h' : Does entry data v job steps' result') :
    steps = steps' ∧ result = result' := by
  have heq := (h.run_whole le_rfl).symm.trans (h'.run_whole le_rfl)
  simpa using heq

/-! ## Whole pieces -/

/-- A step without an effect on the volume. -/
lemma Does.quiet (hstep : job.step v entry data none = ([], next))
    (h : Does entry data v next steps result) : Does entry data v job steps result :=
  Does.step hstep h

/-- A job that has failed takes no steps. -/
lemma does_failed (v : Volume) (fault : AccessFault) :
    Does entry data v (failed fault) [] (.error (.access fault)) :=
  .ended v _

/-- What is left to be done of a job once a directory was made or not. -/
def afterMaking (entry : Path) (below : List Path) : Except AccessFault Unit → Job
  | .ok () => after entry below
  | .error fault => failed fault

/-- One try at a directory, by a job that does not climb or cannot. -/
lemma does_of_tries {directory : Path} {climbing : Bool} {below : List Path}
    {made : List Change} {outcome : Except AccessFault Unit}
    (hplace : climbing = true →
      v.makeDirectory directory = .error (Volume.faultAt directory .noEntry) → directory.names = [])
    (h : v.Tries directory made outcome)
    (hrest : Does entry data (Change.applyAll v made) (afterMaking entry below outcome) steps
      result) :
    Does entry data v (.making directory climbing below) (made ++ steps) result := by
  cases h with
  | @made change h =>
    have hmaking : (Job.making directory climbing below).step v entry data none =
        ([change], after entry below) := by
      rw [step, make, h]
    exact .step hmaking hrest
  | missing h =>
    have hstay : ¬ (climbing && !directory.names.isEmpty) = true := by
      rw [Bool.and_eq_true, Bool.not_eq_true', List.isEmpty_eq_false_iff]
      exact fun hboth => hboth.2 (hplace hboth.1 h)
    have hmaking : (Job.making directory climbing below).step v entry data none =
        ([], failed (Volume.faultAt directory .noEntry)) := by
      simp only [step, make, h, Volume.faultAt, if_neg hstay]
    exact .step hmaking hrest
  | @refused fault h hfault =>
    have hchecking : (Job.making directory climbing below).step v entry data none =
        ([], .checking directory fault below) := by
      rw [step, make, h]
      split
      · next heq => cases heq
      · next heq =>
        cases heq
        obtain ⟨rfl, rfl⟩ := Volume.makeDirectory_noEntry h
        exact absurd rfl hfault
      · next heq =>
        cases heq
        rfl
    have hforgiven : (Job.checking directory fault below).step v entry data none =
        ([], afterMaking entry below (v.forgive directory fault)) := by
      rw [step]
      split <;> next heq => rw [heq]; rfl
    exact .quiet hchecking (.quiet hforgiven hrest)

/-- **A job makes its directory** as this is described of all directories.

**Proof sketch.** Induction on how the directory is made. The job climbs to the one above exactly if
that is made first; it is back at the directory once that was done. -/
lemma does_of_makes {directory : Path} {below : List Path} {made : List Change}
    {outcome : Except AccessFault Unit} (h : v.Makes directory made outcome)
    (hrest : Does entry data (Change.applyAll v made) (afterMaking entry below outcome) steps
      result) :
    Does entry data v (.making directory true below) (made ++ steps) result := by
  have climb : ∀ {directory : Path} {below : List Path}, directory.names ≠ [] →
      v.makeDirectory directory = .error (Volume.faultAt directory .noEntry) →
        (Job.making directory true below).step v entry data none =
          ([], .making directory.parent true (directory :: below)) := by
    intro directory below hnames hplace
    simp [step, make, hplace, Volume.faultAt, hnames]
  induction h generalizing below steps with
  | here hplace h => exact does_of_tries (fun _ => hplace) h hrest
  | stopped hnames hplace habove ih => exact .quiet (climb hnames hplace) (ih hrest)
  | @after directory above made outcome hnames hplace habove h ih =>
    rw [Change.applyAll_append] at hrest
    rw [List.append_assoc]
    exact .quiet (climb hnames hplace) (ih (does_of_tries (fun h => by cases h) h hrest))

/-- A job moves its hidden file into place. -/
lemma does_moving (v : Volume) (entry : Path) (data : Bytes) (hidden : Path) :
    (∃ fault, v.replace hidden entry = .error fault ∧
      Does entry data v (.moving hidden) [] (.error (.access fault))) ∨
    ∃ moved, v.replace hidden entry = .ok moved ∧
      Does entry data v (.moving hidden) [moved] (.ok ()) := by
  cases hmove : v.replace hidden entry with
  | error fault =>
    have hfails : (moving hidden).step v entry data none = ([], failed fault) := by
      rw [step, hmove]
    exact .inl ⟨fault, rfl, .quiet hfails (does_failed v fault)⟩
  | ok moved =>
    have hmoves : (moving hidden).step v entry data none = ([moved], .ended (.ok ())) := by
      rw [step, hmove]
    exact .inr ⟨moved, rfl, .step hmoves (.ended _ _)⟩

/-- A job writes its hidden file and moves it into place. -/
lemma does_opening (v : Volume) (entry : Path) (data : Bytes) (hidden : Path) :
    Does entry data v (.opening hidden) (writeAndMove v entry hidden data).1
      (writeAndMove v entry hidden data).2 := by
  rw [writeAndMove, Volume.write]
  cases hopen : v.writable hidden with
  | error fault =>
    have hfails : (opening hidden).step v entry data none = ([], failed fault) := by
      rw [step, hopen]
    exact .quiet hfails (does_failed v fault)
  | ok place =>
    have hstep : (Job.opening hidden).step v entry data none = put v hidden place data 0 none := by
      rw [step, hopen]
    rw [put_none] at hstep
    dsimp only
    generalize v.writeAt place data = w at hstep ⊢
    obtain ⟨change, outcome⟩ := w
    cases outcome with
    | error fault => exact .step hstep (does_failed _ fault)
    | ok _ =>
      dsimp only at hstep ⊢
      rcases does_moving (Change.applyAll v [change]) entry data hidden with
        ⟨fault, hmove, hmoving⟩ | ⟨moved, hmove, hmoving⟩
      · rw [hmove]
        exact .step hstep hmoving
      · rw [hmove]
        exact .step hstep hmoving

/-- **In whole pieces a job takes the steps of storing without a break.** -/
lemma start_does (v : Volume) (entry : Path) (data : Bytes) :
    Does entry data v (.start entry) (store v entry data).1 (store v entry data).2 := by
  have hmakes := v.makeDirectories_makes entry.parent
  have hjob : ∀ {steps result}, Does entry data (Change.applyAll v (v.makeDirectories entry.parent).1)
      (afterMaking entry [] (v.makeDirectories entry.parent).2) steps result →
        Does entry data v (.start entry) ((v.makeDirectories entry.parent).1 ++ steps) result :=
    fun h => does_of_makes hmakes h
  rw [store]
  generalize v.makeDirectories entry.parent = md at hjob
  obtain ⟨made, outcome⟩ := md
  cases outcome with
  | error fault => simpa using hjob (does_failed _ fault)
  | ok _ =>
    dsimp only at hjob ⊢
    rw [afterMaking, after] at hjob
    cases htemp : temporary? entry with
    | none =>
      rw [htemp] at hjob
      simpa using hjob (.ended _ _)
    | some hidden =>
      rw [htemp] at hjob
      exact hjob (does_opening _ entry data hidden)

/-! ## Any pieces -/

/-- A job leads to a volume and a result when it is done alone and in whole pieces. -/
def Leads (entry : Path) (data : Bytes) (v : Volume) (job : Job) (w : Volume)
    (result : Except StoreFault Unit) : Prop :=
  ∃ steps, Does entry data v job steps result ∧ Change.applyAll v steps = w

/-- A step in a whole piece does not change what a job leads to. -/
lemma Leads.of_whole {w : Volume} (hstep : job.step v entry data none = (steps, next))
    (h : Leads entry data (Change.applyAll v steps) next w result) :
    Leads entry data v job w result := by
  obtain ⟨rest, hdoes, rfl⟩ := h
  exact ⟨steps ++ rest, .step hstep hdoes, Change.applyAll_append v steps rest⟩

/-- What can be written at a location does not depend on what is there. -/
lemma writeAt_apply (v : Volume) (change : Change) (l : Location) (b : Bytes) :
    (change.apply v).writeAt l b = v.writeAt l b := by
  rw [Volume.writeAt, Volume.writeAt, Change.apply_refusals]

/-- What is written at a location makes what was written there before forgotten. -/
lemma applyAll_writeAt (v : Volume) (l : Location) (a b : Bytes) :
    Change.applyAll (Change.applyAll v [.write l a]) [(v.writeAt l b).1] =
      Change.applyAll v [(v.writeAt l b).1] := by
  rcases v.writeAt_cases l b with ⟨-, hwrite⟩ | ⟨most, reason, -, -, hwrite⟩ <;> rw [hwrite] <;>
    exact Change.write_write v l a _

/-- A piece of the data, as the number of bytes that are there after it. -/
lemma put_eq (v : Volume) (hidden : Path) (place : Location) (data : Bytes) (written : Nat)
    (piece : Option Nat) :
    ∃ total, put v hidden place data written piece = ([(v.writeAt place (data.take total)).1],
      match (v.writeAt place (data.take total)).2 with
      | .ok () => if total < data.length then .writing hidden place total else .moving hidden
      | .error fault => failed fault) := by
  cases piece with
  | none => exact ⟨data.length, by rw [put_none, List.take_length, if_neg (lt_irrefl _)]⟩
  | some size =>
    refine ⟨written + size, ?_⟩
    simp only [put]
    split <;> next heq => rw [heq]

/-- A piece of a write does not change what a job leads to: the next one holds it too.

**Proof sketch.** If the piece is written, then the next step of the job writes the same as it would
have without it. If it is refused, then so is the whole, at the same place. -/
lemma Leads.of_put {w : Volume} {hidden : Path} {place : Location} {written : Nat}
    {piece : Option Nat} (hstep : job.step v entry data none = put v hidden place data written none)
    (h : Leads entry data (Change.applyAll v (put v hidden place data written piece).1)
      (put v hidden place data written piece).2 w result) :
    Leads entry data v job w result := by
  obtain ⟨total, htotal⟩ := put_eq v hidden place data written piece
  rw [htotal] at h
  rcases le_or_gt data.length total with hall | hpart
  · rw [List.take_of_length_le hall, if_neg (by omega), ← put_none v hidden place data written] at h
    exact .of_whole hstep h
  · rcases v.writeAt_cases place (data.take total) with
      ⟨-, hwrite⟩ | ⟨most, reason, hlimit, hmost, hwrite⟩
    · rw [hwrite, if_pos hpart] at h
      dsimp only at h
      obtain ⟨steps, hdoes, rfl⟩ := h
      cases hdoes with
      | @step _ _ _ steps rest _ hput hrest =>
        rw [step, put_none, Change.applyAll_cons, Change.applyAll_nil, writeAt_apply] at hput
        cases hput
        rw [applyAll_writeAt] at hrest
        refine ⟨_ ++ rest, .step (hstep.trans (put_none ..)) hrest, ?_⟩
        rw [Change.applyAll_append, Change.applyAll_append, applyAll_writeAt]
    · rw [List.length_take] at hmost
      have hwhole : v.writeAt place data = _ := Volume.writeAt_of_limit hlimit (by omega)
      have htake : (data.take total).take most = data.take most := by
        rw [List.take_take, min_eq_left (by omega)]
      rw [hwrite, htake] at h
      rw [put_none, hwhole] at hstep
      exact .of_whole hstep h

/-- **No step changes what a job leads to**, whatever its piece. -/
lemma Leads.of_step {w : Volume} {piece : Option Nat}
    (h : Leads entry data (Change.applyAll v (job.step v entry data piece).1)
      (job.step v entry data piece).2 w result) : Leads entry data v job w result := by
  cases job with
  | making directory climbing below => exact .of_whole rfl h
  | checking directory fault below => exact .of_whole rfl h
  | opening hidden =>
    rw [step] at h
    cases hopen : v.writable hidden with
    | error fault =>
      rw [hopen] at h
      exact .of_whole (by rw [step, hopen]) h
    | ok place =>
      rw [hopen] at h
      exact .of_put (by rw [step, hopen]) h
  | writing hidden place written => exact .of_put rfl h
  | moving hidden => exact .of_whole rfl h
  | ended result => exact .of_whole rfl h

/-- A job that ends leads where it ends. -/
lemma leads_of_run {pieces : List (Option Nat)}
    (h : (run entry data v job pieces).2 = .ended result) :
    Leads entry data v job (Change.applyAll v (run entry data v job pieces).1) result := by
  induction pieces generalizing v job with
  | nil =>
    obtain rfl : job = .ended result := h
    exact ⟨[], .ended v result, rfl⟩
  | cons piece pieces ih =>
    rw [run] at h ⊢
    dsimp only at h ⊢
    rw [Change.applyAll_append]
    exact .of_step (ih h)

/-- **A job comes to the same in whatever pieces** its hidden file is written. -/
lemma run_start {pieces : List (Option Nat)}
    (h : run entry data v (.start entry) pieces = (steps, .ended result)) :
    result = (store v entry data).2 ∧
      Change.applyAll v steps = Change.applyAll v (store v entry data).1 := by
  obtain ⟨whole, hdoes, hvolume⟩ := leads_of_run (congrArg Prod.snd h)
  rw [h] at hvolume
  obtain ⟨rfl, rfl⟩ := hdoes.unique (start_does v entry data)
  exact ⟨rfl, hvolume.symm⟩

end Fixture.Job

end ParseBench
