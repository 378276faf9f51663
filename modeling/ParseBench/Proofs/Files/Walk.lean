import ParseBench.Files.Access
import ParseBench.Proofs.Files.Volume
import Mathlib.Data.List.Basic

set_option relaxedAutoImplicit false
set_option autoImplicit false

/-!
# Walking along paths

An access by path first walks along all names of the path but the last, from directory to directory,
and then finds a place in the last directory. Whatever was reached once is reached in the same way
for as long as directories are kept.

## Main definitions

* `ParseBench.Files.Volume.origin`, `ParseBench.Files.Volume.walk` — where a path begins and where
  names lead from there.
* `ParseBench.Files.Volume.locate` — the location of a path without names of two dots.
* `ParseBench.Path.Fits` — the paths that the operating system takes.

## Main results

* `ParseBench.Files.Volume.resolve_eq_named_iff` — when a path denotes a name in a directory.
* `ParseBench.Files.Volume.Later.walk` — a walk is the same later on.
* `ParseBench.Files.Volume.read_eq_ok_iff`, `ParseBench.Files.Volume.writable_eq_ok_iff`,
  `ParseBench.Files.Volume.makeDirectory_eq_ok_iff`, `ParseBench.Files.Volume.replace_eq_ok_iff` —
  when an access succeeds.
* `ParseBench.Files.Volume.read_eq_ok_iff_locate` — what is read at a path without names of two
  dots.
-/

namespace ParseBench

open ParseBench.Text (Bytes)

/-- The operating system takes the path: neither the path nor a name in it is too long, and no name
holds the character that ends path texts. -/
structure Path.Fits (p : Path) : Prop where
  nul : p.hasNul = false
  length : p.text.utf8ByteSize ≤ Files.maxPath
  names : ∀ n ∈ p.names, n.utf8ByteSize ≤ Files.maxName

namespace Files

namespace Volume

/-! ## Walks -/

/-- Where a path begins. -/
def origin (v : Volume) (p : Path) : Location := if p.root = "" then v.current else []

/-- The directory that names lead to. -/
def walk (v : Volume) (from' : Location) : List String → Except OsError Location
  | [] => .ok from'
  | name :: rest =>
    match v.enter from' name with
    | .ok next => v.walk next rest
    | .error e => .error e

/-- The place of a name in a directory. -/
def placeIn (directory : Location) (name : String) : Except OsError Place :=
  if name = ".." then .ok (.directory directory.dropLast)
  else if maxName < name.utf8ByteSize then .error .nameTooLong
  else .ok (.named directory name)

/-- Following names is walking along all but the last of them. -/
lemma follow_concat (v : Volume) (ns : List String) (x : String) (f : Location) :
    v.follow f (ns ++ [x]) =
      match v.walk f ns with
      | .ok d => placeIn d x
      | .error e => .error e := by
  induction ns generalizing f with
  | nil => rfl
  | cons n ns ih =>
    obtain ⟨m, rest, hrest⟩ : ∃ m rest, ns ++ [x] = m :: rest := by
      cases ns with
      | nil => exact ⟨x, [], rfl⟩
      | cons m ns => exact ⟨m, ns ++ [x], rfl⟩
    rw [List.cons_append, walk, hrest, follow]
    · cases v.enter f n with
      | error e => rfl
      | ok d =>
        dsimp only
        rw [← hrest, ih]
    · simp

/-- A name can be entered exactly if it is the parent, or short enough and that of a directory. -/
lemma enter_eq_ok_iff {v : Volume} {f d : Location} {n : String} :
    v.enter f n = .ok d ↔ n = ".." ∧ d = f.dropLast ∨
      n ≠ ".." ∧ n.utf8ByteSize ≤ maxName ∧ v.node? (f ++ [n]) = some .directory ∧
        d = f ++ [n] := by
  rw [enter]
  by_cases hn : n = ".."
  · simp [hn, eq_comm]
  · by_cases hsize : maxName < n.utf8ByteSize
    · simp [hn, hsize, Nat.not_le_of_lt hsize]
    · rw [if_neg hn, if_neg hsize]
      cases v.node? (f ++ [n]) with
      | none => simp [hn]
      | some node =>
        cases node with
        | file b => simp [hn]
        | directory => simp [hn, Nat.le_of_not_lt hsize, eq_comm]

/-- Two rows of names are walked one after the other. -/
lemma walk_append (v : Volume) (first rest : List String) (f : Location) :
    v.walk f (first ++ rest) =
      match v.walk f first with
      | .ok d => v.walk d rest
      | .error e => .error e := by
  induction first generalizing f with
  | nil => rfl
  | cons n first ih =>
    rw [List.cons_append, walk, walk]
    cases v.enter f n with
    | ok d => exact ih d
    | error e => rfl

/-- A walk along one name more. -/
lemma walk_concat_eq_ok_iff {v : Volume} {f d : Location} {ns : List String} {x : String} :
    v.walk f (ns ++ [x]) = .ok d ↔ ∃ e, v.walk f ns = .ok e ∧ v.enter e x = .ok d := by
  rw [walk_append]
  cases hw : v.walk f ns with
  | error e => simp
  | ok e =>
    simp only [walk, Except.ok.injEq]
    constructor
    · intro h
      cases he : v.enter e x with
      | error e => simp [he] at h
      | ok next =>
        rw [he] at h
        cases h
        exact ⟨e, rfl, he⟩
    · rintro ⟨e, rfl, he⟩
      rw [he]

/-- What was entered once can be entered later on. -/
lemma Later.enter {v w : Volume} (h : v.Later w) {f d : Location} {n : String}
    (hd : v.enter f n = .ok d) : w.enter f n = .ok d := by
  rw [enter_eq_ok_iff] at hd ⊢
  rcases hd with hd | ⟨hn, hsize, hnode, hd⟩
  · exact .inl hd
  · exact .inr ⟨hn, hsize, h.directory _ hnode, hd⟩

/-- A walk that was possible once leads to the same directory later on. -/
lemma Later.walk {v w : Volume} (h : v.Later w) {ns : List String} {f d : Location}
    (hd : v.walk f ns = .ok d) : w.walk f ns = .ok d := by
  induction ns generalizing f with
  | nil => exact hd
  | cons n ns ih =>
    rw [Volume.walk] at hd ⊢
    cases he : v.enter f n with
    | error e => simp [he] at hd
    | ok next =>
      rw [he] at hd
      rw [h.enter he]
      exact ih hd

/-- Paths start on a later volume where they started before. -/
lemma Later.origin {v w : Volume} (h : v.Later w) (p : Path) : w.origin p = v.origin p := by
  rw [Volume.origin, Volume.origin, h.current]

namespace WellFormed

variable {v : Volume}

/-- The directory of a directory is a directory. -/
lemma dropLast (hv : v.WellFormed) {l : Location} (h : v.node? l = some .directory) :
    v.node? l.dropLast = some .directory :=
  hv.parent l (by simp [h])

/-- Paths start at a directory. -/
lemma origin (hv : v.WellFormed) (p : Path) : v.node? (v.origin p) = some .directory := by
  rw [Volume.origin]
  split
  · exact hv.current
  · rfl

/-- A walk from a directory leads to a directory. -/
lemma walk (hv : v.WellFormed) {ns : List String} {f d : Location}
    (hf : v.node? f = some .directory) (hd : v.walk f ns = .ok d) :
    v.node? d = some .directory := by
  induction ns generalizing f with
  | nil =>
    cases hd
    exact hf
  | cons n ns ih =>
    rw [Volume.walk] at hd
    cases he : v.enter f n with
    | error e => simp [he] at hd
    | ok next =>
      rw [he] at hd
      refine ih ?_ hd
      rcases enter_eq_ok_iff.1 he with ⟨-, rfl⟩ | ⟨-, -, hnode, rfl⟩
      · exact hv.dropLast hf
      · exact hnode

end WellFormed

/-! ## Places -/

/-- A path with a name is resolved by walking to its parent and looking for the name there. -/
lemma resolve_eq (v : Volume) {p : Path} {ns : List String} {x : String}
    (hp : p.names = ns ++ [x]) :
    v.resolve p =
      if maxPath < p.text.utf8ByteSize then .error .nameTooLong
      else match v.walk (v.origin p) ns with
        | .ok d => placeIn d x
        | .error e => .error e := by
  rw [resolve, hp, follow_concat]
  rfl

/-- A path without a name leads to where it starts. -/
lemma resolve_eq_nil (v : Volume) {p : Path} (hp : p.names = []) :
    v.resolve p =
      if maxPath < p.text.utf8ByteSize then .error .nameTooLong else .ok
        (.directory (v.origin p)) := by
  rw [resolve, hp]
  rfl

/-- A name is found as an entry of a directory exactly if it is not the parent and is short
enough. -/
lemma placeIn_eq_named_iff {d e : Location} {x y : String} :
    placeIn d x = .ok (.named e y) ↔ x ≠ ".." ∧ x.utf8ByteSize ≤ maxName ∧ e = d ∧ y = x := by
  rw [placeIn]
  by_cases hx : x = ".."
  · simp [hx]
  · by_cases hsize : maxName < x.utf8ByteSize
    · simp [hx, hsize, Nat.not_le_of_lt hsize]
    · simp [hx, hsize, Nat.le_of_not_lt hsize, eq_comm]

/-- When a path denotes a name in a directory. -/
lemma resolve_eq_named_iff {v : Volume} {p : Path} {d : Location} {y : String} :
    v.resolve p = .ok (.named d y) ↔ ∃ ns, p.names = ns ++ [y] ∧ p.text.utf8ByteSize ≤ maxPath ∧
      v.walk (v.origin p) ns = .ok d ∧ y ≠ ".." ∧ y.utf8ByteSize ≤ maxName := by
  rcases List.eq_nil_or_concat' p.names with hp | ⟨ns, x, hp⟩
  · rw [resolve_eq_nil v hp]
    simp only [hp]
    constructor
    · intro h
      split at h <;> simp at h
    · rintro ⟨ns, hns, -⟩
      simp at hns
  · rw [resolve_eq v hp, hp]
    by_cases hlen : maxPath < p.text.utf8ByteSize
    · simp only [hlen, if_true]
      constructor
      · intro h
        cases h
      · rintro ⟨ns', -, hle, -⟩
        omega
    · rw [if_neg hlen]
      constructor
      · intro h
        cases hw : v.walk (v.origin p) ns with
        | error e => simp [hw] at h
        | ok e =>
          rw [hw] at h
          obtain ⟨hx, hsize, rfl, rfl⟩ := placeIn_eq_named_iff.1 h
          exact ⟨ns, rfl, by omega, hw, hx, hsize⟩
      · rintro ⟨ns', hns, -, hw, hy, hsize⟩
        obtain ⟨rfl, hxy⟩ := List.append_inj' hns rfl
        obtain rfl : x = y := by simpa using hxy
        rw [hw]
        exact placeIn_eq_named_iff.2 ⟨hy, hsize, rfl, rfl⟩

/-- What a path denotes as a name in a directory it denotes in the same way later on. -/
lemma Later.resolve {v w : Volume} (h : v.Later w) {p : Path} {d : Location} {x : String}
    (hp : v.resolve p = .ok (.named d x)) : w.resolve p = .ok (.named d x) := by
  rw [resolve_eq_named_iff] at hp ⊢
  obtain ⟨ns, hns, hlen, hw, hx, hsize⟩ := hp
  refine ⟨ns, hns, hlen, ?_, hx, hsize⟩
  rw [h.origin]
  exact h.walk hw

/-- The directory in which a path denotes a name is one. -/
lemma WellFormed.resolve_named {v : Volume} (hv : v.WellFormed) {p : Path} {d : Location}
    {x : String} (h : v.resolve p = .ok (.named d x)) : v.node? d = some .directory := by
  obtain ⟨ns, -, -, hw, -⟩ := resolve_eq_named_iff.1 h
  exact hv.walk (hv.origin p) hw

/-- What a path denotes without a last name is a directory. -/
lemma WellFormed.resolve_directory {v : Volume} (hv : v.WellFormed) {p : Path} {l : Location}
    (h : v.resolve p = .ok (.directory l)) : v.node? l = some .directory := by
  rcases List.eq_nil_or_concat' p.names with hp | ⟨ns, x, hp⟩
  · rw [resolve_eq_nil v hp] at h
    split at h
    · cases h
    · cases h
      exact hv.origin p
  · rw [resolve_eq v hp] at h
    split at h
    · cases h
    · cases hw : v.walk (v.origin p) ns with
      | error e => simp [hw] at h
      | ok d =>
        rw [hw] at h
        simp only [placeIn] at h
        split at h
        · cases h
          exact hv.dropLast (hv.walk (hv.origin p) hw)
        · split at h <;> cases h

/-! ## Accesses -/

/-- A file is read where a path denotes its name in a directory. -/
lemma read_eq_ok_iff {v : Volume} (hv : v.WellFormed) {p : Path} {b : Bytes} :
    v.read p = .ok b ↔ p.hasNul = false ∧
      ∃ d x, v.resolve p = .ok (.named d x) ∧ v.node? (d ++ [x]) = some (.file b) := by
  rw [read, lookup]
  cases hnul : p.hasNul with
  | true => simp
  | false =>
    simp only [Bool.false_eq_true, if_false, true_and]
    cases hr : v.resolve p with
    | error e => simp
    | ok place =>
      cases place with
      | directory l => simp [Place.location, hv.resolve_directory hr]
      | named d x =>
        cases hn : v.node? (d ++ [x]) with
        | none => simp [Place.location, hn]
        | some node =>
          cases node <;> simp [Place.location, hn]

/-- Only the character that ends path texts makes a path malformed. -/
lemma read_eq_nul_iff {v : Volume} {p : Path} : v.read p = .error .nul ↔ p.hasNul = true := by
  rw [read]
  cases p.hasNul with
  | true => simp
  | false =>
    simp only [Bool.false_eq_true, if_false, iff_false]
    split <;> simp [faultAt]

/-- A path can be written exactly if it has no null character, its parent can be walked to, there is
no directory in its place, and the place is not refused. -/
lemma writable_eq_ok_iff {v : Volume} {p : Path} {l : Location} :
    v.writable p = .ok l ↔ p.hasNul = false ∧ ∃ d x, v.resolve p = .ok (.named d x) ∧
      l = d ++ [x] ∧ v.node? l ≠ some .directory ∧ v.refusals.opens l = none := by
  rw [writable]
  cases hnul : p.hasNul with
  | true => simp
  | false =>
    simp only [Bool.false_eq_true, if_false, true_and]
    cases hr : v.resolve p with
    | error e => simp
    | ok place =>
      cases place with
      | directory l => simp
      | named d x =>
        simp only [Except.ok.injEq, Place.named.injEq]
        constructor
        · intro h
          split at h
          · cases h
          · next hne =>
            split at h
            · cases h
            · next hopen =>
              cases h
              exact ⟨d, x, ⟨rfl, rfl⟩, rfl, hne, hopen⟩
        · rintro ⟨d, x, ⟨rfl, rfl⟩, rfl, hne, hopen⟩
          split
          · next h => exact absurd h hne
          · rw [hopen]

/-- A file takes a content: it may have so many bytes. -/
def Takes (v : Volume) (l : Location) (content : Bytes) : Prop :=
  ∀ most reason, v.refusals.limits l = some (most, reason) → content.length ≤ most

/-- What an open file takes is written as a whole. -/
lemma writeAt_of_takes {v : Volume} {l : Location} {content : Bytes} (h : v.Takes l content) :
    v.writeAt l content = (.write l content, .ok ()) := by
  rw [writeAt]
  cases hlimit : v.refusals.limits l with
  | none => rfl
  | some limit => exact if_pos (h _ _ hlimit)

/-- What an open file does not take is written in part. -/
lemma writeAt_of_limit {v : Volume} {l : Location} {content : Bytes} {most : Nat} {reason : Refusal}
    (hlimit : v.refusals.limits l = some (most, reason)) (h : most < content.length) :
    v.writeAt l content = (.write l (content.take most), .error (.cut reason)) := by
  rw [writeAt, hlimit]
  exact if_neg (Nat.not_le.2 h)

/-- An open file takes a content or a part of it. -/
lemma writeAt_cases (v : Volume) (l : Location) (content : Bytes) :
    v.Takes l content ∧ v.writeAt l content = (.write l content, .ok ()) ∨
      ∃ most reason, v.refusals.limits l = some (most, reason) ∧ most < content.length ∧
        v.writeAt l content = (.write l (content.take most), .error (.cut reason)) := by
  by_cases h : v.Takes l content
  · exact .inl ⟨h, writeAt_of_takes h⟩
  · rw [Takes] at h
    push Not at h
    obtain ⟨most, reason, hlimit, hlt⟩ := h
    exact .inr ⟨most, reason, hlimit, hlt, writeAt_of_limit hlimit hlt⟩

/-- **How writing a file ends**: it cannot be opened, it is written, or a part of it is. -/
lemma write_cases (v : Volume) (p : Path) (content : Bytes) :
    (∃ fault, v.writable p = .error fault ∧ v.write p content = ([], .error fault)) ∨
      ∃ l, v.writable p = .ok l ∧
        (v.Takes l content ∧ v.write p content = ([.write l content], .ok ()) ∨
          ∃ most reason, v.refusals.limits l = some (most, reason) ∧ most < content.length ∧
            v.write p content = ([.write l (content.take most)], .error (.cut reason))) := by
  cases hwritable : v.writable p with
  | error fault => exact .inl ⟨fault, rfl, by rw [write, hwritable]⟩
  | ok l =>
    have hwrite : v.write p content = ([(v.writeAt l content).1], (v.writeAt l content).2) := by
      rw [write, hwritable]
    refine .inr ⟨l, rfl, ?_⟩
    rcases v.writeAt_cases l content with ⟨htakes, heq⟩ | ⟨most, reason, hlimit, hlt, heq⟩
    · exact .inl ⟨htakes, by rw [hwrite, heq]⟩
    · exact .inr ⟨most, reason, hlimit, hlt, by rw [hwrite, heq]⟩

/-- When a write succeeds, and the step that it takes then. -/
lemma write_eq_ok_iff {v : Volume} {p : Path} {b : Bytes} {steps : List Change} :
    v.write p b = (steps, .ok ()) ↔
      ∃ l, v.writable p = .ok l ∧ v.Takes l b ∧ steps = [.write l b] := by
  constructor
  · intro h
    rcases v.write_cases p b with
      ⟨fault, -, heq⟩ | ⟨l, hwritable, ⟨htakes, heq⟩ | ⟨most, reason, -, -, heq⟩⟩
    · cases heq.symm.trans h
    · cases heq.symm.trans h
      exact ⟨l, hwritable, htakes, rfl⟩
    · cases heq.symm.trans h
  · rintro ⟨l, hwritable, htakes, rfl⟩
    rw [write, hwritable]
    simp only
    rw [writeAt_of_takes htakes]

/-- A directory can be made exactly if the path has no null character, its parent can be walked to,
there is nothing in its place, and the place is not refused. -/
lemma makeDirectory_eq_ok_iff {v : Volume} {p : Path} {ch : Change} :
    v.makeDirectory p = .ok ch ↔ p.hasNul = false ∧ ∃ d x, v.resolve p = .ok (.named d x) ∧
      v.node? (d ++ [x]) = none ∧ v.refusals.makes (d ++ [x]) = none ∧
      ch = .makeDirectory (d ++ [x]) := by
  rw [makeDirectory]
  cases hnul : p.hasNul with
  | true => simp
  | false =>
    simp only [Bool.false_eq_true, if_false, true_and]
    cases hr : v.resolve p with
    | error e => simp
    | ok place =>
      cases place with
      | directory l => simp
      | named d x =>
        simp only [Except.ok.injEq, Place.named.injEq]
        cases hn : v.node? (d ++ [x]) with
        | none =>
          cases hmakes : v.refusals.makes (d ++ [x]) with
          | none =>
            simp only [Except.ok.injEq]
            constructor
            · rintro rfl
              exact ⟨d, x, ⟨rfl, rfl⟩, hn, hmakes, rfl⟩
            · rintro ⟨d, x, ⟨rfl, rfl⟩, -, -, rfl⟩
              rfl
          | some reason =>
            simp only [reduceCtorEq, false_iff]
            rintro ⟨d, x, ⟨rfl, rfl⟩, -, hnone, -⟩
            simp [hmakes] at hnone
        | some node =>
          simp only [reduceCtorEq, false_iff]
          rintro ⟨d, x, ⟨rfl, rfl⟩, hnone, -⟩
          simp [hn] at hnone

/-- A file can be moved exactly if no path has a null character, both parents can be walked to, the
first place has a file, the move is not refused, and the second place has no directory. -/
lemma replace_eq_ok_iff {v : Volume} {s t : Path} {ch : Change} :
    v.replace s t = .ok ch ↔ s.hasNul = false ∧ t.hasNul = false ∧
      ∃ d x d' x', v.resolve s = .ok (.named d x) ∧ v.resolve t = .ok (.named d' x') ∧
        (∃ b, v.node? (d ++ [x]) = some (.file b)) ∧
        v.refusals.moves (d ++ [x]) (d' ++ [x']) = none ∧
        v.node? (d' ++ [x']) ≠ some .directory ∧ ch = .move (d ++ [x]) (d' ++ [x']) := by
  rw [replace]
  cases hs : s.hasNul with
  | true => simp
  | false =>
    cases ht : t.hasNul with
    | true => simp
    | false =>
      simp only [Bool.or_self, Bool.false_eq_true, if_false, true_and]
      cases hrs : v.resolve s with
      | error e => simp
      | ok place =>
        cases hrt : v.resolve t with
        | error e => simp
        | ok place' =>
          cases place with
          | directory l => simp
          | named d x =>
            cases place' with
            | directory l => simp
            | named d' x' =>
              dsimp only
              cases hn : v.node? (d ++ [x]) with
              | none => simp [hn]
              | some node =>
                cases hmoves : v.refusals.moves (d ++ [x]) (d' ++ [x']) with
                | some reason => simp [hmoves]
                | none =>
                  cases node with
                  | directory => simp [hn]
                  | file b =>
                    cases hn' : v.node? (d' ++ [x']) with
                    | none => simp [hn, hn', hmoves, eq_comm]
                    | some node' => cases node' <;> simp [hn, hn', hmoves, eq_comm]

/-! ## Paths without names of two dots -/

/-- The location of a path without names of two dots. -/
def locate (v : Volume) (p : Path) : Location := v.origin p ++ p.names

/-- Where a path leads depends on the current directory alone. -/
lemma locate_eq_of_current {v w : Volume} (h : w.current = v.current) (p : Path) :
    w.locate p = v.locate p := by
  rw [locate, locate, origin, origin, h]

/-- Paths are located on a later volume where they were before. -/
lemma Later.locate {v w : Volume} (h : v.Later w) (p : Path) : w.locate p = v.locate p :=
  locate_eq_of_current h.current.symm p

/-- Where names that are not two dots lead. -/
lemma walk_eq_ok_iff {v : Volume} (hv : v.WellFormed) {ns : List String} {f d : Location}
    (hf : v.node? f = some .directory) (hns : ".." ∉ ns) :
    v.walk f ns = .ok d ↔
      d = f ++ ns ∧ (∀ n ∈ ns, n.utf8ByteSize ≤ maxName) ∧ v.node? (f ++ ns) = some .directory := by
  induction ns using List.reverseRecOn generalizing d with
  | nil => simp [walk, hf, eq_comm]
  | append_singleton ns x ih =>
    have hx : x ≠ ".." := by
      rintro rfl
      simp at hns
    rw [walk_concat_eq_ok_iff]
    simp only [ih (fun h => hns (by simp [h])), enter_eq_ok_iff, hx, false_and, false_or, ne_eq,
      not_false_eq_true, true_and]
    constructor
    · rintro ⟨e, ⟨rfl, hsizes, -⟩, hsize, hnode, rfl⟩
      refine ⟨by simp, ?_, by rw [← List.append_assoc]; exact hnode⟩
      intro n hn
      rcases List.mem_append.1 hn with hn | hn
      · exact hsizes n hn
      · rw [List.mem_singleton.1 hn]
        exact hsize
    · rintro ⟨rfl, hsizes, hnode⟩
      rw [← List.append_assoc] at hnode
      refine ⟨f ++ ns, ⟨rfl, fun n hn => hsizes n (by simp [hn]), ?_⟩, hsizes x (by simp), hnode,
        by simp⟩
      simpa using hv.dropLast hnode

/-- When a path without names of two dots denotes a name in a directory. -/
lemma resolve_eq_named_iff_locate {v : Volume} (hv : v.WellFormed) {p : Path} {ns : List String}
    {x : String} (hp : p.names = ns ++ [x]) (hdots : ".." ∉ p.names) (hnul : p.hasNul = false)
    {d : Location} {y : String} :
    v.resolve p = .ok (.named d y) ↔ p.Fits ∧ d = v.origin p ++ ns ∧ y = x ∧
      v.node? (v.origin p ++ ns) = some .directory := by
  have hns : ".." ∉ ns := fun h => hdots (by simp [hp, h])
  have hx : x ≠ ".." := by
    rintro rfl
    simp [hp] at hdots
  rw [resolve_eq_named_iff]
  constructor
  · rintro ⟨ns', hns', hlen, hw, -, hsize⟩
    obtain ⟨rfl, hxy⟩ := List.append_inj' (hp.symm.trans hns') rfl
    obtain rfl : x = y := by simpa using hxy
    obtain ⟨rfl, hsizes, hnode⟩ := (walk_eq_ok_iff hv (hv.origin p) hns).1 hw
    refine ⟨⟨hnul, hlen, fun n hn => ?_⟩, rfl, rfl, hnode⟩
    rw [hp] at hn
    rcases List.mem_append.1 hn with hn | hn
    · exact hsizes n hn
    · rw [List.mem_singleton.1 hn]
      exact hsize
  · rintro ⟨hfits, rfl, rfl, hnode⟩
    refine ⟨ns, hp, hfits.length, ?_, hx, hfits.names _ (by simp [hp])⟩
    exact (walk_eq_ok_iff hv (hv.origin p) hns).2
      ⟨rfl, fun n hn => hfits.names n (by simp [hp, hn]), hnode⟩

/-- **What is read at a path without names of two dots** is the file at its location. -/
lemma read_eq_ok_iff_locate {v : Volume} (hv : v.WellFormed) {p : Path} (hdots : ".." ∉ p.names)
    {b : Bytes} : v.read p = .ok b ↔ p.Fits ∧ v.node? (v.locate p) = some (.file b) := by
  rw [read_eq_ok_iff hv, locate]
  rcases List.eq_nil_or_concat' p.names with hp | ⟨ns, x, hp⟩
  · rw [hp, List.append_nil, hv.origin p]
    have hnone : ∀ d x, v.resolve p ≠ .ok (.named d x) := by
      intro d x h
      rw [resolve_eq_nil v hp] at h
      split at h <;> cases h
    simp [hnone]
  · constructor
    · rintro ⟨hnul, d, y, hr, hnode⟩
      obtain ⟨hfits, rfl, rfl, -⟩ := (resolve_eq_named_iff_locate hv hp hdots hnul).1 hr
      exact ⟨hfits, by rw [hp, ← List.append_assoc]; exact hnode⟩
    · rintro ⟨hfits, hnode⟩
      rw [hp, ← List.append_assoc] at hnode
      refine ⟨hfits.nul, v.origin p ++ ns, x, ?_, hnode⟩
      refine (resolve_eq_named_iff_locate hv hp hdots hfits.nul).2 ⟨hfits, rfl, rfl, ?_⟩
      exact hv.directory_of_append (List.cons_ne_nil x []) (by rw [hnode]; simp)

end Volume

end Files

end ParseBench
