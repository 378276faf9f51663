import ParseBench.Fixture.Cache
import ParseBench.Proofs.Fixture.Store
import ParseBench.Proofs.Http.Fetch
import ParseBench.Proofs.Text.Utf8
import ParseBench.Proofs.Url.Target
import Mathlib.Data.List.Nodup

set_option relaxedAutoImplicit false
set_option autoImplicit false

/-!
# Entries of the cache

The names that a list of URLs is checked for differ, so that the entries of different fixtures are
in different places. Only an entry by the name of a hidden file could be in the way of another. A
name of a single dot stands for the directory of the cache itself.

## Main definitions

* `ParseBench.Fixture.Accepted` — what the check of a list of URLs ensures.
* `ParseBench.Fixture.hiddenName` — the name of the hidden file of a fixture.
* `ParseBench.Fixture.Unhidden` — no fixture of a list has the name of the hidden file of another.
* `ParseBench.Fixture.content?` — the content of an entry.

## Main results

* `ParseBench.Fixture.checkUrls_eq_ok_iff` — what the check accepts.
* `ParseBench.Fixture.readEntry_eq_ok_iff` — what is read as an entry.
* `ParseBench.Fixture.look_eq_of_content?` — an entry is looked for by its content alone.
* `ParseBench.Fixture.look_of_readEntry` — an entry that was stored is found.
* `ParseBench.Fixture.content?_of_underway` — storing an entry does not touch another.
-/

namespace ParseBench

open ParseBench.Text (Bytes CodePoint Points)

/-! ## Ordinary texts -/

namespace Text.Points

/-- Code points are read as characters one by one. -/
lemma toList_lossy (s : Points) : s.lossy.toList = s.map CodePoint.shape := by
  rw [lossy, String.toList_ofList, shape]

/-- The code points of a text are read as that text. -/
lemma lossy_ofString (s : String) : (ofString s).lossy = s := by
  rw [lossy, shape, ofString, ofChars, List.map_map]
  have hid : CodePoint.shape ∘ CodePoint.char = id := rfl
  rw [hid, List.map_id, String.ofList_toList]

/-- The code points of a text are a text. -/
lemma isText_ofString (s : String) : (ofString s).isText = true := by
  simp [isText, ofString, ofChars, CodePoint.isSurrogate]

/-- An ordinary text is the one that it is taken for. -/
lemma ofString_lossy {s : Points} (h : s.isText = true) : ofString s.lossy = s := by
  rw [ofString, toList_lossy, ofChars, List.map_map]
  refine (List.map_congr_left fun p hp => ?_).trans (List.map_id s)
  have hchar : p.isSurrogate = false := by simpa using List.all_eq_true.1 h p hp
  cases p with
  | char c => rfl
  | surrogate u => simp [CodePoint.isSurrogate] at hchar

/-- Two texts that are read alike are equal. -/
lemma lossy_injective {s t : Points} (hs : s.isText = true) (ht : t.isText = true)
    (h : s.lossy = t.lossy) : s = t := by
  rw [← ofString_lossy hs, ← ofString_lossy ht, h]

/-- Reading code points as characters goes piece by piece. -/
lemma lossy_append (s t : Points) : (s ++ t).lossy = s.lossy ++ t.lossy := by
  rw [← String.toList_inj, String.toList_append, toList_lossy, toList_lossy, toList_lossy,
    List.map_append]

end Text.Points

namespace Fixture

open ParseBench.Bench (Config)
open ParseBench.Files

/-! ## The check of names -/

/-- What the check of a list of URLs ensures: every fixture has the name that its URL gives it, and
the names differ. -/
structure Accepted (named : List Named) : Prop where
  identifier : ∀ n ∈ named, identifier n.url = .ok n.name
  nodup : (named.map Named.name).Nodup

/-- URLs are named exactly if every one has an identifier, and each keeps its own. -/
lemma nameAll_eq_ok_iff {urls : List Points} {named : List Named} :
    nameAll urls = .ok named ↔
      named.map Named.url = urls ∧ ∀ n ∈ named, identifier n.url = .ok n.name := by
  have hone : ∀ url n, (identifier url).map (Named.mk url) = .ok n ↔
      n.url = url ∧ identifier n.url = .ok n.name := by
    intro url n
    constructor
    · intro h
      cases hname : identifier url with
      | error e => simp [hname, Except.map] at h
      | ok name =>
        rw [hname] at h
        cases h
        exact ⟨rfl, hname⟩
    · rintro ⟨rfl, h⟩
      rw [h]
      rfl
  constructor
  · intro h
    have hall := forall₂_of_mapM h
    clear h
    induction hall with
    | nil => simp
    | cons h _ ih =>
      obtain ⟨hurl, hid⟩ := (hone _ _).1 h
      refine ⟨by rw [List.map_cons, hurl, ih.1], fun n hn => ?_⟩
      rcases List.mem_cons.1 hn with rfl | hn
      · exact hid
      · exact ih.2 n hn
  · rintro ⟨rfl, h⟩
    induction named with
    | nil => rfl
    | cons n named ih =>
      rw [nameAll, List.map_cons, List.mapM_cons, bind_eq_ok_iff]
      refine ⟨n, (hone _ _).2 ⟨rfl, h n (by simp)⟩, bind_eq_ok_iff.2 ⟨named, ?_, rfl⟩⟩
      exact ih fun m hm => h m (by simp [hm])

/-- There is no clash exactly if all names differ. -/
lemma firstClash_eq_none_iff {named seen : List Named} (hseen : (seen.map Named.name).Nodup) :
    firstClash seen named = none ↔ ((seen ++ named).map Named.name).Nodup := by
  induction named generalizing seen with
  | nil => simpa [firstClash] using hseen
  | cons n named ih =>
    rw [firstClash]
    cases hfind : seen.find? fun s => s.name = n.name with
    | some s =>
      have hname : s.name = n.name := by simpa using List.find?_some hfind
      simp only [reduceCtorEq, false_iff]
      intro hnodup
      rw [List.map_append, List.nodup_append] at hnodup
      exact hnodup.2.2 s.name (List.mem_map_of_mem (List.mem_of_find?_eq_some hfind)) n.name
        (by simp) hname
    | none =>
      have hnew : n.name ∉ seen.map Named.name := by
        intro hmem
        obtain ⟨s, hs, hname⟩ := List.mem_map.1 hmem
        exact absurd hname (by simpa using List.find?_eq_none.1 hfind s hs)
      have hconcat : ((seen ++ [n]).map Named.name).Nodup := by
        rw [List.map_append, List.map_singleton, ← List.concat_eq_append]
        exact hseen.concat hnew
      dsimp only
      rw [ih hconcat, List.append_assoc, List.singleton_append]

/-- **What the check of a list of URLs accepts**: URLs that name fixtures, all by different
names. -/
lemma checkUrls_eq_ok_iff {urls : List Points} {named : List Named} :
    checkUrls urls = .ok named ↔ named.map Named.url = urls ∧ Accepted named := by
  rw [checkUrls, bind_eq_ok_iff]
  constructor
  · rintro ⟨all, hall, h⟩
    cases hname : nameAll urls with
    | error e => simp [hname, Except.mapError] at hall
    | ok all' =>
      rw [hname] at hall
      obtain rfl : all' = all := by simpa [Except.mapError] using hall
      cases hclash : firstClash [] all' with
      | some clash => simp [hclash] at h
      | none =>
        rw [hclash] at h
        cases h
        obtain ⟨hurls, hids⟩ := nameAll_eq_ok_iff.1 hname
        exact ⟨hurls, hids, (firstClash_eq_none_iff (by simp)).1 hclash⟩
  · rintro ⟨hurls, hids, hnodup⟩
    refine ⟨named, ?_, ?_⟩
    · rw [nameAll_eq_ok_iff.2 ⟨hurls, hids⟩]
      rfl
    · rw [(firstClash_eq_none_iff (by simp)).2 (by simpa using hnodup)]
      rfl

/-- A fixture is determined by its name. -/
lemma Accepted.eq_of_name {named : List Named} (h : Accepted named) {m n : Named} (hm : m ∈ named)
    (hn : n ∈ named) (hname : m.name = n.name) : m = n :=
  List.inj_on_of_nodup_map h.nodup hm hn hname

/-- A name is what follows the last slash of a path, and it is not empty. -/
lemma identifier_eq_ok_iff {url name : Points} :
    identifier url = .ok name ↔
      ∃ parts, Url.split url = .ok parts ∧ Url.afterLast '/' parts.path = name ∧ name ≠ [] := by
  rw [identifier]
  cases Url.split url with
  | error fault => simp
  | ok parts =>
    cases hlast : Url.afterLast '/' parts.path with
    | nil => simp [hlast, eq_comm]
    | cons p rest =>
      simp only [Except.ok.injEq, exists_eq_left', hlast]
      exact ⟨fun h => ⟨h, h ▸ List.cons_ne_nil p rest⟩, And.left⟩

/-- A name holds no slashes, question marks, hashes, tabs and line breaks. -/
lemma notMem_identifier {url name : Points} {c : Char}
    (hc : c ∈ ['/', '?', '#', '\t', '\r', '\n']) (h : identifier url = .ok name) :
    c ∉ name.map CodePoint.shape := by
  obtain ⟨parts, hsplit, rfl, -⟩ := identifier_eq_ok_iff.1 h
  rw [Url.afterLast, List.map_reverse, List.mem_reverse]
  intro hmem
  obtain ⟨p, hp, hshape⟩ := List.mem_map.1 hmem
  rcases List.mem_cons.1 hc with rfl | hc
  · simpa [Url.shape_eq, hshape] using List.mem_takeWhile_imp hp
  · have hcut : Url.isRemoved c = true ∨ c = '?' ∨ c = '#' := by
      simp only [List.mem_cons, List.not_mem_nil, or_false] at hc
      rcases hc with rfl | rfl | rfl | rfl | rfl <;> decide
    have hpath := List.mem_reverse.1 ((List.takeWhile_sublist _).subset hp)
    exact Url.notMem_path hcut hsplit (List.mem_map.2 ⟨p, hpath, hshape⟩)

/-- A name is not empty and holds no slash. -/
lemma identifier_shape {url name : Points} (h : identifier url = .ok name) :
    name ≠ [] ∧ '/' ∉ name.map CodePoint.shape := by
  obtain ⟨parts, -, -, hne⟩ := identifier_eq_ok_iff.1 h
  exact ⟨hne, notMem_identifier (by decide) h⟩

/-! ## The paths of entries -/

/-- A text without a slash has no root. -/
lemma rootOf_of_not_mem {s : List Char} (h : '/' ∉ s) : Path.rootOf s = "" := by
  rw [Path.rootOf.eq_def]
  split <;> simp_all

/-- A name of a single dot stands for the directory of the cache. -/
lemma entryPath_dot (c : Config) {name : Points} (h : name.lossy = ".") :
    entryPath c name = c.cache := by
  rw [entryPath, h, Path.child, Path.join]
  have hdot : Path.ofString "." = ⟨"", []⟩ := by decide
  rw [hdot]
  simp

/-- Any other name stands for a file in the directory of the cache. -/
lemma entryPath_of_ne (c : Config) {url name : Points} (hid : identifier url = .ok name)
    (h : name.lossy ≠ ".") : entryPath c name = ⟨c.cache.root, c.cache.names ++ [name.lossy]⟩ := by
  obtain ⟨hne, hslash⟩ := identifier_shape hid
  rw [← Points.toList_lossy] at hslash
  have hnil : name.lossy.toList ≠ [] := by
    rw [Points.toList_lossy]
    simpa using hne
  have hdot : name.lossy.toList ≠ ['.'] := fun hl => h (String.toList_inj.1 hl)
  rw [entryPath, Path.child, Path.join, Path.ofString, rootOf_of_not_mem hslash,
    Text.splitOnChar_of_not_mem hslash]
  simp [hnil, hdot]

/-- **The name of a fixture that can be fetched is an ordinary text.** -/
lemma isText_of_fetch {follow : Bool} {net : Http.Network} {url name : Points} {content : String}
    (hid : identifier url = .ok name)
    (h : (Http.fetch follow net url).result? = some (.ok content)) : name.isText = true := by
  obtain ⟨target, htarget, hscheme⟩ := Http.scheme_of_fetch h
  rw [identifier] at hid
  split at hid
  · cases hid
  · next parts hsplit =>
    have htext := Url.isText_afterLast_of_request hsplit htarget hscheme
    split at hid
    · cases hid
    · cases hid
      exact htext

/-- The name of the hidden file of a fixture. -/
def hiddenName (name : Points) : Points := .ofString "." ++ name ++ .ofString ".tmp"

/-- No URL of a list names a fixture like the hidden file of another. -/
def Unhidden (urls : List Points) : Prop :=
  ∀ url ∈ urls, ∀ url' ∈ urls, ∀ name, identifier url' = .ok name →
    identifier url ≠ .ok (hiddenName name)

/-- The hidden name of an entry is read as its temporary name. -/
lemma lossy_hiddenName (name : Points) : (hiddenName name).lossy = temporaryName name.lossy := by
  rw [hiddenName, Points.lossy_append, Points.lossy_append, Points.lossy_ofString,
    Points.lossy_ofString, temporaryName]

/-- The hidden name of a text is a text. -/
lemma isText_hiddenName {name : Points} (h : name.isText = true) :
    (hiddenName name).isText = true := by
  have h1 := Points.isText_ofString "."
  have h2 := Points.isText_ofString ".tmp"
  rw [Points.isText] at *
  rw [hiddenName, List.all_append, List.all_append, h1, h2, h]
  rfl

/-! ## What is read as an entry -/

/-- The content of an entry, if it can be read. -/
def content? (c : Config) (v : Volume) (name : Points) : Option Bytes :=
  (readEntry c v name).toOption

/-- An entry has a content exactly if it can be read. -/
lemma content?_eq_some_iff {c : Config} {v : Volume} {name : Points} {b : Bytes} :
    content? c v name = some b ↔ readEntry c v name = .ok b := by
  rw [content?]
  cases readEntry c v name <;> simp [Except.toOption]

/-- An entry has the same content in two volumes exactly if the same bytes can be read there. -/
lemma content?_eq_iff {c : Config} {v w : Volume} {name : Points} :
    content? c v name = content? c w name ↔
      ∀ b, readEntry c v name = .ok b ↔ readEntry c w name = .ok b := by
  simp only [← content?_eq_some_iff]
  constructor
  · intro h b
    rw [h]
  · intro h
    exact Option.ext h

/-- An ordinary name can always be written as a file name. -/
lemma unencodable?_of_isText (c : Config) {name : Points} (h : name.isText = true) :
    unencodable? c name = none := by
  have hall : ∀ p ∈ name, fitsFileName p = true := by
    intro p hp
    have hp' : p.isSurrogate = false := by simpa using List.all_eq_true.1 h p hp
    simp [fitsFileName, hp']
  rw [unencodable?, List.span_eq_takeWhile_dropWhile, List.dropWhile_eq_nil_iff.2 hall]

/-- An entry that is named by a text is read at its path. -/
lemma readEntry_of_isText (c : Config) (v : Volume) {name : Points} (h : name.isText = true) :
    readEntry c v name = v.read (entryPath c name) := by
  simp [readEntry, h]

/-- Only an ordinary name is that of an entry. -/
lemma isText_of_readEntry {c : Config} {v : Volume} {name : Points} {b : Bytes}
    (h : readEntry c v name = .ok b) : name.isText = true := by
  by_contra htext
  rw [Bool.not_eq_true] at htext
  simp only [readEntry, htext, Bool.false_or] at h
  split at h
  · next hnul => simp [Volume.read_eq_nul_iff.2 hnul] at h
  · cases h

/-- Whether a path of an entry is malformed does not depend on the volume. -/
lemma readEntry_eq_nul_iff {c : Config} {v : Volume} {name : Points} :
    readEntry c v name = .error .nul ↔ (entryPath c name).hasNul = true := by
  simp only [readEntry]
  split
  · exact Volume.read_eq_nul_iff
  · next h =>
    simp only [Bool.or_eq_true, not_or, Bool.not_eq_true] at h
    simp [Volume.faultAt, h.2]

/-- **An entry is looked for by its content alone.** -/
lemma look_eq_of_content? {c : Config} {v w : Volume} {name : Points}
    (h : content? c v name = content? c w name) : look c v name = look c w name := by
  rw [content?_eq_iff] at h
  rw [look, look]
  cases unencodable? c name with
  | some fault => rfl
  | none =>
    dsimp only
    cases hv : readEntry c v name with
    | ok b => rw [(h b).1 hv]
    | error e =>
      cases hw : readEntry c w name with
      | ok b =>
        rw [(h b).2 hw] at hv
        cases hv
      | error e' =>
        have hnul : e = .nul ↔ e' = .nul := by
          have h1 := @readEntry_eq_nul_iff c v name
          have h2 := @readEntry_eq_nul_iff c w name
          rw [hv] at h1
          rw [hw] at h2
          simpa using h1.trans h2.symm
        cases e <;> cases e' <;> simp_all

/-- What is found is the content of the entry. -/
lemma look_eq_hit_iff {c : Config} {v : Volume} {name : Points} {content : String} :
    look c v name = .hit content ↔
      ∃ b, readEntry c v name = .ok b ∧ Text.Utf8.decode b = .ok content := by
  constructor
  · intro h
    rw [look] at h
    split at h
    · cases h
    · split at h
      · next b hb =>
        split at h
        · next hdecode =>
          cases h
          exact ⟨b, hb, hdecode⟩
        · cases h
      · cases h
      · cases h
  · rintro ⟨b, hb, hdecode⟩
    rw [look, unencodable?_of_isText c (isText_of_readEntry hb)]
    dsimp only
    rw [hb]
    dsimp only
    rw [hdecode]

/-- What is missing cannot be read. -/
lemma content?_of_miss {c : Config} {v : Volume} {name : Points} (h : look c v name = .miss) :
    content? c v name = none := by
  rw [look] at h
  split at h
  · cases h
  · split at h
    · split at h <;> cases h
    · cases h
    · next hread => rw [content?, hread, Except.toOption]

/-- **An entry that holds a text is found.** -/
lemma look_of_readEntry {c : Config} {v : Volume} {name : Points} {content : String}
    (h : readEntry c v name = .ok (Text.Utf8.encode content)) : look c v name = .hit content :=
  look_eq_hit_iff.2 ⟨_, h, Text.Utf8.decode_encode content⟩

/-! ## Caches in a directory without names of two dots -/

section Plain

variable {c : Config} {v : Volume} {url name : Points}

/-- The directory of an entry has no names of two dots either. -/
lemma entryPath_dots (hdots : ".." ∉ c.cache.names) (hid : identifier url = .ok name) :
    ".." ∉ (entryPath c name).parent.names := by
  by_cases hdot : name.lossy = "."
  · rw [entryPath_dot c hdot]
    exact Volume.parent_dots hdots
  · rw [entryPath_of_ne c hid hdot, Path.parent, List.dropLast_concat]
    exact hdots

/-- **What is read as an entry** is the file at the location of its path. -/
lemma readEntry_eq_ok_iff (hv : v.WellFormed) (hdots : ".." ∉ c.cache.names)
    (hid : identifier url = .ok name) {b : Bytes} :
    readEntry c v name = .ok b ↔
      (name.isText = true ∧ name.lossy ≠ ".." ∧ (entryPath c name).Fits) ∧
      v.node? (v.locate (entryPath c name)) = some (.file b) := by
  by_cases htext : name.isText = true
  · rw [readEntry_of_isText c v htext]
    by_cases hname : name.lossy = ".."
    · have hpath := entryPath_of_ne c hid (by rw [hname]; decide)
      rw [Volume.read_eq_ok_iff hv]
      simp only [hname, ne_eq, not_true_eq_false, false_and, and_false, iff_false]
      rintro ⟨-, d, x, hr, -⟩
      obtain ⟨ns, hns, -, -, hx, -⟩ := Volume.resolve_eq_named_iff.1 hr
      rw [hpath, hname] at hns
      exact hx (by simpa using (List.append_inj' hns rfl).2.symm)
    · have hplain : ".." ∉ (entryPath c name).names := by
        by_cases hdot : name.lossy = "."
        · rw [entryPath_dot c hdot]
          exact hdots
        · rw [entryPath_of_ne c hid hdot]
          simp [hdots, Ne.symm hname]
      rw [Volume.read_eq_ok_iff_locate hv hplain]
      simp [htext, hname]
  · constructor
    · intro h
      exact absurd (isText_of_readEntry h) htext
    · rintro ⟨⟨h, -⟩, -⟩
      exact absurd h htext

/-- Two volumes with the same files in the place of an entry have the same content there. -/
lemma content?_eq_of_node? {w : Volume} (hv : v.WellFormed) (hw : w.WellFormed)
    (hdots : ".." ∉ c.cache.names) (hid : identifier url = .ok name)
    (hcurrent : w.current = v.current)
    (h : name.isText = true → ∀ b, w.node? (v.locate (entryPath c name)) = some (.file b) ↔
      v.node? (v.locate (entryPath c name)) = some (.file b)) :
    content? c w name = content? c v name := by
  rw [content?_eq_iff]
  intro b
  rw [readEntry_eq_ok_iff hw hdots hid, readEntry_eq_ok_iff hv hdots hid,
    Volume.locate_eq_of_current hcurrent]
  constructor
  · rintro ⟨hstatic, hfile⟩
    exact ⟨hstatic, (h hstatic.1 b).1 hfile⟩
  · rintro ⟨hstatic, hfile⟩
    exact ⟨hstatic, (h hstatic.1 b).2 hfile⟩

/-! ### Places of different entries -/

variable {url' name' : Points}

/-- The entry of the name "." lies at the cache directory itself. -/
lemma locate_dot (v : Volume) (h : name.lossy = ".") :
    v.locate (entryPath c name) = v.locate c.cache := by
  rw [entryPath_dot c h]

/-- Every other entry lies in the cache directory, under its name. -/
lemma locate_of_ne (v : Volume) (hid : identifier url = .ok name) (h : name.lossy ≠ ".") :
    v.locate (entryPath c name) = v.locate c.cache ++ [name.lossy] := by
  rw [entryPath_of_ne c hid h, Volume.locate, Volume.locate, List.append_assoc]
  rfl

/-- The parent of such an entry is the cache directory. -/
lemma locate_parent_of_ne (v : Volume) (hid : identifier url = .ok name) (h : name.lossy ≠ ".") :
    v.locate (entryPath c name).parent = v.locate c.cache := by
  rw [entryPath_of_ne c hid h, Path.parent, List.dropLast_concat]

/-- The last part of the path of such an entry is its name. -/
lemma name_of_ne (hid : identifier url = .ok name) (h : name.lossy ≠ ".") :
    (entryPath c name).name = name.lossy := by
  rw [entryPath_of_ne c hid h]
  exact name_eq rfl

/-- Different entries are in different places. -/
lemma locate_entryPath_ne (v : Volume) (hid : identifier url = .ok name)
    (hid' : identifier url' = .ok name') (htext : name.isText = true) (htext' : name'.isText = true)
    (hne : name ≠ name') : v.locate (entryPath c name) ≠ v.locate (entryPath c name') := by
  by_cases hdot : name.lossy = "." <;> by_cases hdot' : name'.lossy = "."
  · exact absurd (Points.lossy_injective htext htext' (hdot.trans hdot'.symm)) hne
  · rw [locate_dot v hdot, locate_of_ne v hid' hdot']
    simp
  · rw [locate_of_ne v hid hdot, locate_dot v hdot']
    simp
  · rw [locate_of_ne v hid hdot, locate_of_ne v hid' hdot']
    intro heq
    exact hne (Points.lossy_injective htext htext' (by simpa using heq))

/-- An entry is in the place of a hidden file only by its name. -/
lemma locate_hiddenPath_entryPath_ne (v : Volume) (hid : identifier url = .ok name)
    (hid' : identifier url' = .ok name') (htext : name.isText = true) (htext' : name'.isText = true)
    (hne : name ≠ hiddenName name') : (entryPath c name').names = [] ∨
      v.locate (entryPath c name) ≠ v.locate (hiddenPath (entryPath c name')) := by
  by_cases hdot' : name'.lossy = "."
  · by_cases hnil : (entryPath c name').names = []
    · exact .inl hnil
    · refine .inr fun heq => ?_
      rw [entryPath_dot c hdot'] at hnil heq
      by_cases hdot : name.lossy = "."
      · rw [entryPath_dot c hdot] at heq
        exact locate_hiddenPath_ne v hnil heq
      · have hlen := congrArg List.length heq
        rw [locate_of_ne v hid hdot, locate_hiddenPath, locate_entry v hnil] at hlen
        simp at hlen
  · refine .inr ?_
    rw [locate_hiddenPath, locate_parent_of_ne v hid' hdot', name_of_ne hid' hdot']
    by_cases hdot : name.lossy = "."
    · rw [locate_dot v hdot]
      simp
    · rw [locate_of_ne v hid hdot]
      intro heq
      refine hne (Points.lossy_injective htext (isText_hiddenName htext') ?_)
      rw [lossy_hiddenName]
      simpa using heq

/-- **Storing an entry does not touch another**, as long as the other has not the name of its hidden
file. -/
lemma content?_of_underway {u : Volume} (hv : v.WellFormed) (hu : u.WellFormed)
    (hdots : ".." ∉ c.cache.names) (hid : identifier url = .ok name)
    (hid' : identifier url' = .ok name') (htext' : name'.isText = true)
    (hne : name ≠ hiddenName name') (h : Underway v u (entryPath c name')) :
    content? c u name = content? c v name := by
  refine content?_eq_of_node? hv hu hdots hid h.current fun htext b => ?_
  have hplace := locate_hiddenPath_entryPath_ne (c := c) v hid hid' htext htext' hne
  rcases h.elsewhere _ hplace with heq | ⟨-, hnone, hdir⟩
  · rw [heq]
  · simp [hnone, hdir]

end Plain

end Fixture

end ParseBench
