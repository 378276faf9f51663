import ParseBench.Fixture.Manifest
import ParseBench.Fixture.Resolution
import ParseBench.Proofs.Fixture.Entry

set_option relaxedAutoImplicit false
set_option autoImplicit false

/-!
# Manifests and the check of their URLs

A manifest and the cache check a list of URLs in two ways. The manifest takes one URL after the
other and compares its name with those before it; the cache names all URLs first and compares the
names then. Both accept the same lists: those whose URLs name fixtures, all by different names.

## Main definitions

* `ParseBench.Fixture.Nameable` — lists of URLs that name fixtures by different names.
* `ParseBench.Fixture.ListsUrls` — documents that list URLs.
* `ParseBench.Fixture.Rejected` — what the check of the cache ends with, and for which URL.

## Main results

* `ParseBench.Fixture.checkNames_iff_nameable`, `ParseBench.Fixture.checkUrls_iff_nameable` — both
  checks accept the same lists.
* `ParseBench.Fixture.manifestUrls_eq_ok_iff` — which documents are manifests.
* `ParseBench.Fixture.resolve_of_not_nameable` — a list that is not accepted has no effect.
* `ParseBench.Fixture.readManifest_agrees` — manifests and the cache agree.
-/

namespace ParseBench.Fixture

open ParseBench.Bench (Config)
open ParseBench.Files
open ParseBench.Http (Network)
open ParseBench.Log (Desk)
open ParseBench.Text (Points)
open ParseBench.Yaml (Outline)

/-! ## Lists of URLs -/

/-- URLs that name fixtures, all by different names. -/
def Nameable (urls : List Points) : Prop :=
  ∃ names, List.Forall₂ (fun url name => identifier url = .ok name) urls names ∧ names.Nodup

/-- URLs can be named exactly if there are names for them that are accepted. -/
lemma nameable_iff {urls : List Points} :
    Nameable urls ↔ ∃ named, named.map Named.url = urls ∧ Accepted named := by
  constructor
  · rintro ⟨names, hnames, hnodup⟩
    have hnamed : ∃ named : List Named, named.map Named.url = urls ∧
        named.map Named.name = names ∧ ∀ n ∈ named, identifier n.url = .ok n.name := by
      clear hnodup
      induction hnames with
      | nil => exact ⟨[], rfl, rfl, by simp⟩
      | @cons url name urls names hname _ ih =>
        obtain ⟨named, rfl, rfl, hids⟩ := ih
        refine ⟨⟨url, name⟩ :: named, rfl, rfl, ?_⟩
        intro n hn
        rcases List.mem_cons.1 hn with rfl | hn
        · exact hname
        · exact hids n hn
    obtain ⟨named, hurls, rfl, hids⟩ := hnamed
    exact ⟨named, hurls, hids, hnodup⟩
  · rintro ⟨named, rfl, haccepted⟩
    refine ⟨named.map Named.name, ?_, haccepted.nodup⟩
    rw [List.forall₂_map_left_iff, List.forall₂_map_right_iff, List.forall₂_same]
    exact haccepted.identifier

/-- **The cache accepts** exactly the URLs that name fixtures by different names. -/
lemma checkUrls_iff_nameable {urls : List Points} :
    (∃ named, checkUrls urls = .ok named) ↔ Nameable urls := by
  rw [nameable_iff]
  exact exists_congr fun named => checkUrls_eq_ok_iff

/-- The check that goes from URL to URL, after URLs of different names. -/
lemma checkNames_eq_ok_iff {urls : List Points} {seen : List Named}
    (hseen : (seen.map Named.name).Nodup) :
    checkNames seen urls = .ok () ↔ ∃ named, named.map Named.url = urls ∧
      (∀ n ∈ named, identifier n.url = .ok n.name) ∧ ((seen ++ named).map Named.name).Nodup := by
  induction urls generalizing seen with
  | nil =>
    constructor
    · intro _
      exact ⟨[], rfl, by simp, by simpa using hseen⟩
    · intro _
      rfl
  | cons url rest ih =>
    rw [checkNames, bind_eq_ok_iff]
    constructor
    · rintro ⟨name, hname, h⟩
      rw [mapError_eq_ok_iff] at hname
      cases hclash : firstClash seen [⟨url, name⟩] with
      | some clash => simp [hclash] at h
      | none =>
        rw [hclash] at h
        obtain ⟨named, rfl, hids, hnodup⟩ := (ih ((firstClash_eq_none_iff hseen).1 hclash)).1 h
        refine ⟨⟨url, name⟩ :: named, rfl, ?_, by simpa using hnodup⟩
        intro n hn
        rcases List.mem_cons.1 hn with rfl | hn
        · exact hname
        · exact hids n hn
    · rintro ⟨named, hurls, hids, hnodup⟩
      obtain ⟨n, named, rfl, rfl, rfl⟩ := List.map_eq_cons_iff.1 hurls
      have hsplit : seen ++ n :: named = (seen ++ [n]) ++ named := by simp
      rw [hsplit] at hnodup
      have hfront : ((seen ++ [n]).map Named.name).Nodup := by
        rw [List.map_append] at hnodup
        exact hnodup.of_append_left
      have hclash : firstClash seen [⟨n.url, n.name⟩] = none :=
        (firstClash_eq_none_iff hseen).2 hfront
      refine ⟨n.name, mapError_eq_ok_iff.2 (hids n (by simp)), ?_⟩
      rw [hclash]
      exact (ih hfront).2 ⟨named, rfl, fun m hm => hids m (by simp [hm]), hnodup⟩

/-- **A manifest accepts** exactly the URLs that name fixtures by different names. -/
lemma checkNames_iff_nameable {urls : List Points} :
    checkNames [] urls = .ok () ↔ Nameable urls := by
  rw [checkNames_eq_ok_iff (by simp), nameable_iff]
  constructor
  · rintro ⟨named, hurls, hids, hnodup⟩
    exact ⟨named, hurls, hids, hnodup⟩
  · rintro ⟨named, hurls, haccepted⟩
    exact ⟨named, hurls, haccepted.identifier, haccepted.nodup⟩

/-! ## Manifests -/

/-- A document is a mapping whose entry `urls` is a list of these texts. There is at least one, and
none is empty. -/
def ListsUrls (d : Outline) (urls : List Points) : Prop :=
  (∃ entries, d = .mapping entries) ∧ d.get? "urls" = some (.list (urls.map .text)) ∧
    urls ≠ [] ∧ [] ∉ urls

/-- An outline that is no text is in no list of texts. -/
lemma cons_ne_texts {item : Outline} {items : List Outline} {urls : List Points}
    (h : ∀ s, item ≠ .text s) : item :: items ≠ urls.map .text := by
  intro hitems
  obtain ⟨url, rest, -, hurl, -⟩ := List.map_eq_cons_iff.1 hitems.symm
  exact h url hurl.symm

/-- Outlines are texts that are not empty exactly if they are the texts of URLs of which none is
empty. -/
lemma nonEmptyTexts_eq_some_iff {items : List Outline} {urls : List Points} :
    nonEmptyTexts items = some urls ↔ items = urls.map .text ∧ [] ∉ urls := by
  induction items generalizing urls with
  | nil =>
    constructor
    · intro h
      cases h
      exact ⟨rfl, by simp⟩
    · rintro ⟨hitems, -⟩
      rw [List.map_eq_nil_iff.1 hitems.symm, nonEmptyTexts]
  | cons item items ih =>
    cases item with
    | text s =>
      by_cases hs : s = []
      · subst hs
        constructor
        · intro h
          cases h
        · rintro ⟨hitems, hne⟩
          obtain ⟨url, urls, rfl, hurl, -⟩ := List.map_eq_cons_iff.1 hitems.symm
          cases hurl
          simp at hne
      · have hsome : nonEmptyTexts (.text s :: items) = (nonEmptyTexts items).map (s :: ·) := by
          rw [nonEmptyTexts, if_neg (by simpa using hs)]
        rw [hsome, Option.map_eq_some_iff]
        constructor
        · rintro ⟨rest, hrest, rfl⟩
          obtain ⟨rfl, hne⟩ := ih.1 hrest
          exact ⟨rfl, by simp [hne, Ne.symm hs]⟩
        · rintro ⟨hitems, hne⟩
          obtain ⟨url, rest, rfl, hurl, hrest⟩ := List.map_eq_cons_iff.1 hitems.symm
          cases hurl
          exact ⟨rest, ih.2 ⟨hrest.symm, fun h => hne (by simp [h])⟩, rfl⟩
    | list _ => simp [nonEmptyTexts, cons_ne_texts]
    | mapping _ => simp [nonEmptyTexts, cons_ne_texts]
    | leaf => simp [nonEmptyTexts, cons_ne_texts]

/-- Only a mapping has entries. -/
lemma get?_eq_some {d v : Outline} {key : String} (h : d.get? key = some v) :
    ∃ entries, d = .mapping entries := by
  cases d with
  | mapping entries => exact ⟨entries, rfl⟩
  | text s => cases h
  | list items => cases h
  | leaf => cases h

/-- **Which documents are manifests**: those that list URLs which name fixtures by different names.
The URLs of a manifest are those that it lists, in their order. -/
lemma manifestUrls_eq_ok_iff {d : Outline} {urls : List Points} :
    manifestUrls d = .ok urls ↔ ListsUrls d urls ∧ Nameable urls := by
  rw [← checkNames_iff_nameable]
  unfold manifestUrls
  constructor
  · intro h
    split at h
    · next item items hentry =>
      split at h
      · cases h
      · next texts htexts =>
        obtain ⟨hitems, hne⟩ := nonEmptyTexts_eq_some_iff.1 htexts
        cases hnames : checkNames [] texts with
        | error fault =>
          rw [hnames] at h
          cases h
        | ok _ =>
          rw [hnames] at h
          cases h
          refine ⟨⟨get?_eq_some hentry, by rw [hentry, hitems], ?_, hne⟩, hnames⟩
          rintro rfl
          cases hitems
    · cases h
  · rintro ⟨⟨-, hentry, hsome, hne⟩, hnames⟩
    obtain ⟨url, rest, rfl⟩ := List.exists_cons_of_ne_nil hsome
    have htexts : nonEmptyTexts (.text url :: rest.map .text) = some (url :: rest) :=
      nonEmptyTexts_eq_some_iff.2 ⟨rfl, hne⟩
    rw [hentry, List.map_cons]
    dsimp only
    rw [htexts]
    dsimp only
    rw [hnames]
    rfl

/-- A manifest file whose text is a document is judged by the document. -/
lemma readManifest_eq {v : Volume} {path : Path} {text : String} {d : Outline}
    (hread : v.readText path = .ok text) (hdocument : manifestDocument path text = .ok d) :
    readManifest v path =
      (manifestUrls d).mapError fun fault => .failure (.notManifest path fault) := by
  rw [readManifest, hread]
  change (manifestDocument path text >>= _) = _
  rw [hdocument]
  rfl

/-! ## Lists that are not accepted -/

/-- What the check of the cache ends with: the first URL that names no fixture, or, if all do, the
first that has the name of an earlier one. -/
inductive Rejected (urls : List Points) : CacheAbort → Prop
  | unnamed {before after : List Points} {url : Points} {fault : NameFault}
      (hurls : urls = before ++ url :: after)
      (hbefore : ∀ u ∈ before, ∃ name, identifier u = .ok name)
      (h : identifier url = .error fault) : Rejected urls (.unnamed fault)
  | duplicate {before after : List Named} {later : Named}
      (hurls : urls = (before ++ later :: after).map Named.url)
      (hids : ∀ n ∈ before ++ later :: after, identifier n.url = .ok n.name)
      (hbefore : (before.map Named.name).Nodup)
      (h : later.name ∈ before.map Named.name) : Rejected urls (.duplicate later)

/-- A clash is found at the first URL whose name is taken. -/
lemma firstClash_eq_some {named seen : List Named} {clash : Clash}
    (hseen : (seen.map Named.name).Nodup) (h : firstClash seen named = some clash) :
    ∃ before after, named = before ++ clash.later :: after ∧
      ((seen ++ before).map Named.name).Nodup ∧
      clash.later.name ∈ (seen ++ before).map Named.name := by
  induction named generalizing seen with
  | nil => cases h
  | cons n rest ih =>
    rw [firstClash] at h
    cases hfind : seen.find? fun s => s.name = n.name with
    | some s =>
      rw [hfind] at h
      cases h
      have hname : s.name = n.name := by simpa using List.find?_some hfind
      refine ⟨[], rest, rfl, by simpa using hseen, ?_⟩
      rw [List.append_nil, ← hname]
      exact List.mem_map_of_mem (List.mem_of_find?_eq_some hfind)
    | none =>
      rw [hfind] at h
      have hnew : firstClash seen [n] = none := by
        rw [firstClash, hfind]
        rfl
      have hconcat := (firstClash_eq_none_iff hseen).1 hnew
      obtain ⟨before, after, rfl, hnodup, hmem⟩ := ih hconcat h
      rw [List.append_assoc, List.singleton_append] at hnodup hmem
      exact ⟨n :: before, after, rfl, hnodup, hmem⟩

/-- URLs that are not accepted are rejected for one of the reasons. -/
lemma checkUrls_eq_error {urls : List Points} {abort : CacheAbort}
    (h : checkUrls urls = .error abort) : Rejected urls abort := by
  rw [checkUrls, bind_eq_error_iff] at h
  rcases h with hname | ⟨named, hnamed, h⟩
  · obtain ⟨fault, hfault, rfl⟩ := mapError_eq_error_iff.1 hname
    obtain ⟨before, url, after, rfl, hbefore, hurl⟩ := mapM_eq_error_iff.1 hfault
    refine .unnamed rfl (fun u hu => ?_) (map_eq_error_iff.1 hurl)
    obtain ⟨n, hn⟩ := hbefore u hu
    obtain ⟨name, hname, -⟩ := map_eq_ok_iff.1 hn
    exact ⟨name, hname⟩
  · obtain ⟨rfl, hids⟩ := nameAll_eq_ok_iff.1 (mapError_eq_ok_iff.1 hnamed)
    cases hclash : firstClash [] named with
    | none =>
      rw [hclash] at h
      cases h
    | some clash =>
      rw [hclash] at h
      cases h
      obtain ⟨before, after, rfl, hnodup, hmem⟩ := firstClash_eq_some (by simp) hclash
      exact .duplicate rfl hids hnodup hmem

/-- **A list that is not accepted has no effect**: nothing is requested, written or said. -/
lemma resolve_of_not_nameable {urls : List Points} (h : ¬ Nameable urls) (c : Config)
    (follow : Bool) (net : Network) (desk : Desk) :
    ∃ abort, Rejected urls abort ∧ resolve c follow net desk urls = (⟨desk, [], []⟩, .error abort) := by
  cases hcheck : checkUrls urls with
  | ok named => exact absurd (checkUrls_iff_nameable.1 ⟨named, hcheck⟩) h
  | error abort =>
    refine ⟨abort, checkUrls_eq_error hcheck, ?_⟩
    rw [resolve, hcheck]
    rfl

/-- **Manifests and the cache agree.** Of a file whose text is a document the URLs are returned if
the document lists them and they name fixtures by different names, which is what the check of the
cache accepts. Every other document is refused as a manifest. A list of URLs that the check of the
cache does not accept is refused with the first URL at fault, and has no effect. -/
theorem readManifest_agrees {v : Volume} {path : Path} {text : String} {d : Outline}
    (hread : v.readText path = .ok text) (hdocument : manifestDocument path text = .ok d) :
    (∀ urls, readManifest v path = .ok urls ↔
      ListsUrls d urls ∧ ∃ named, checkUrls urls = .ok named) ∧
    ((∀ urls, ListsUrls d urls → ¬ ∃ named, checkUrls urls = .ok named) →
      ∃ fault, readManifest v path = .error (.failure (.notManifest path fault))) ∧
    (∀ urls, (∃ named, checkUrls urls = .ok named) ↔ Nameable urls) ∧
    ∀ urls, ¬ Nameable urls → ∀ c follow net desk, ∃ abort, Rejected urls abort ∧
      resolve c follow net desk urls = (⟨desk, [], []⟩, .error abort) := by
  have haccepts : ∀ urls, readManifest v path = .ok urls ↔
      ListsUrls d urls ∧ ∃ named, checkUrls urls = .ok named := by
    intro urls
    rw [readManifest_eq hread hdocument, mapError_eq_ok_iff, manifestUrls_eq_ok_iff,
      checkUrls_iff_nameable]
  refine ⟨haccepts, fun hno => ?_, fun _ => checkUrls_iff_nameable,
    fun _ h => resolve_of_not_nameable h⟩
  cases hurls : manifestUrls d with
  | ok urls =>
    obtain ⟨hlists, hnameable⟩ := manifestUrls_eq_ok_iff.1 hurls
    exact absurd (checkUrls_iff_nameable.2 hnameable) (hno urls hlists)
  | error fault =>
    refine ⟨fault, ?_⟩
    rw [readManifest_eq hread hdocument, hurls]
    rfl

/-- A volume with a manifest of one URL. -/
def sampleManifest : Volume :=
  Change.applyAll .empty [.write ["m.yaml"] (Text.Utf8.encode "urls: [http://h/a]")]

/-- A manifest of one URL. Two URLs that end in the same name are refused, and nothing is done. -/
theorem readManifest_agrees_one :
    ∃ d, sampleManifest.readText ⟨"", ["m.yaml"]⟩ = .ok "urls: [http://h/a]" ∧
      manifestDocument ⟨"", ["m.yaml"]⟩ "urls: [http://h/a]" = .ok d ∧
      ListsUrls d [.ofString "http://h/a"] ∧
      ∀ c follow net desk, ∃ abort, Rejected [.ofString "http://h/a", .ofString "http://k/a"] abort ∧
        resolve c follow net desk [.ofString "http://h/a", .ofString "http://k/a"] =
          (⟨desk, [], []⟩, .error abort) := by
  have hread : sampleManifest.readText ⟨"", ["m.yaml"]⟩ = .ok "urls: [http://h/a]" := by
    decide +kernel
  have hurls : readManifest sampleManifest ⟨"", ["m.yaml"]⟩ = .ok [.ofString "http://h/a"] :=
    eq_ok_of_toOption (by decide +kernel)
  have hclash : (checkUrls [.ofString "http://h/a", .ofString "http://k/a"]).toOption = none := by
    decide +kernel
  have hparsed : (manifestDocument ⟨"", ["m.yaml"]⟩ "urls: [http://h/a]").toOption.isSome := by
    decide +kernel
  -- the document itself cannot be compared, but it is enough that there is one
  obtain ⟨d, hd⟩ := Option.isSome_iff_exists.1 hparsed
  have hdocument : manifestDocument ⟨"", ["m.yaml"]⟩ "urls: [http://h/a]" = .ok d :=
    eq_ok_of_toOption hd
  obtain ⟨haccepts, -, hnameable, hrejected⟩ := readManifest_agrees hread hdocument
  refine ⟨d, hread, hdocument, ((haccepts _).1 hurls).1, hrejected _ fun h => ?_⟩
  obtain ⟨named, hnamed⟩ := (hnameable _).2 h
  rw [hnamed] at hclash
  cases hclash

end ParseBench.Fixture
