import ParseBench.Proofs.Except
import ParseBench.Url.Target
import Mathlib.Data.List.TakeDrop
import Mathlib.Data.List.TakeWhile
import Mathlib.Tactic.Lemma
import Mathlib.Tactic.SplitIfs

set_option relaxedAutoImplicit false
set_option autoImplicit false

/-!
# The path of a request

A URL is cut into parts in two ways: when its fixture is named, and when it is put into the normal
form of a request. Of a URL with a scheme both find the same path. A surrogate in the last segment
of the path has no percent escape, so that no such URL is requested.

## Main results

* `ParseBench.Text.splitOnChar_append` — the segments of a text around a separator.
* `ParseBench.Url.mem_normalPath` — the last segment stays when dots are resolved.
* `ParseBench.Url.path_ofPoints` — both ways find the same path.
* `ParseBench.Url.isText_afterLast_of_request` — the last segment of a URL that is requested is an
  ordinary text.
* `ParseBench.Url.notMem_path` — a path holds no tabs, line breaks, question marks and hashes.
-/

namespace ParseBench

open ParseBench.Text (CodePoint Glyph Points splitOnChar)

/-! ## Segments -/

namespace Text

/-- Splitting gives at least one piece. -/
lemma splitOnChar_ne_nil {α : Type} [BEq α] {sep : α} (s : List α) : splitOnChar sep s ≠ [] := by
  cases s with
  | nil => simp [splitOnChar]
  | cons c s =>
    rw [splitOnChar]
    split
    · simp
    · split <;> simp

variable {α : Type} [BEq α] [LawfulBEq α] {sep : α}

/-- A text without separators is a single segment. -/
lemma splitOnChar_of_not_mem {s : List α} (h : sep ∉ s) : splitOnChar sep s = [s] := by
  induction s with
  | nil => rfl
  | cons c s ih =>
    have hc : (c == sep) = false := beq_eq_false_iff_ne.2 (fun hc => h (by simp [hc]))
    rw [splitOnChar, hc, ih (fun hs => h (by simp [hs]))]
    rfl

/-- The segments of a text around a separator. -/
lemma splitOnChar_append (s t : List α) :
    splitOnChar sep (s ++ sep :: t) = splitOnChar sep s ++ splitOnChar sep t := by
  induction s with
  | nil => simp [splitOnChar]
  | cons c s ih =>
    rw [List.cons_append, splitOnChar, splitOnChar, ih]
    split_ifs
    · rfl
    · cases hs : splitOnChar sep s with
      | nil => exact absurd hs (splitOnChar_ne_nil s)
      | cons piece pieces => rfl

end Text

namespace Url

/-! ## Dots -/

/-- A code point has the shape that it is read as. -/
lemma shape_eq (p : CodePoint) : Glyph.shape p = p.shape := rfl

/-- Only a character has the shape of one that is not the replacement character. -/
lemma shape_eq_iff {p : CodePoint} {c : Char} (hc : c ≠ Text.replacementChar) :
    p.shape = c ↔ p = .char c := by
  cases p with
  | char d => simp [CodePoint.shape]
  | surrogate u => simp [CodePoint.shape, hc.symm]

/-- A code point has another shape than a character exactly if it is not that character. -/
lemma shape_bne {c : Char} (hc : c ≠ Text.replacementChar) :
    (fun p : CodePoint => Glyph.shape p != c) = fun p => p != .char c := by
  funext p
  rw [Bool.eq_iff_iff, bne_iff_ne, bne_iff_ne, shape_eq, ne_eq, ne_eq, shape_eq_iff hc]

/-- The last segment of a text is what follows the last separator. -/
lemma splitOnChar_afterLast {sep : Char} (hsep : sep ≠ Text.replacementChar) (path : Points) :
    ∃ before, splitOnChar (.char sep) path = before ++ [afterLast sep path] := by
  rw [afterLast, shape_bne hsep]
  generalize ht : (path.reverse.takeWhile fun p => p != CodePoint.char sep).reverse = last
  have hfree : CodePoint.char sep ∉ last := by
    intro hmem
    rw [← ht, List.mem_reverse] at hmem
    have := List.mem_takeWhile_imp hmem
    simp at this
  have hpath : path =
    (path.reverse.dropWhile fun p => p != CodePoint.char sep).reverse ++ last := by
    rw [← ht, ← List.reverse_append, List.takeWhile_append_dropWhile, List.reverse_reverse]
  cases hdrop : path.reverse.dropWhile fun p => p != CodePoint.char sep with
  | nil =>
    rw [hdrop, List.reverse_nil, List.nil_append] at hpath
    exact ⟨[], by rw [hpath, Text.splitOnChar_of_not_mem hfree, List.nil_append]⟩
  | cons c before =>
    have hhead := List.head_dropWhile_not (fun p => p != CodePoint.char sep) (l := path.reverse)
      (by rw [hdrop]; simp)
    simp only [hdrop, List.head_cons, bne_eq_false_iff_eq] at hhead
    rw [hdrop, hhead, List.reverse_cons, List.append_assoc, List.singleton_append] at hpath
    refine ⟨splitOnChar (.char sep) before.reverse, ?_⟩
    rw [hpath, Text.splitOnChar_append, Text.splitOnChar_of_not_mem hfree]

/-- Two rows of segments are resolved one after the other. -/
lemma resolveDots_append (read : List Points) (a b : List Points) :
    resolveDots read (a ++ b) = resolveDots (resolveDots read a) b := by
  induction a generalizing read with
  | nil => rfl
  | cons segment a ih =>
    rw [List.cons_append, resolveDots, resolveDots]
    split_ifs
    · exact ih _
    · exact ih _
    · exact ih _
    · exact ih _

/-- A segment with a surrogate is no dots. -/
lemma resolveDots_of_surrogate (read : List Points) {segment : Points} {p : CodePoint}
    (hp : p ∈ segment) (hs : p.isSurrogate = true) :
    resolveDots read [segment] = read ++ [segment] := by
  have hmem : Text.replacementChar ∈ segment.shape := by
    refine List.mem_map.2 ⟨p, hp, ?_⟩
    cases p with
    | char c => simp [CodePoint.isSurrogate] at hs
    | surrogate u => rfl
  have hdot : Text.replacementChar ≠ '.' := by decide
  have hone : (segment.shape == ['.']) = false := by
    rw [beq_eq_false_iff_ne]
    intro h
    rw [h] at hmem
    simp [hdot] at hmem
  have htwo : (segment.shape == ['.', '.']) = false := by
    rw [beq_eq_false_iff_ne]
    intro h
    rw [h] at hmem
    simp [hdot] at hmem
  rw [resolveDots, hone, htwo]
  rfl

/-- What is in a piece is in what the pieces join to. -/
lemma mem_intercalate {sep : Points} {pieces : List Points} {piece : Points} {p : CodePoint}
    (hpiece : piece ∈ pieces) (hp : p ∈ piece) : p ∈ sep.intercalate pieces := by
  induction pieces with
  | nil => simp at hpiece
  | cons first rest ih =>
    cases rest with
    | nil =>
      rw [List.intercalate_singleton]
      rwa [List.mem_singleton.1 hpiece] at hp
    | cons second rest =>
      rw [List.intercalate_cons_cons, List.mem_append]
      rcases List.mem_cons.1 hpiece with rfl | hpiece
      · exact .inl (by simp [hp])
      · exact .inr (ih hpiece)

/-- **The last segment of a path stays** when dots are resolved, if there is a surrogate in it. -/
lemma mem_normalPath {path : Points} {p : CodePoint} (hp : p ∈ afterLast '/' path)
    (hs : p.isSurrogate = true) : p ∈ normalPath path := by
  have hslash : '/' ≠ Text.replacementChar := by decide
  obtain ⟨before, hsegments⟩ := splitOnChar_afterLast hslash path
  rw [normalPath, hsegments, resolveDots_append, resolveDots_of_surrogate _ hp hs]
  exact mem_intercalate (by simp) hp

/-! ## The path of a URL -/

/-- A text with percent escapes holds no surrogates. -/
lemma isText_of_escape {safe : Char → Bool} {s : Points} {chars : List Char}
    (h : escape safe s = .ok chars) : s.isText = true := by
  obtain ⟨pieces, hpieces, -⟩ := bind_eq_ok_iff.1 h
  have hall := forall₂_of_mapM hpieces
  rw [Points.isText, List.all_eq_true]
  intro p hp
  obtain ⟨i, hi, rfl⟩ := List.getElem_of_mem hp
  have hpiece := hall.get hi (hall.length_eq ▸ hi)
  simp only [List.get_eq_getElem] at hpiece
  cases hpoint : s[i] with
  | char c => rfl
  | surrogate u =>
    rw [hpoint] at hpiece
    cases hpiece

/-- The two ways to cut a text at a character agree. -/
lemma cutOptional_fst {sep : Char} (hsep : sep ≠ Text.replacementChar) (s : Points) :
    (cutOptional sep s).1 = (cutAt sep s).1 := by
  rw [cutOptional, cutAt, shape_bne hsep]
  cases s.span fun p => p != CodePoint.char sep with
  | mk before after => cases after <;> rfl

/-- A URL without controls that begins with a letter is clean. -/
lemma clean_eq {url : Points} (hcontrols : checkControls none url.shape = .ok ())
    (hhead : ∀ p ∈ url.head?, p.shape.isAlpha = true) : clean url = url := by
  have hdrop : (url.dropWhile fun p => (Glyph.shape p).val ≤ 0x20) = url := by
    cases url with
    | nil => rfl
    | cons p url =>
      have hp := hhead p (by simp)
      rw [List.dropWhile_cons_of_neg]
      have hletter : 0x41 ≤ p.shape.toNat := by
        change (decide ('A'.val ≤ p.shape.val ∧ p.shape.val ≤ 'Z'.val) ||
          (decide ('a'.val ≤ p.shape.val) && decide (p.shape.val ≤ 'z'.val))) = true at hp
        simp only [Bool.or_eq_true, Bool.and_eq_true, decide_eq_true_eq] at hp
        rcases hp with hp | hp
        · exact hp.1
        · exact Nat.le_trans (by decide) (UInt32.le_iff_toNat_le.1 hp.1)
      rw [decide_eq_true_eq, shape_eq, UInt32.le_iff_toNat_le]
      exact Nat.not_le_of_lt (Nat.lt_of_lt_of_le (by decide) hletter)
  rw [clean, hdrop, List.filter_eq_self]
  intro p hp
  rw [checkControls] at hcontrols
  split at hcontrols
  · next hnone =>
    rw [List.findIdx?_eq_none_iff] at hnone
    have hshape := hnone p.shape (List.mem_map.2 ⟨p, hp, rfl⟩)
    rw [shape_eq, Bool.not_eq_true', isRemoved]
    generalize p.shape = c at hshape
    by_contra hremoved
    simp only [Bool.not_eq_false, Bool.or_eq_true, beq_iff_eq] at hremoved
    rcases hremoved with (rfl | rfl) | rfl
    · exact absurd hshape (by decide)
    · exact absurd hshape (by decide)
    · exact absurd hshape (by decide)
  · cases hcontrols

/-- Both ways to cut off a scheme leave the same rest, and a scheme begins with a letter. -/
lemma cutScheme_snd {url : Points} (h : (cutWrittenScheme url).1 ≠ []) :
    (cutScheme url).2 = (cutWrittenScheme url).2 ∧ ∀ p ∈ url.head?, p.shape.isAlpha = true := by
  have hcolon : ':' ≠ Text.replacementChar := by decide
  rw [cutWrittenScheme] at h ⊢
  rw [cutScheme, shape_bne hcolon]
  have hspan := List.span_eq_takeWhile_dropWhile (fun p => p != CodePoint.char ':') url
  have hurl := List.takeWhile_append_dropWhile (p := fun p => p != CodePoint.char ':') (l := url)
  rw [hspan] at h ⊢
  generalize url.takeWhile (fun p => p != CodePoint.char ':') = name at *
  generalize url.dropWhile (fun p => p != CodePoint.char ':') = after at *
  cases after with
  | nil => exact absurd rfl h
  | cons colon rest =>
    cases name with
    | nil => exact absurd rfl h
    | cons p name =>
      by_cases hs : isScheme (Points.shape (p :: name)) = true
      · have hs' : isScheme ((p :: name).map Glyph.shape) = true := hs
        dsimp only
        rw [if_pos hs', if_pos (by simp [hs])]
        refine ⟨rfl, fun q hq => ?_⟩
        obtain rfl : p = q := by simpa [← hurl] using hq
        rw [Points.shape, List.map_cons, isScheme, Bool.and_eq_true] at hs
        exact hs.1
      · simp [hs] at h

/-- The scheme and the path of a normal form. -/
lemma normal_eq_ok {w : Written} {t : Target} (h : w.normal = .ok t) :
    t.scheme = w.scheme.map Char.toLower ∧
      (w.scheme ≠ [] → escape isPathSafe (normalPath w.path) = .ok t.path) := by
  rw [Written.normal] at h
  obtain ⟨userinfo, _, h⟩ := bind_eq_ok_iff.1 h
  obtain ⟨host, _, h⟩ := bind_eq_ok_iff.1 h
  obtain ⟨port, _, h⟩ := bind_eq_ok_iff.1 h
  obtain ⟨_, _, h⟩ := bind_eq_ok_iff.1 h
  obtain ⟨path, hpath, h⟩ := bind_eq_ok_iff.1 h
  obtain ⟨query, _, h⟩ := bind_eq_ok_iff.1 h
  obtain ⟨fragment, _, h⟩ := bind_eq_ok_iff.1 h
  cases h
  refine ⟨rfl, fun hscheme => ?_⟩
  rwa [if_pos (by simp [hscheme])] at hpath

/-- **Both ways to cut a URL find the same path**, if there is a scheme. -/
lemma path_ofPoints {url : Points} {parts : Parts CodePoint} (hsplit : split url = .ok parts)
    (hcontrols : checkControls none url.shape = .ok ())
    (hscheme : (Written.ofPoints url).scheme ≠ []) : (Written.ofPoints url).path = parts.path := by
  obtain ⟨hrest, hhead⟩ := cutScheme_snd hscheme
  have hhash : '#' ≠ Text.replacementChar := by decide
  have hquestion : '?' ≠ Text.replacementChar := by decide
  rw [split, splitGlyphs, clean_eq hcontrols hhead] at hsplit
  obtain ⟨-, -, hsplit⟩ := bind_eq_ok_iff.1 hsplit
  obtain ⟨-, -, hsplit⟩ := bind_eq_ok_iff.1 hsplit
  have hpath : parts.path = (cutAt '?' (cutAt '#' (cutAuthority (cutScheme url).2).2).1).1 := by
    cases hsplit
    rfl
  rw [hpath, ← cutOptional_fst hquestion, ← cutOptional_fst hhash, hrest]
  rfl

/-- **The last segment of a URL that is requested is an ordinary text**, if the target has a
scheme. -/
lemma isText_afterLast_of_request {url : Points} {parts : Parts CodePoint} {t : Target}
    (hsplit : split url = .ok parts) (h : Target.request url = .ok t) (hscheme : t.scheme ≠ []) :
    Points.isText (afterLast '/' parts.path) = true := by
  obtain ⟨t', ht', h⟩ := bind_eq_ok_iff.1 h
  split at h
  · -- a relative URL is requested without a scheme
    rw [(normal_eq_ok h).1] at hscheme
    exact absurd rfl hscheme
  · cases h
    rw [Target.ofPoints] at ht'
    split at ht'
    · cases ht'
    · obtain ⟨_, hcontrols, hnormal⟩ := bind_eq_ok_iff.1 ht'
      obtain ⟨hlower, hpath⟩ := normal_eq_ok hnormal
      have hwritten : (Written.ofPoints url).scheme ≠ [] := by
        intro hnil
        rw [hlower, hnil] at hscheme
        exact hscheme rfl
      have htext := isText_of_escape (hpath hwritten)
      rw [Points.isText, List.all_eq_true] at htext ⊢
      intro p hp
      by_contra hs
      rw [Bool.not_eq_true, Bool.not_eq_false'] at hs
      rw [← path_ofPoints hsplit hcontrols hwritten] at hp
      have := htext p (mem_normalPath hp hs)
      simp [hs] at this

/-! ## What is left of a URL -/

/-- What is left after a scheme is a part of the URL. -/
lemma cutScheme_subset (url : Points) : (cutScheme url).2 ⊆ url := by
  rw [cutScheme, List.span_eq_takeWhile_dropWhile]
  split
  · next name colon rest h =>
    rw [Prod.mk.injEq] at h
    have hrest : rest ⊆ url := by
      have hdrop := (List.dropWhile_sublist (l := url) fun c => Glyph.shape c != ':').subset
      rw [h.2] at hdrop
      exact fun c hc => hdrop (List.mem_cons_of_mem _ hc)
    dsimp only
    split
    · exact hrest
    · exact List.Subset.refl url
  · exact List.Subset.refl url

/-- What is left after an authority is a part of the URL. -/
lemma cutAuthority_subset (url : Points) : (cutAuthority url).2 ⊆ url := by
  rw [cutAuthority.eq_def]
  split
  · next a b rest =>
    split
    · rw [List.span_eq_takeWhile_dropWhile]
      exact fun c hc => List.mem_cons_of_mem _
        (List.mem_cons_of_mem _ ((List.dropWhile_sublist _).subset hc))
    · exact List.Subset.refl _
  · exact List.Subset.refl _

/-- What is cut off is all before the first separator. -/
lemma cutAt_fst {sep : Char} (s : Points) :
    (cutAt sep s).1 = s.takeWhile fun c => Glyph.shape c != sep := by
  rw [cutAt, List.span_eq_takeWhile_dropWhile]
  cases s.dropWhile fun c => Glyph.shape c != sep <;> rfl

/-- What is cut off is a part of the text. -/
lemma cutAt_subset (sep : Char) (s : Points) : (cutAt sep s).1 ⊆ s := by
  rw [cutAt_fst]
  exact (List.takeWhile_sublist _).subset

/-- The path of a URL is what is left when everything else is cut off. -/
lemma path_eq {url : Points} {parts : Parts CodePoint} (h : split url = .ok parts) :
    parts.path = (cutAt '?' (cutAt '#' (cutAuthority (cutScheme (clean url)).2).2).1).1 := by
  rw [split, splitGlyphs] at h
  obtain ⟨-, -, h⟩ := bind_eq_ok_iff.1 h
  obtain ⟨-, -, h⟩ := bind_eq_ok_iff.1 h
  cases h
  rfl

/-- The path of a URL is part of what is left of the URL when it is cleaned. -/
lemma path_subset_clean {url : Points} {parts : Parts CodePoint} (h : split url = .ok parts) :
    parts.path ⊆ clean url := by
  rw [path_eq h]
  refine List.Subset.trans (cutAt_subset _ _) (List.Subset.trans (cutAt_subset _ _) ?_)
  exact List.Subset.trans (cutAuthority_subset _) (cutScheme_subset _)

/-- The separator is not in what is cut off. -/
lemma notMem_cutAt (sep : Char) (s : Points) : sep ∉ (cutAt sep s).1.map CodePoint.shape := by
  intro hmem
  obtain ⟨p, hp, hshape⟩ := List.mem_map.1 hmem
  rw [cutAt_fst] at hp
  simpa [shape_eq, hshape] using List.mem_takeWhile_imp hp

/-- A path holds nothing that is removed from a URL, and nothing that ends a path. -/
lemma notMem_path {url : Points} {parts : Parts CodePoint} {c : Char}
    (hc : isRemoved c = true ∨ c = '?' ∨ c = '#') (h : split url = .ok parts) :
    c ∉ parts.path.map CodePoint.shape := by
  rcases hc with hremoved | rfl | rfl
  · intro hmem
    obtain ⟨p, hp, hshape⟩ := List.mem_map.1 hmem
    have hclean := path_subset_clean h hp
    rw [clean, List.mem_filter, shape_eq, hshape, hremoved] at hclean
    cases hclean.2
  · rw [path_eq h]
    exact notMem_cutAt '?' _
  · rw [path_eq h]
    exact fun hmem => notMem_cutAt '#' _ ((List.map_subset _ (cutAt_subset '?' _)) hmem)

end Url

end ParseBench
