import ParseBench.Proofs.Fixture.Entry

set_option relaxedAutoImplicit false
set_option autoImplicit false

/-!
# Names and what follows the path

A query begins with a question mark and a fragment with a hash. Neither can be part of a scheme, an
authority or a path, so what follows the first of them changes nothing about the parts before it:
the name of a fixture does not depend on the query and the fragment of its URL, whatever they hold.

## Main definitions

* `ParseBench.Url.IsMark` — the characters with which a query or a fragment begins.
* `ParseBench.Fixture.NameFault.about` — a fault, told about another URL.

## Main results

* `ParseBench.Url.cutScheme_append`, `ParseBench.Url.cutAuthority_append` — a mark ends scheme and
  authority.
* `ParseBench.Url.path_append` — a URL has the same path with and without query and fragment.
* `ParseBench.Fixture.identifier_safe` — what a name holds, and what it depends on.
-/

namespace ParseBench

open ParseBench.Text (CodePoint Glyph Points)

namespace Url

/-! ## Marks -/

/-- A question mark or a hash, with which a query or a fragment begins. -/
def IsMark (p : CodePoint) : Prop := p = .char '?' ∨ p = .char '#'

section Marks

variable {url s : Points} {c : CodePoint}

/-- A class of characters without the two marks holds none of them. -/
lemma IsMark.shape {q : Char → Bool} (hc : IsMark c) (hq : q '?' = false ∧ q '#' = false) :
    q (Glyph.shape c) = false := by
  rcases hc with rfl | rfl
  · exact hq.1
  · exact hq.2

/-- Nothing after an element that stops the taking is taken. -/
lemma takeWhile_append_stop {α : Type} {q : α → Bool} {a : α} (ha : q a = false) (s t : List α) :
    (s ++ a :: t).takeWhile q = s.takeWhile q := by
  induction s with
  | nil => simp [ha]
  | cons b s ih => simp [List.takeWhile_cons, ih]

/-- An element that stops the dropping is left, with all that comes after it. -/
lemma dropWhile_append_stop {α : Type} {q : α → Bool} {a : α} (ha : q a = false) (s t : List α) :
    (s ++ a :: t).dropWhile q = s.dropWhile q ++ a :: t := by
  induction s with
  | nil => simp [ha]
  | cons b s ih =>
    rw [List.cons_append, List.dropWhile_cons, List.dropWhile_cons, ih]
    split_ifs <;> rfl

/-! ## What a mark leaves as it is -/

/-- A mark is neither stripped nor removed when a URL is cleaned. -/
lemma clean_append (hc : IsMark c) (url rest : Points) :
    clean (url ++ c :: rest) =
      clean url ++ c :: rest.filter fun p => !isRemoved (Glyph.shape p) := by
  have hstop := dropWhile_append_stop (q := fun p => decide ((Glyph.shape p).val ≤ 0x20))
    (hc.shape (q := fun d => decide (d.val ≤ 0x20)) (by decide)) url rest
  have hkept : isRemoved (Glyph.shape c) = false := hc.shape (by decide)
  rw [clean, clean, hstop, List.filter_append, List.filter_cons_of_pos]
  rw [hkept]
  rfl

/-- A scheme has only characters that a scheme may have. -/
lemma isSchemeChar_of_isScheme {s : List Char} (h : isScheme s = true) :
    ∀ d ∈ s, isSchemeChar d = true := by
  cases s with
  | nil => cases h
  | cons a s =>
    rw [isScheme, Bool.and_eq_true, List.all_eq_true] at h
    intro d hd
    rcases List.mem_cons.1 hd with rfl | hd
    · simp [isSchemeChar, Char.isAlphanum, h.1]
    · exact h.2 d hd

/-- A mark cannot stand in a scheme. -/
lemma isScheme_of_mark (hc : IsMark c) (before after : Points) :
    isScheme ((before ++ c :: after).map Glyph.shape) = false := by
  rw [← Bool.not_eq_true]
  intro hscheme
  have hmem := isSchemeChar_of_isScheme hscheme (Glyph.shape c) (by simp)
  rw [hc.shape (q := isSchemeChar) (by decide)] at hmem
  cases hmem

/-- **The scheme ends before a mark.**

**Proof sketch.** If there is a colon before the mark, the scheme is cut off there. Otherwise what
is before the first colon holds the mark, and is no scheme. -/
lemma cutScheme_append (hc : IsMark c) (url rest : Points) :
    cutScheme (url ++ c :: rest) = ((cutScheme url).1, (cutScheme url).2 ++ c :: rest) := by
  have hcolon : (Glyph.shape c != ':') = true := by
    rw [bne_iff_ne]
    rcases hc with rfl | rfl <;> decide
  rw [cutScheme, cutScheme, List.span_eq_takeWhile_dropWhile, List.span_eq_takeWhile_dropWhile]
  cases hdrop : url.dropWhile fun p => Glyph.shape p != ':' with
  | nil =>
    have hall : ∀ p ∈ url, (Glyph.shape p != ':') = true := List.dropWhile_eq_nil_iff.1 hdrop
    rw [List.takeWhile_append_of_pos hall, List.dropWhile_append_of_pos hall, List.takeWhile_cons,
      List.dropWhile_cons, if_pos hcolon, if_pos hcolon]
    cases rest.dropWhile fun p => Glyph.shape p != ':' with
    | nil => rfl
    | cons colon after =>
      dsimp only
      rw [isScheme_of_mark hc, if_neg Bool.false_ne_true]
  | cons colon after =>
    have hdrops : (url ++ c :: rest).dropWhile (fun p => Glyph.shape p != ':') =
        colon :: after ++ c :: rest := by
      rw [List.dropWhile_append, hdrop]
      rfl
    have htakes : (url ++ c :: rest).takeWhile (fun p => Glyph.shape p != ':') =
        url.takeWhile fun p => Glyph.shape p != ':' := by
      apply List.append_cancel_right
      rw [List.takeWhile_append_dropWhile, hdrops, ← hdrop, ← List.append_assoc,
        List.takeWhile_append_dropWhile]
    rw [hdrops, htakes]
    dsimp only [List.cons_append]
    split <;> rfl

/-- **The authority ends before a mark.** -/
lemma cutAuthority_append (hc : IsMark c) (url rest : Points) :
    cutAuthority (url ++ c :: rest) =
      ((cutAuthority url).1, (cutAuthority url).2 ++ c :: rest) := by
  have hslash : (Glyph.shape c == '/') = false := hc.shape (q := (· == '/')) (by decide)
  have hends : (!endsAuthority (Glyph.shape c)) = false :=
    hc.shape (q := fun d => !endsAuthority d) (by decide)
  match url with
  | [] =>
    cases rest with
    | nil => rfl
    | cons b rest => simp [cutAuthority, hslash]
  | [a] => simp [cutAuthority, hslash]
  | a :: b :: url =>
    simp only [List.cons_append, cutAuthority]
    by_cases h : (Glyph.shape a == '/' && Glyph.shape b == '/') = true
    · rw [if_pos h, if_pos h, List.span_eq_takeWhile_dropWhile, List.span_eq_takeWhile_dropWhile,
        takeWhile_append_stop (q := fun p => !endsAuthority (Glyph.shape p)) hends,
        dropWhile_append_stop (q := fun p => !endsAuthority (Glyph.shape p)) hends]
    · rw [if_neg h, if_neg h]
      rfl

/-- A text without a separator is cut nowhere. -/
lemma cutAt_of_notMem {sep : Char} (hsep : CodePoint.char sep ∉ s)
    (hne : sep ≠ Text.replacementChar) : (cutAt sep s).1 = s := by
  rw [cutAt_fst, shape_bne hne, List.takeWhile_eq_self_iff]
  intro p hp
  rw [bne_iff_ne]
  rintro rfl
  exact hsep hp

/-- **The path ends before a mark**, at the query or at the fragment. -/
lemma cutPath_append (hs : ∀ p ∈ s, ¬ IsMark p) (hc : IsMark c) (rest : Points) :
    (cutAt '?' (cutAt '#' (s ++ c :: rest)).1).1 = (cutAt '?' (cutAt '#' s).1).1 := by
  have hquery : CodePoint.char '?' ∉ s := fun hmem => hs _ hmem (.inl rfl)
  have hfragment : CodePoint.char '#' ∉ s := fun hmem => hs _ hmem (.inr rfl)
  rw [cutAt_of_notMem hfragment (by decide), cutAt_of_notMem hquery (by decide)]
  rcases hc with rfl | rfl
  · -- the fragment begins in what follows the question mark
    rw [cutAt_fst, cutAt_fst, List.takeWhile_append_of_pos, List.takeWhile_cons_of_pos (by decide),
      takeWhile_append_stop (by decide), ← cutAt_fst, cutAt_of_notMem hquery (by decide)]
    intro p hp
    rw [bne_iff_ne, shape_eq, ne_eq, shape_eq_iff (by decide)]
    rintro rfl
    exact hfragment hp
  · have hcut : (cutAt '#' (s ++ .char '#' :: rest)).1 = s := by
      rw [cutAt_fst, takeWhile_append_stop (by decide), ← cutAt_fst,
        cutAt_of_notMem hfragment (by decide)]
    rw [hcut, cutAt_of_notMem hquery (by decide)]

/-- **A URL has the same path with and without query and fragment**, or the same fault. -/
lemma path_append (hurl : ∀ p ∈ url, ¬ IsMark p) (hc : IsMark c) (rest : Points) :
    (split (url ++ c :: rest)).map Parts.path = (split url).map Parts.path := by
  have hleft : ∀ p ∈ (cutAuthority (cutScheme (clean url)).2).2, ¬ IsMark p := by
    intro p hp
    have hclean := cutScheme_subset _ (cutAuthority_subset _ hp)
    exact hurl p ((List.dropWhile_sublist _).subset (List.mem_of_mem_filter hclean))
  have hpath := cutPath_append hleft hc (rest.filter fun p => !isRemoved (Glyph.shape p))
  revert hpath
  rw [split, split, splitGlyphs, splitGlyphs, clean_append hc, cutScheme_append hc]
  rcases cutScheme (clean url) with ⟨scheme, afterScheme⟩
  dsimp only
  rw [cutAuthority_append hc]
  rcases cutAuthority afterScheme with ⟨authority, afterAuthority⟩
  intro hpath
  -- the checks of the authority come out alike
  rcases checkBrackets authority with fault | _
  · rfl
  rcases checkHidden authority with fault | _
  · rfl
  exact congrArg Except.ok hpath

end Marks

end Url

namespace Fixture

/-! ## Names -/

/-- A fault of a URL, told about another URL. -/
def NameFault.about (url : Points) : NameFault → NameFault
  | .unsplit fault => .unsplit fault
  | .noName _ => .noName url

/-- URLs with the same path have the same name, or the same fault. -/
lemma identifier_of_path {url url' : Points}
    (h : (Url.split url').map Url.Parts.path = (Url.split url).map Url.Parts.path) :
    identifier url' = (identifier url).mapError (NameFault.about url') := by
  rw [identifier, identifier]
  cases hsplit : Url.split url with
  | error fault =>
    rw [hsplit] at h
    rw [map_eq_error_iff.1 h]
    rfl
  | ok parts =>
    rw [hsplit] at h
    obtain ⟨parts', hsplit', hpath⟩ := map_eq_ok_iff.1 h
    rw [hsplit']
    dsimp only
    rw [hpath]
    cases Url.afterLast '/' parts.path <;> rfl

/-- **Names of fixtures.** A name is not empty and holds no slashes, question marks, hashes, tabs
and line breaks. It does not depend on the query and the fragment: with whatever follows a question
mark or a hash, the URL has the same name, or it has none for the same reason. -/
theorem identifier_safe (url : Points) :
    (∀ name, identifier url = .ok name →
      name ≠ [] ∧ ∀ c ∈ ['/', '?', '#', '\t', '\r', '\n'], CodePoint.char c ∉ name) ∧
    (CodePoint.char '?' ∉ url → CodePoint.char '#' ∉ url → ∀ c rest, c = '?' ∨ c = '#' →
      (∃ name, identifier url = .ok name ∧ identifier (url ++ .char c :: rest) = .ok name) ∨
      ∃ fault, identifier url = .error fault ∧ identifier (url ++ .char c :: rest) =
        .error (fault.about (url ++ .char c :: rest))) := by
  constructor
  · intro name hname
    refine ⟨(identifier_shape hname).1, fun c hc hmem => ?_⟩
    exact notMem_identifier hc hname (List.mem_map.2 ⟨_, hmem, rfl⟩)
  · intro hquery hfragment c rest hc
    have hurl : ∀ p ∈ url, ¬ Url.IsMark p := by
      rintro p hp (rfl | rfl)
      · exact hquery hp
      · exact hfragment hp
    have hmark : Url.IsMark (.char c) := by
      rcases hc with rfl | rfl
      · exact .inl rfl
      · exact .inr rfl
    rw [identifier_of_path (Url.path_append hurl hmark rest)]
    cases identifier url with
    | ok name => exact .inl ⟨name, rfl, rfl⟩
    | error fault => exact .inr ⟨fault, rfl, rfl⟩

/-- Colons, slashes and brackets in a query do not make another name. -/
theorem identifier_safe_query :
    CodePoint.char '?' ∉ Points.ofString " https://h.io/d/a:b" ∧
      CodePoint.char '#' ∉ Points.ofString " https://h.io/d/a:b" ∧
      Points.ofString "a:b" ≠ [] ∧
      identifier (.ofString " https://h.io/d/a:b?x:/[c\n#?/e") = .ok (.ofString "a:b") := by
  have hname : identifier (.ofString " https://h.io/d/a:b") = .ok (.ofString "a:b") := by
    decide +kernel
  have hquery : CodePoint.char '?' ∉ Points.ofString " https://h.io/d/a:b" := by decide
  have hfragment : CodePoint.char '#' ∉ Points.ofString " https://h.io/d/a:b" := by decide
  obtain ⟨hshape, hsame⟩ := identifier_safe (Points.ofString " https://h.io/d/a:b")
  refine ⟨hquery, hfragment, (hshape _ hname).1, ?_⟩
  rcases hsame hquery hfragment '?' (Points.ofString "x:/[c\n#?/e") (.inl rfl) with
    ⟨name, hok, hsame⟩ | ⟨fault, herror, -⟩
  · cases hname.symm.trans hok
    exact hsame
  · cases hname.symm.trans herror

end Fixture

end ParseBench
