import ParseBench.Console.Backend
import Mathlib.Tactic.Lemma

set_option relaxedAutoImplicit false
set_option autoImplicit false

/-!
# Lines that a console shows as they are

A plain console writes every line as it is. A terminal without colors does so with a line that fits
its width and has neither emoji codes nor characters of another width than one cell.

## Main definitions

* `ParseBench.Text.Upright` — texts whose characters take one cell each.
* `ParseBench.Text.CellsUpTo` — a bound on the cells of a text.
* `ParseBench.Console.Rich.Legible`, `ParseBench.Console.Backend.Legible` — the lines that are shown
  as they are.
* `ParseBench.Console.Kind` — the kinds of messages that are a line, and their marks.

## Main results

* `ParseBench.Console.breakPlaces_of_fits` — a line that fits is not broken.
* `ParseBench.Console.Rich.message_of_fits` — what a terminal writes for a line.
* `ParseBench.Console.Backend.err_of_ne_error` — only errors are written to the standard error.
* `ParseBench.Console.Backend.written_of_legible` — what a console writes for a message.
-/

namespace ParseBench

open ParseBench.Text (charCells cellWidth cellsFrom joiner emojiSelector selectorCells isSpace
  trimSpaceEnd)

/-! ## Texts of narrow characters -/

namespace Text

/-- Every character of a text takes one cell, whatever stands before it. -/
def Upright (s : List Char) : Prop :=
  ∀ c ∈ s, charCells c = 1 ∧ c ≠ joiner ∧ c ≠ emojiSelector

instance (s : List Char) : Decidable (Upright s) :=
  List.decidableBAll (fun c => charCells c = 1 ∧ c ≠ joiner ∧ c ≠ emojiSelector) s

variable {s t : List Char} {c : Char}

/-- A part of an upright text is upright. -/
lemma Upright.subset (h : Upright s) (hts : t ⊆ s) : Upright t := fun c hc => h c (hts hc)

/-- An upright text takes as many cells as it has characters. -/
lemma cellsFrom_of_upright (h : Upright s) (last : Option Char) : cellsFrom last s = s.length := by
  induction s generalizing last with
  | nil => rfl
  | cons c rest ih =>
    obtain ⟨hcells, hjoiner, hselector⟩ := h c List.mem_cons_self
    have hrest := ih (h.subset (List.subset_cons_self c rest))
    rw [cellsFrom.eq_def]
    simp [hjoiner, hselector, hcells, hrest, Nat.add_comm]

/-- A text of such characters has as many cells as characters. -/
lemma Upright.cellWidth (h : Upright s) : cellWidth s = s.length := cellsFrom_of_upright h none

/-- The controls take no cell. -/
lemma le_toNat_of_charCells (h : charCells c = 1) : 0x20 ≤ c.toNat := by
  rcases Nat.lt_or_ge c.toNat 0x20 with hlt | hge
  · have hzero : charCells c = 0 := by
      simp [charCells, hlt]
    rw [hzero] at h
    cases h
  · exact hge

/-- No control character is in an upright text. -/
lemma Upright.not_mem (h : Upright s) (hc : c.toNat < 0x20) : c ∉ s := fun hmem =>
  absurd (le_toNat_of_charCells (h c hmem).1) (Nat.not_le.2 hc)

/-- What is left of a text without the spacing at its end is its beginning. -/
lemma trimSpaceEnd_prefix (s : List Char) : trimSpaceEnd s <+: s := by
  rw [trimSpaceEnd, ← List.reverse_suffix, List.reverse_reverse]
  exact List.dropWhile_suffix _

/-- No character takes more than two cells. -/
lemma charCells_le (c : Char) : charCells c ≤ 2 := by
  unfold charCells
  simp only
  repeat' split
  all_goals omega

/-- A selector adds at most one cell. -/
lemma selectorCells_le (last : Option Char) : selectorCells last ≤ 1 := by
  cases last with
  | none => exact Nat.zero_le 1
  | some c =>
    rw [selectorCells]
    split <;> omega

/-- A text takes at most two cells for each of its characters. -/
lemma cellsFrom_le (last : Option Char) (s : List Char) : cellsFrom last s ≤ 2 * s.length := by
  fun_induction cellsFrom last s with
  | case1 => exact Nat.zero_le _
  | case2 => exact Nat.zero_le _
  | case3 last c hjoiner _ after ih =>
    simp only [List.length_cons]
    omega
  | case4 last c rest hjoiner hselector ih =>
    have hadded := selectorCells_le last
    rw [List.length_cons]
    omega
  | case5 last c rest hjoiner hselector n ih =>
    have hadded : n ≤ 2 := charCells_le c
    rw [List.length_cons]
    omega

/-- A text takes at most so many cells for each of its characters, and so does every choice of
them. -/
def CellsUpTo (most : Nat) (s : List Char) : Prop :=
  ∀ t ⊆ s, cellWidth t ≤ most * t.length

/-- The characters of a text that are not wide take one cell each. -/
lemma Upright.cellsUpTo (h : Upright s) : CellsUpTo 1 s := fun t hts => by
  have hcells : Text.cellWidth t = t.length := (h.subset hts).cellWidth
  omega

/-- Every text takes at most two cells for each of its characters. -/
lemma cellsUpTo_two (s : List Char) : CellsUpTo 2 s := fun t _ => cellsFrom_le none t

/-- A bound on the cells of a text is one on the cells of its parts. -/
lemma CellsUpTo.subset {most : Nat} (h : CellsUpTo most s) (hts : t ⊆ s) : CellsUpTo most t :=
  fun _ hu => h _ (List.Subset.trans hu hts)

end Text

open ParseBench.Text (Upright CellsUpTo)

namespace Console

/-! ## Breaking lines -/

/-- The words of a line with the spacing around them stand in it one after the other. -/
lemma flatten_spacedWordsUpTo (fuel : Nat) (s : List Char) :
    (spacedWordsUpTo fuel s).flatten <+: s := by
  induction fuel generalizing s with
  | zero => exact List.nil_prefix
  | succ fuel ih =>
    rw [spacedWordsUpTo]
    generalize hbefore : s.takeWhile isSpace = before
    obtain ⟨rest, rfl⟩ : before <+: s := hbefore ▸ List.takeWhile_prefix _
    rw [List.drop_left]
    generalize hword : (rest.takeWhile fun c => !isSpace c) = word
    obtain ⟨rest, rfl⟩ : word <+: rest := hword ▸ List.takeWhile_prefix _
    rw [List.drop_left]
    generalize hafter : rest.takeWhile isSpace = after
    obtain ⟨rest, rfl⟩ : after <+: rest := hafter ▸ List.takeWhile_prefix _
    rw [List.drop_left]
    split
    · exact List.nil_prefix
    · rw [List.flatten_cons, ← List.append_assoc, ← List.append_assoc]
      exact (List.prefix_append_right_inj _).2 (ih rest)

variable {width most : Nat}

/-- A word that fits is added to the line, and the line gets longer by no more than the word's
cells. -/
lemma Breaks.add_of_fits (overflow : Overflow) {b : Breaks} {word : List Char}
    (hword : CellsUpTo most word) (hfits : b.cells + most * word.length ≤ width) :
    (b.add width overflow word).places = b.places ∧
      (b.add width overflow word).cells ≤ b.cells + most * word.length := by
  have hprefix := Text.trimSpaceEnd_prefix word
  have htrimmed := hword _ hprefix.subset
  have hshorter := Nat.mul_le_mul_left most hprefix.length_le
  have hsize := hword word (List.Subset.refl word)
  rw [Breaks.add.eq_def]
  simp only
  rw [if_pos (by omega)]
  exact ⟨rfl, by simp only; omega⟩

/-- Words that fit together are added to one line. -/
lemma Breaks.foldl_add_of_fits (overflow : Overflow) {words : List (List Char)}
    (hwords : ∀ word ∈ words, CellsUpTo most word) (b : Breaks)
    (hfits : b.cells + most * words.flatten.length ≤ width) :
    (words.foldl (Breaks.add width overflow) b).places = b.places := by
  induction words generalizing b with
  | nil => rfl
  | cons word rest ih =>
    rw [List.forall_mem_cons] at hwords
    rw [List.flatten_cons, List.length_append, Nat.mul_add] at hfits
    have hfirst : b.cells + most * word.length ≤ width := by omega
    obtain ⟨hplaces, hcells⟩ := Breaks.add_of_fits overflow hwords.1 hfirst
    rw [List.foldl_cons, ih hwords.2 _ (by omega), hplaces]

/-- **A line that fits is not broken.** -/
lemma breakPlaces_of_fits (overflow : Overflow) {s : List Char} (hs : CellsUpTo most s)
    (hfits : most * s.length ≤ width) : breakPlaces width overflow s = [] := by
  have hprefix := flatten_spacedWordsUpTo s.length s
  have hshorter := Nat.mul_le_mul_left most hprefix.length_le
  rw [breakPlaces, Breaks.foldl_add_of_fits overflow, List.reverse_nil]
  · intro word hword
    exact hs.subset fun c hc => hprefix.subset (List.mem_flatten.2 ⟨word, hword, hc⟩)
  · simp only
    omega

/-! ## Laying out a line -/

namespace StyledText

variable {width most : Nat} {s : List Char} {c : Char}

/-- A character that is not in a text stands at no place of it. -/
lemma placesOf_of_not_mem (h : c ∉ s) (place : Nat) : placesOf c place s = [] := by
  induction s generalizing place with
  | nil => rfl
  | cons d rest ih =>
    rw [List.mem_cons, not_or] at h
    rw [placesOf, beq_false_of_ne h.1]
    exact ih h.2 _

/-- Nothing is cut from a line that fits. -/
lemma truncate_of_fits (overflow : Overflow) (hs : CellsUpTo most s)
    (hfits : most * s.length ≤ width) : (plain s).truncate width overflow = plain s := by
  have hcells : cellWidth (plain s).chars ≤ most * s.length := hs s (List.Subset.refl s)
  rw [truncate.eq_def, if_neg (by omega)]

/-- No spacing is left out of a line that fits. -/
lemma trimExcess_of_fits (hfits : s.length ≤ width) : (plain s).trimExcess width = plain s := by
  simp [trimExcess, plain, setChars, Nat.sub_eq_zero_of_le hfits]

/-- A line that fits and has no controls in it is laid out as it is. -/
lemma wrap_of_fits (hmost : 0 < most) (hs : CellsUpTo most s) (hfits : most * s.length ≤ width)
    (hnewline : '\n' ∉ s) (htab : '\t' ∉ s) :
    (plain s).wrap .ragged width .fold = [plain s] := by
  have hbreak : placesOf '\n' 0 (plain s).chars = [] := placesOf_of_not_mem hnewline 0
  have htabs : placesOf '\t' 0 (plain s).chars = [] := placesOf_of_not_mem htab 0
  have hplaces : breakPlaces width .fold (plain s).chars = [] := breakPlaces_of_fits .fold hs hfits
  have hshort : s.length ≤ width := Nat.le_trans (Nat.le_mul_of_pos_left _ hmost) hfits
  rw [wrap, lines, hbreak]
  simp only [List.flatMap_cons, List.flatMap_nil, List.append_nil]
  rw [expandTabs, htabs]
  simp only
  rw [hplaces, divide, List.isEmpty_nil, if_pos rfl, List.map_singleton, trimExcess_of_fits hshort,
    place, truncate_of_fits .fold hs hfits, truncate_of_fits .fold hs hfits]

/-- A line without styles is one segment. -/
lemma segments_plain (hne : s ≠ []) : (plain s).segments = [⟨s, .none⟩] := by
  have hlength : 0 < s.length := List.length_pos_iff.2 hne
  simp [segments, allSpans, plain, segmentsFrom, styleAt, hlength, hne]

end StyledText

namespace Rich

/-- A terminal shows a line as it is: the line has no emoji codes, its characters take one cell
each, and it fits. -/
structure Legible (width : Nat) (s : List Char) : Prop where
  codeless : replaceEmoji s = s
  upright : Upright s
  fits : s.length ≤ width

instance (width : Nat) (s : List Char) : Decidable (Legible width s) :=
  decidable_of_iff (replaceEmoji s = s ∧ Upright s ∧ s.length ≤ width)
    ⟨fun h => ⟨h.1, h.2.1, h.2.2⟩, fun h => ⟨h.codeless, h.upright, h.fits⟩⟩

variable {width : Nat} {s : String}

/-- A legible text has no markup and no emoji code, so it is shown as it is. -/
lemma Legible.shownText {s : List Char} (h : Legible width s) : Markup.shownText s = s := by
  rw [Markup.shownText, h.codeless, List.filter_eq_self]
  intro c hc
  have hcells := Text.le_toNat_of_charCells (h.upright c hc).1
  simp only [Markup.isControl, Bool.not_eq_true', Bool.or_eq_false_iff, beq_eq_false_iff_ne]
  omega

/-- **What a terminal writes for a line** that fits, with the emoji codes replaced. -/
lemma message_of_fits {most : Nat} (tone : Tone) {shown : List Char}
    (hshown : Markup.shownText s.toList = shown) (hne : shown ≠ []) (hmost : 0 < most)
    (hcells : CellsUpTo most shown) (hfits : most * shown.length ≤ width)
    (hnewline : '\n' ∉ shown) (htab : '\t' ∉ shown) :
    Screen.message ⟨width, false⟩ tone s = String.ofList (shown ++ ['\n']) := by
  have hlength : 0 < shown.length := List.length_pos_iff.2 hne
  have hlines : toneLines width tone s = [[Segment.on tone.style ⟨shown, .none⟩]] := by
    rw [toneLines, hshown, StyledText.wrap_of_fits hmost hcells hfits hnewline htab,
      List.map_singleton, StyledText.segments_plain hne, List.map_singleton]
  have hwidth : width ≠ 0 := by
    have := Nat.mul_pos hmost hlength
    omega
  have hbound : Line.cells [Segment.on tone.style ⟨shown, .none⟩] ≤ width :=
    Nat.le_trans (hcells shown (List.Subset.refl shown)) hfits
  have hcrop : Line.crop width [Segment.on tone.style ⟨shown, .none⟩] =
      [Segment.on tone.style ⟨shown, .none⟩] := by
    rw [Line.crop, if_neg (Nat.not_lt.2 hbound)]
  rw [Screen.message, hlines, Screen.written]
  simp only [List.flatMap_cons, List.flatMap_nil, hcrop]
  simp [hwidth, Line.shown, Segment.shown, Segment.on]

/-- **What a terminal writes for a line** that it shows as it is. -/
lemma message_of_legible (tone : Tone) (hne : s ≠ "") (h : Legible width s.toList) :
    Screen.message ⟨width, false⟩ tone s = s ++ "\n" := by
  have hchars : s.toList ≠ [] := by simpa using hne
  have hfits := h.fits
  rw [message_of_fits tone h.shownText hchars Nat.one_pos h.upright.cellsUpTo (by omega)
    (h.upright.not_mem (by decide)) (h.upright.not_mem (by decide))]
  simp

end Rich

/-! ## Consoles -/

/-- The kinds of messages that are a line. -/
inductive Kind where
  | info
  | success
  | warning
  | error
deriving DecidableEq, Repr

namespace Kind

/-- A message of a kind. -/
def message : Kind → String → Message
  | .info => .info
  | .success => .success
  | .warning => .warning
  | .error => .error

/-- What a console puts before a message of a kind. -/
def mark : Kind → Backend → String
  | .info, _ => "  "
  | .success, .plain => "  [ok] "
  | .success, .rich _ => "  ✓ "
  | .warning, .plain => "  [warn] "
  | .warning, .rich _ => "  ⚠ "
  | .error, .plain => "  [error] "
  | .error, .rich _ => "  ✗ "

/-- Errors go to the standard error, everything else to the standard output. -/
def stream : Kind → String → Written
  | .error => .toErr
  | _ => .toOut

end Kind

namespace Backend

/-- **Only errors** are written to the standard error. -/
lemma err_of_ne_error (b : Backend) {m : Message} (h : ∀ text, m ≠ .error text) :
    (b.written m).err = "" := by
  cases b with
  | plain =>
    cases m with
    | error text => exact absurd rfl (h text)
    | info | success | warning | step | table | pairs | block => rfl
  | rich screen =>
    cases m with
    | error text => exact absurd rfl (h text)
    | info | success | warning | step | block => rfl
    | table headers rows title =>
      rw [written, render, Rich.render]
      cases Rich.tableLines screen.width headers rows title <;> rfl
    | pairs entries title =>
      rw [written, render, Rich.render]
      cases Rich.pairLines screen.width entries title <;> rfl

/-- A console shows a line as it is. -/
def Legible : Backend → String → Prop
  | .plain, _ => True
  | .rich screen, line => screen.color = false ∧ Rich.Legible screen.width line.toList

instance : (b : Backend) → (line : String) → Decidable (b.Legible line)
  | .plain, _ => inferInstanceAs (Decidable True)
  | .rich screen, line =>
    inferInstanceAs (Decidable (screen.color = false ∧ Rich.Legible screen.width line.toList))

/-- **What a console writes for a message**: its mark and its text, as they are. -/
lemma written_of_legible {b : Backend} {kind : Kind} {text : String}
    (h : b.Legible (kind.mark b ++ text)) :
    b.written (kind.message text) = kind.stream (kind.mark b ++ text ++ "\n") := by
  cases b with
  | plain => cases kind <;> rfl
  | rich screen =>
    obtain ⟨width, color⟩ := screen
    obtain ⟨rfl, h⟩ := h
    have hne : kind.mark (.rich ⟨width, false⟩) ++ text ≠ "" := by
      cases kind <;> simp [Kind.mark]
    cases kind with
    | info => exact congrArg Written.toOut (Rich.message_of_legible .info hne h)
    | success => exact congrArg Written.toOut (Rich.message_of_legible .success hne h)
    | warning => exact congrArg Written.toOut (Rich.message_of_legible .warning hne h)
    | error => exact congrArg Written.toErr (Rich.message_of_legible .error hne h)

/-- Colons alone are no emoji codes. -/
example : (rich ownScreen).Legible "  Comments: ['a :) b', ': c :']" := by decide +kernel

end Backend

end Console

end ParseBench
