import ParseBench.Bench.Label
import ParseBench.Proofs.Url.Target

set_option relaxedAutoImplicit false
set_option autoImplicit false

/-!
# Names in labels

The name of a fixture is read from the last line of a label, between its first opening bracket and
the closing bracket at its end. This is what a search in the whole label finds, from left to right,
for an opening bracket, one or more characters of a line and a closing bracket at the end, where a
line break may still follow.

## Main definitions

* `ParseBench.Bench.FinalLine` — the last line of a text.
* `ParseBench.Bench.Names` — the name that a line gives.
* `ParseBench.Bench.Match`, `ParseBench.Bench.Finds` — where the pattern of a label matches, and
  what a search for it finds.

## Main results

* `ParseBench.Bench.FinalLine.finds_iff` — a search finds the name that the last line gives.
* `ParseBench.Bench.fixtureOfLabel_taskLabel` — a label gives its name back.
* `ParseBench.Bench.fixtureOfLabel_decodes` — which labels name a fixture, and which one.
-/

namespace ParseBench.Bench

open ParseBench.Text (splitOnChar)

/-! ## The last line -/

/-- The last line of a text, not counting a single line break at the end of the text. -/
def FinalLine (text line : List Char) : Prop :=
  ∃ before after, text = before ++ line ++ after ∧
    (before = [] ∨ before.getLast? = some '\n') ∧ '\n' ∉ line ∧
    after = if text.getLast? = some '\n' then ['\n'] else []

section Lines

variable {text line name : List Char}

/-- Dropping the final newline drops nothing else. -/
lemma dropFinalNewline_append (text : List Char) :
    text = dropFinalNewline text ++ if text.getLast? = some '\n' then ['\n'] else [] := by
  rw [dropFinalNewline]
  by_cases h : text.getLast? = some '\n'
  · obtain ⟨front, rfl⟩ := List.getLast?_eq_some_iff.1 h
    simp
  · simp [h]

/-- The last line begins after the last line break.

**Proof sketch.** If there is a line break, the text is cut at the last one. The pieces after it are
a single one, which holds no line break. -/
lemma lastLine_spec (text : List Char) :
    ∃ before, text = before ++ lastLine text ∧ (before = [] ∨ before.getLast? = some '\n') ∧
      '\n' ∉ lastLine text := by
  by_cases h : '\n' ∈ text
  · obtain ⟨last, front, hsplit, hfree⟩ := List.eq_append_cons_of_mem (List.mem_reverse.2 h)
    have htext : text = front.reverse ++ '\n' :: last.reverse := by
      rw [← List.reverse_reverse text, hsplit]
      simp
    have hline : lastLine text = last.reverse := by
      have hlast : splitOnChar '\n' last.reverse = [last.reverse] :=
        Text.splitOnChar_of_not_mem (by simpa using hfree)
      rw [lastLine, htext, Text.splitOnChar_append, hlast]
      simp
    refine ⟨front.reverse ++ ['\n'], ?_, .inr (by simp), ?_⟩
    · rw [hline, List.append_assoc]
      exact htext
    · rw [hline]
      simpa using hfree
  · have hline : lastLine text = text := by
      rw [lastLine, Text.splitOnChar_of_not_mem h]
      rfl
    exact ⟨[], by rw [hline, List.nil_append], .inl rfl, by rwa [hline]⟩

/-- The line from which the name is read is the last one. -/
lemma finalLine_lastLine (text : List Char) :
    FinalLine text (lastLine (dropFinalNewline text)) := by
  obtain ⟨before, hsplit, hbefore, hfree⟩ := lastLine_spec (dropFinalNewline text)
  refine ⟨before, _, ?_, hbefore, hfree, rfl⟩
  rw [← hsplit]
  exact dropFinalNewline_append text

/-! ## The name that a line gives -/

/-- A line gives a name: it ends with a closing bracket, and the name, which is not empty, is all
that lies between the first opening bracket of the line and this closing bracket. -/
def Names (line name : List Char) : Prop :=
  ∃ front, line = front ++ '[' :: (name ++ [']']) ∧ '[' ∉ front ∧ name ≠ []

/-- **The name of a line** is the text in its brackets. -/
lemma bracketed?_eq_some_iff : bracketed? line = some name ↔ Names line name := by
  constructor
  · intro h
    have hfront : '[' ∉ line.takeWhile (· != '[') := by
      intro hmem
      simpa using List.mem_takeWhile_imp hmem
    rw [bracketed?.eq_def] at h
    split at h
    · next c inner hdrop =>
      obtain rfl : c = '[' := by
        have hhead := List.head_dropWhile_not (· != '[') (l := line) (by rw [hdrop]; simp)
        simpa [hdrop] using hhead
      split at h
      · next hends =>
        rw [Bool.and_eq_true, decide_eq_true_eq, decide_eq_true_eq] at hends
        obtain ⟨inside, rfl⟩ := List.getLast?_eq_some_iff.1 hends.1
        rw [List.dropLast_concat, Option.some.injEq] at h
        subst h
        refine ⟨line.takeWhile (· != '['), ?_, hfront, ?_⟩
        · rw [← hdrop, List.takeWhile_append_dropWhile]
        · rintro rfl
          simp at hends
      · cases h
    · cases h
  · rintro ⟨front, rfl, hfront, hne⟩
    have hdrop : (front ++ '[' :: (name ++ [']'])).dropWhile (· != '[') =
        '[' :: (name ++ [']']) := by
      rw [List.dropWhile_append_of_pos]
      · simp
      · intro c hc
        have hne : c ≠ '[' := fun h => hfront (h ▸ hc)
        simpa using hne
    have hlength : 0 < name.length := List.length_pos_iff.2 hne
    rw [bracketed?, hdrop]
    simp only [List.getLast?_concat, List.dropLast_concat, List.length_append,
      List.length_singleton]
    rw [if_pos]
    simp
    omega

/-! ## Searching -/

/-- The pattern of a label matches at a place of a text: there is an opening bracket, then a name,
of one or more characters that are no line breaks, then a closing bracket, and then the end of the
text or a line break that ends it. -/
structure Match (text before name : List Char) : Prop where
  split : ∃ after, text = before ++ '[' :: (name ++ ']' :: after) ∧ (after = [] ∨ after = ['\n'])
  ne_nil : name ≠ []
  inline : '\n' ∉ name

/-- A search from left to right finds a name: at the first place where the pattern matches, it is
the longest. -/
def Finds (text name : List Char) : Prop :=
  ∃ before, Match text before name ∧
    (∀ before' name', Match text before' name' → before.length ≤ before'.length) ∧
    ∀ name', Match text before name' → name'.length ≤ name.length

/-- All matches are in the last line.

**Proof sketch.** A match and what follows the last line end the text in the same way. Without this
end the match ends where the last line ends. If it began in an earlier line, the line break before
the last line would be one of its characters. -/
lemma FinalLine.match_iff (h : FinalLine text line) :
    ∃ start, ∀ before name, Match text before name ↔
      ∃ front, before = start ++ front ∧ line = front ++ '[' :: (name ++ [']']) ∧ name ≠ [] := by
  obtain ⟨start, after, htext, hstart, hline, hafter⟩ := h
  refine ⟨start, fun before name => ⟨?_, ?_⟩⟩
  · rintro ⟨⟨after', hmatch, hafter'⟩, hne, hname⟩
    have hend : after' = after := by
      rw [hafter, hmatch]
      rcases hafter' with rfl | rfl <;> simp [List.getLast?_cons]
    have hwhole : (before ++ '[' :: (name ++ [']'])) ++ after = (start ++ line) ++ after := by
      rw [← htext, hmatch, hend]
      simp
    have hpieces := List.append_cancel_right hwhole
    rcases List.append_eq_append_iff.1 hpieces with ⟨a, ha, hb⟩ | ⟨front, hfront, hb⟩
    · -- the match would begin before the last line
      cases ha' : a.getLast? with
      | none =>
        obtain rfl := List.getLast?_eq_none_iff.1 ha'
        exact ⟨[], by simpa using ha.symm, by simpa using hb.symm, hne⟩
      | some c =>
        have hc : c = '\n' := by
          rcases hstart with hnil | hbreak
          · simp [(List.append_eq_nil_iff.1 (ha.symm.trans hnil)).2] at ha'
          · simpa [ha, List.getLast?_append, ha'] using hbreak
        have hmem : c ∈ '[' :: (name ++ [']']) := by
          rw [hb]
          exact List.mem_append_left _ (List.mem_of_getLast? ha')
        simp [hc, hname] at hmem
    · exact ⟨front, hfront, hb, hne⟩
  · rintro ⟨front, rfl, rfl, hne⟩
    refine ⟨⟨after, by rw [htext]; simp, ?_⟩, hne, fun hmem => hline (by simp [hmem])⟩
    rw [hafter]
    split
    · exact .inr rfl
    · exact .inl rfl

/-- **A search finds the name that the last line gives.**

**Proof sketch.** The first opening bracket of the line begins the first match, if there is any:
what lies between it and the closing bracket at the end is a name. -/
lemma FinalLine.finds_iff (h : FinalLine text line) : Finds text name ↔ Names line name := by
  obtain ⟨start, hmatch⟩ := h.match_iff
  constructor
  · rintro ⟨before, hfound, hfirst, -⟩
    obtain ⟨front, rfl, hline, hne⟩ := (hmatch _ _).1 hfound
    refine ⟨front, hline, fun hmem => ?_, hne⟩
    -- an earlier bracket would begin a match of its own
    obtain ⟨a, b, rfl⟩ := List.append_of_mem hmem
    have hearlier : Match text (start ++ a) (b ++ '[' :: name) :=
      (hmatch _ _).2 ⟨a, rfl, by rw [hline]; simp, by simp⟩
    have hle := hfirst _ _ hearlier
    simp only [List.length_append, List.length_cons] at hle
    omega
  · rintro ⟨front, hline, hfree, hne⟩
    refine ⟨start ++ front, (hmatch _ _).2 ⟨front, rfl, hline, hne⟩, ?_, ?_⟩
    · intro before' name' h'
      obtain ⟨front', rfl, hline', -⟩ := (hmatch _ _).1 h'
      by_contra hlt
      simp only [List.length_append, not_le] at hlt
      -- the other match would begin inside the text before the first bracket
      have hbracket : front' ++ ['['] <+: line := ⟨name' ++ [']'], by rw [hline']; simp⟩
      have hinside : front' ++ ['['] <+: front := by
        refine List.prefix_of_prefix_length_le hbracket ⟨'[' :: (name ++ [']']), hline.symm⟩ ?_
        simp only [List.length_append, List.length_singleton]
        omega
      exact hfree (hinside.subset (by simp))
    · intro name' h'
      obtain ⟨front', hfront, hline', -⟩ := (hmatch _ _).1 h'
      obtain rfl := List.append_cancel_left hfront
      have hsame := List.append_cancel_left (hline.symm.trans hline')
      simp only [List.cons.injEq, List.append_cancel_right_eq, true_and] at hsame
      rw [hsame]

end Lines

/-! ## Labels -/

variable {label name : String} {line : List Char}

/-- **A label names the fixture that a search in it finds.** -/
lemma fixtureOfLabel_eq_ok_iff_finds :
    fixtureOfLabel label = .ok name ↔ Finds label.toList name.toList := by
  rw [(finalLine_lastLine label.toList).finds_iff, ← bracketed?_eq_some_iff, fixtureOfLabel]
  cases bracketed? (lastLine (dropFinalNewline label.toList)) with
  | none => simp
  | some found => simp [← String.toList_inj]

/-- A label names a fixture exactly if its last line does. -/
lemma fixtureOfLabel_eq_ok_iff (h : FinalLine label.toList line) :
    fixtureOfLabel label = .ok name ↔ Names line name.toList := by
  rw [fixtureOfLabel_eq_ok_iff_finds, h.finds_iff]

/-- A label whose last line gives no name is refused. -/
lemma fixtureOfLabel_eq_error_iff (h : FinalLine label.toList line) :
    fixtureOfLabel label = .error ⟨label⟩ ↔ ∀ name, ¬ Names line name := by
  constructor
  · intro hfault name hname
    rw [← String.toList_ofList (l := name), ← fixtureOfLabel_eq_ok_iff h, hfault] at hname
    cases hname
  · intro hnone
    cases hend : fixtureOfLabel label with
    | ok name => exact absurd ((fixtureOfLabel_eq_ok_iff h).1 hend) (hnone _)
    | error fault =>
      rw [fixtureOfLabel] at hend
      split at hend
      · cases hend
      · exact hend.symm

/-- **The label of a task gives the name of its fixture back**, if the name is not empty and holds
no line break. -/
lemma fixtureOfLabel_taskLabel (hne : name ≠ "") (hline : '\n' ∉ name.toList) :
    fixtureOfLabel (taskLabel name) = .ok name := by
  have hlabel : (taskLabel name).toList = "parser_py".toList ++ '[' :: (name.toList ++ [']']) := by
    simp [taskLabel]
  have hfinal : FinalLine (taskLabel name).toList (taskLabel name).toList := by
    refine ⟨[], [], by simp, .inl rfl, ?_, ?_⟩
    · rw [hlabel]
      simp [hline]
    · rw [hlabel]
      simp [List.getLast?_cons]
  rw [fixtureOfLabel_eq_ok_iff hfinal]
  exact ⟨"parser_py".toList, hlabel, by decide, by simpa using hne⟩

/-- **Decoding of labels.** Every label has a last line, not counting a single line break at its
end. The label names a fixture exactly if this line ends with a closing bracket and there is
something between its first opening bracket and that closing bracket, and what is between them is
the name; otherwise the label is refused. The name is what a search finds, from left to right, for
an opening bracket, as many characters of a line as possible, and a closing bracket at the end or
before a line break at the end. So the label of a task gives a name without line breaks back,
whatever brackets it holds. -/
theorem fixtureOfLabel_decodes (label : String) :
    (∃ line, FinalLine label.toList line) ∧
    (∀ line, FinalLine label.toList line →
      (∀ name, fixtureOfLabel label = .ok name ↔ Names line name.toList) ∧
      (fixtureOfLabel label = .error ⟨label⟩ ↔ ∀ name, ¬ Names line name)) ∧
    (∀ name, fixtureOfLabel label = .ok name ↔ Finds label.toList name.toList) ∧
    ∀ name, name ≠ "" → '\n' ∉ name.toList → fixtureOfLabel (taskLabel name) = .ok name := by
  refine ⟨⟨_, finalLine_lastLine label.toList⟩, fun line hline => ?_,
    fun name => fixtureOfLabel_eq_ok_iff_finds, fun name => fixtureOfLabel_taskLabel⟩
  exact ⟨fun name => fixtureOfLabel_eq_ok_iff hline, fixtureOfLabel_eq_error_iff hline⟩

/-- Of two lines the last one counts, and of its brackets the first and the last. -/
theorem fixtureOfLabel_decodes_nested :
    FinalLine "x[y]\na[b[c]]\n".toList "a[b[c]]".toList ∧
      fixtureOfLabel "x[y]\na[b[c]]\n" = .ok "b[c]" ∧
      fixtureOfLabel (taskLabel "]b[]") = .ok "]b[]" := by
  have hline : FinalLine "x[y]\na[b[c]]\n".toList "a[b[c]]".toList :=
    ⟨"x[y]\n".toList, ['\n'], by decide, .inr (by decide), by decide, by decide⟩
  obtain ⟨-, hnames, -, hback⟩ := fixtureOfLabel_decodes "x[y]\na[b[c]]\n"
  refine ⟨hline, ?_, hback "]b[]" (by decide) (by decide)⟩
  exact ((hnames _ hline).1 "b[c]").2 ⟨['a'], by decide, by decide, by decide⟩

end ParseBench.Bench
