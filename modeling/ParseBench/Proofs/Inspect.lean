import ParseBench.Inspect
import ParseBench.Proofs.Bench.Invocation
import ParseBench.Proofs.Fixture.Refetch

set_option relaxedAutoImplicit false
set_option autoImplicit false

/-!
# The text that reaches the parser

A file that is inspected is read as text, so that every line break in it becomes a single LF. An
entry of the cache is taken as it is. So the parser gets the same text of the same bytes in both
ways exactly if there is no CR among them.

## Main definitions

* `ParseBench.Shows` — the calls and readings of the clock of a computation, also if it fails.

## Main results

* `ParseBench.Text.unifyNewlines_eq_self_iff` — which texts are kept when line breaks are unified.
* `ParseBench.inspect_shows` — what an inspection does.
* `ParseBench.parsed_texts_agree` — the texts that reach the parser.
-/

namespace ParseBench

open Stateful
open ParseBench.Bench (Clock Config Task Worked callOf)
open ParseBench.Files
open ParseBench.Http (Fetch Network)
open ParseBench.Text (Bytes Points)

/-! ## Line breaks -/

/-- A character other than a carriage return is kept. -/
lemma Text.unifyNewlines_cons_of_ne {c : Char} (hc : c ≠ '\r') (rest : List Char) :
    Text.unifyNewlines (c :: rest) = c :: Text.unifyNewlines rest :=
  Text.unifyNewlines.eq_3 c rest (fun _ h _ => hc h) hc

/-- No carriage return is left. -/
lemma Text.not_mem_unifyNewlines (s : List Char) : '\r' ∉ Text.unifyNewlines s := by
  induction s using Text.unifyNewlines.induct with
  | case1 rest ih => simpa [Text.unifyNewlines] using ih
  | case2 rest hne ih => simpa [Text.unifyNewlines] using ih
  | case3 c rest hne hc ih =>
    rw [Text.unifyNewlines_cons_of_ne hc, List.mem_cons, not_or]
    exact ⟨fun h => hc h.symm, ih⟩
  | case4 => exact List.not_mem_nil

/-- **Unifying line breaks** keeps the texts without CR, and no others. -/
lemma Text.unifyNewlines_eq_self_iff {s : List Char} : Text.unifyNewlines s = s ↔ '\r' ∉ s := by
  constructor
  · intro h
    rw [← h]
    exact Text.not_mem_unifyNewlines s
  · intro h
    induction s with
    | nil => rfl
    | cons c rest ih =>
      rw [List.mem_cons, not_or] at h
      rw [Text.unifyNewlines_cons_of_ne (Ne.symm h.1), ih h.2]

/-- The text of a file that holds a text. -/
lemma Files.Volume.readText_of_read {v : Volume} {path : Path} {b : Bytes} {s : String}
    (hread : v.read path = .ok b) (hdecode : Text.Utf8.decode b = .ok s) :
    v.readText path = .ok (String.ofList (Text.unifyNewlines s.toList)) := by
  rw [Text.Utf8.decode] at hdecode
  cases hchars : Text.Utf8.decodeChars b with
  | error fault =>
    rw [hchars] at hdecode
    cases hdecode
  | ok chars =>
    rw [hchars] at hdecode
    cases hdecode
    rw [Volume.readText, hread, String.toList_ofList]
    change (do
      let cs ← (Text.Utf8.decodeChars b).mapError TextFault.utf8
      return String.ofList (Text.unifyNewlines cs)) = _
    rw [hchars]
    rfl

/-! ## What a computation shows -/

/-- The calls and readings of the clock that a computation adds to a journal: all of these if it
gives a result, and otherwise the first of them. -/
def Shows {ε α : Type} (work : List Event) (act : Act ε α) (j : Journal) : Prop :=
  ∃ done, done <+: work ∧ Worked j done (act j).2 ∧ ∀ a, (act j).1 = .ok a → done = work

namespace Shows

variable {ε δ α β : Type} {work work' : List Event} {act : Act ε α} {j : Journal}

/-- A result that is there already shows nothing. -/
lemma ofExcept (r : Except ε α) (j : Journal) : Shows [] (Act.ofExcept r) j := by
  refine ⟨[], List.prefix_rfl, ?_, fun _ _ => rfl⟩
  rw [Act.ofExcept_eq]
  exact .refl j

/-- Logging shows nothing. -/
lemma log (source : Log.Source) (level : Log.Level) (message : String) (j : Journal) :
    Shows [] (Act.log source level message : Act ε Unit) j :=
  ⟨[], List.prefix_rfl, .log j _, fun _ _ => rfl⟩

/-- Work that is shown one after the other. -/
lemma bind {next : α → Act ε β} (h : Shows work act j)
    (hnext : ∀ a j', act j = (.ok a, j') → Shows work' (next a) j') :
    Shows (work ++ work') (act >>= next) j := by
  obtain ⟨done, hdone, hworked, hall⟩ := h
  rw [Shows, bind_eq]
  generalize act j = ended at hworked hall hnext
  obtain ⟨r, j₁⟩ := ended
  cases r with
  | error e =>
    refine ⟨done, hdone.trans (List.prefix_append _ _), hworked, fun a ha => ?_⟩
    cases ha
  | ok a =>
    obtain rfl := hall a rfl
    obtain ⟨done', hdone', hworked', hall'⟩ := hnext a j₁ rfl
    refine ⟨done ++ done', (List.prefix_append_right_inj done).2 hdone', hworked.trans hworked',
      fun b hb => ?_⟩
    rw [hall' b hb]

/-- What a failure becomes does not change what is shown. -/
lemma mapFailure (f : ε → δ) (h : Shows work act j) : Shows work (act.mapFailure f) j := by
  obtain ⟨done, hdone, hworked, hall⟩ := h
  rw [Shows, Act.mapFailure_eq]
  refine ⟨done, hdone, hworked, fun a ha => hall a ?_⟩
  dsimp only at ha
  generalize (act j).1 = r at ha
  cases r with
  | error e => cases ha
  | ok b =>
    cases ha
    rfl

/-- A reading of the clock shows itself. -/
lemma read (clock : Clock) (j : Journal) : Shows [.clockRead] clock.read j := by
  cases hread : clock.read j with
  | mk r j₁ =>
    rw [Shows, hread]
    cases r with
    | error e =>
      rw [Clock.read_of_error hread]
      exact ⟨[], List.nil_prefix, .refl j, fun a ha => by cases ha⟩
    | ok time => exact ⟨_, List.prefix_rfl, Clock.read_eq_ok hread, fun _ _ => rfl⟩

/-- A reading of the clock in seconds shows one reading. -/
lemma readSeconds (clock : Clock) (j : Journal) :
    Shows [.clockRead] (ParseBench.readSeconds clock) j :=
  ((read clock j).mapFailure _).bind fun now j' _ => .ofExcept (seconds now) j'

/-- A parse is one call. -/
lemma parse (p : Parser) (source : String) (j : Journal) :
    Shows [.call ⟨.blocking, source⟩] (p.parse .blocking source) j := by
  rw [Shows, p.parse_eq]
  rcases p.binding.call_blocking source j with ⟨reply, hcall⟩ | ⟨reply, hcall, hno⟩
  · refine ⟨_, List.prefix_rfl, ?_, fun _ _ => rfl⟩
    rw [hcall]
    exact .call j ⟨"", source⟩
  · refine ⟨[], List.nil_prefix, ?_, fun o ho => ?_⟩
    · rw [hcall]
      exact .refl j
    · rw [Parser.answer, hcall] at ho
      exact absurd ho (hno o)

end Shows

/-- **An inspection** parses the text of the file once, between two readings of the clock. -/
lemma inspect_shows (p : Parser) (clock : Clock) {v : Volume} {path : Path} {source : String}
    (hread : v.readText path = .ok source) (j : Journal) :
    Shows [.clockRead, .call ⟨.blocking, source⟩, .clockRead] (inspect p clock v path) j := by
  rw [inspect, hread]
  change Shows ([] ++ ([.clockRead] ++ ([.call ⟨.blocking, source⟩] ++
    ([.clockRead] ++ ([] ++ ([] ++ [])))))) _ _
  refine (Shows.ofExcept _ j).bind fun text j₁ htext => ?_
  obtain rfl : text = source := by
    rw [Act.ofExcept_eq] at htext
    cases htext
    rfl
  refine (Shows.readSeconds clock j₁).bind fun start j₂ _ => ?_
  refine ((Shows.parse p text j₂).mapFailure _).bind fun outcome j₃ _ => ?_
  refine (Shows.readSeconds clock j₃).bind fun stop j₄ _ => ?_
  refine (Shows.ofExcept _ j₄).bind fun tree j₅ _ => ?_
  exact (Shows.log _ _ _ j₅).bind fun _ j₆ _ => .ofExcept (.ok _) j₆

/-- An invocation parses the content of the fixture once. -/
lemma invoke_shows (p : Parser) (task : Task) (j : Journal) :
    Shows [callOf task.fixture] (Bench.invoke p task) j := by
  obtain ⟨done, hdone, hworked⟩ := Bench.invoke_worked p task j
  cases hinvoke : Bench.invoke p task j with
  | mk r j₁ =>
    rw [Shows, hinvoke]
    cases r with
    | error e =>
      rw [hinvoke] at hworked
      exact ⟨done, hdone, hworked, fun a ha => by cases ha⟩
    | ok _ => exact ⟨_, List.prefix_rfl, Bench.invoke_eq_ok hinvoke, fun _ _ => rfl⟩

/-! ## The two texts -/

/-- **The texts of the same bytes** that reach the parser, for bytes that are the UTF-8 of a text.
If they are in a file that is inspected, the parser gets the text with every line break made a
single LF. If they are in an entry of the cache, a resolution returns the text itself, also among
other URLs and along any schedule, unless one of these names a fixture whose hidden file is this
entry; the parser gets what is returned. So the two are the same if and only if there is no CR in
the text. -/
theorem parsed_texts_agree {b : Bytes} {s : String} (hdecode : Text.Utf8.decode b = .ok s) :
    (∀ (p : Parser) (clock : Clock) (v : Volume) (path : Path) (j : Journal),
      v.read path = .ok b →
        Shows [.clockRead, .call ⟨.blocking, String.ofList (Text.unifyNewlines s.toList)⟩,
          .clockRead] (inspect p clock v path) j) ∧
    (∀ (c : Config) (follow : Bool) (net : Network) (v : Volume) (url : Points) (name : String),
      v.WellFormed → Fixture.identifier url = .ok (.ofString name) →
      v.read (c.cache.child name) = .ok b →
        (∃ p, Fixture.resolve c follow net (.ofVolume v) [url] = (p, .ok [⟨name, s⟩])) ∧
        ∀ urls turns p fs, url ∈ urls →
          (∀ url' ∈ urls, ∀ n, Fixture.identifier url' = .ok n →
            .ofString name ≠ Fixture.hiddenName n) →
          Fixture.resolveAlong c follow net turns (.ofVolume v) urls = (p, .ok fs) →
            List.Forall₂ (fun url' f => url' = url → f = ⟨name, s⟩) urls fs) ∧
    (∀ (p : Parser) (name : String) (j : Journal),
      Shows [.call ⟨.blocking, s⟩] (Bench.invoke p (.ofFixture ⟨name, s⟩)) j) ∧
    (String.ofList (Text.unifyNewlines s.toList) = s ↔ '\r' ∉ s.toList) := by
  refine ⟨fun p clock v path j hread => ?_, fun c follow net v url name hv hid hread => ⟨?_, ?_⟩,
    fun p name j => ?_, ?_⟩
  · exact inspect_shows p clock (Volume.readText_of_read hread hdecode) j
  · exact Fixture.resolve_hit_alone follow net hid hread hdecode
  · intro urls turns p fs hurl hhidden h
    exact Fixture.resolveAlong_hit hv hurl hid hhidden hread hdecode h
  · exact invoke_shows p (.ofFixture ⟨name, s⟩) j
  · rw [← Text.unifyNewlines_eq_self_iff, ← String.toList_inj, String.toList_ofList]

/-- The text of an entry that is there, without a CR. -/
theorem parsed_texts_agree_entry :
    Text.Utf8.decode [120] = .ok "x" ∧
      Shows [.clockRead, .call ⟨.blocking, "x"⟩, .clockRead]
        (inspect Bench.sampleParser Bench.sampleClock Fixture.sampleVolume
          (Fixture.sampleConfig.cache.child "a")) .empty ∧
      ∃ p, Fixture.resolve Fixture.sampleConfig false (Fixture.sampleNetwork fun _ => 0)
        (.ofVolume Fixture.sampleVolume) [.ofString "http://h/a"] = (p, .ok [⟨"a", "x"⟩]) := by
  have hdecode : Text.Utf8.decode [120] = .ok "x" := by decide
  have hread : Fixture.sampleVolume.read (Fixture.sampleConfig.cache.child "a") = .ok [120] := by
    decide
  have hid : Fixture.identifier (.ofString "http://h/a") = .ok (.ofString "a") := by rfl
  obtain ⟨hinspect, hresolve, -, hagree⟩ := parsed_texts_agree hdecode
  have hshows := hinspect Bench.sampleParser Bench.sampleClock _ _ .empty hread
  rw [hagree.2 (by decide)] at hshows
  exact ⟨hdecode, hshows, (hresolve Fixture.sampleConfig false (Fixture.sampleNetwork fun _ => 0)
    Fixture.sampleVolume _ _ Fixture.sampleVolume_wellFormed hid hread).1⟩

/-- A volume on which the entry of the cache is a line that ends in CR LF. -/
def lineVolume : Volume :=
  Change.applyAll Fixture.sampleVolume [.write ["t", "a"] [120, 13, 10]]

/-- If the line is inspected, its CR is lost. -/
theorem parsed_texts_differ :
    Text.Utf8.decode [120, 13, 10] = .ok "x\r\n" ∧
      lineVolume.read (Fixture.sampleConfig.cache.child "a") = .ok [120, 13, 10] ∧
      (inspect Bench.sampleParser Bench.sampleClock lineVolume
        (Fixture.sampleConfig.cache.child "a") .empty).2.calls = [⟨.blocking, "x\n"⟩] ∧
      ∃ p, Fixture.resolve Fixture.sampleConfig false (Fixture.sampleNetwork fun _ => 0)
        (.ofVolume lineVolume) [.ofString "http://h/a"] = (p, .ok [⟨"a", "x\r\n"⟩]) := by
  have hdecode : Text.Utf8.decode [120, 13, 10] = .ok "x\r\n" := by decide
  have hread : lineVolume.read (Fixture.sampleConfig.cache.child "a") = .ok [120, 13, 10] := by
    decide
  have hid : Fixture.identifier (.ofString "http://h/a") = .ok (.ofString "a") := by rfl
  exact ⟨hdecode, hread, by decide +kernel, Fixture.resolve_hit_alone false _ hid hread hdecode⟩

end ParseBench
