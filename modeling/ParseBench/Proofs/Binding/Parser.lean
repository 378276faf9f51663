import ParseBench.Binding.Parser
import ParseBench.Proofs.Except
import ParseBench.Proofs.Journal

set_option relaxedAutoImplicit false
set_option autoImplicit false

/-!
# How a parse ends

A parse is a call of an entry point and the normalization of its answer. It ends with an outcome or
a parse failure, but for three cases: a fault that has no text, a comment with an infinite offset,
and an error or a comment whose text is nested too deeply.

## Main definitions

* `ParseBench.Binding.EntryPoint.runs` — whether a function runs when an entry point is called.
* `ParseBench.Parser.answer` — what an entry point answers.
* `ParseBench.Binding.Raw.nesting` — how many containers are around each other in a value.
* `ParseBench.Binding.Comment.Overflows`, `ParseBench.Binding.Outcome.Overflows` — values whose
  conversion stops at an infinite offset.
* `ParseBench.Binding.Outcome.TooDeep` — values whose conversion stops at a text that is nested too
  deeply.

## Main results

* `ParseBench.Binding.call_snd`, `ParseBench.Binding.call_fst_congr` — what a call notes, and on
  what its answer depends.
* `ParseBench.Parser.parse_eq` — a parse is a call and the normalization of the answer.
* `ParseBench.Binding.Raw.nesting_of_toText` — which values are nested too deeply for a text.
* `ParseBench.Binding.Outcome.ofRaw_eq_infinite_iff`,
  `ParseBench.Binding.Outcome.ofRaw_eq_tooDeep_iff` — where normalization meets an infinite offset,
  and where a text that is nested too deeply.
* `ParseBench.Parser.parse_ends` — when a parse ends with an outcome or a parse failure.
-/

namespace ParseBench

open Stateful

/-! ## Calls -/

namespace Binding

/-- Whether a function runs when an entry point is called in a mode. -/
def EntryPoint.runs : EntryPoint → CallMode → Bool
  | .function _, _ => true
  | .coroutine _, .deferred => true
  | _, _ => false

/-- A call is noted if a function runs, and otherwise nothing is. -/
lemma call_snd (b : Binding) (mode : CallMode) (source : String) (j : Journal) :
    (b.call mode source j).2 =
      if (b.entry mode).runs mode then j.add (.call ⟨mode, source⟩) else j := by
  unfold call
  cases b.entry mode with
  | absent => cases mode <;> rfl
  | constant v => cases mode <;> rfl
  | function reply => cases mode <;> rfl
  | coroutine reply => cases mode <;> rfl

/-- What is answered depends on the number of earlier calls of the same mode alone. -/
lemma call_fst_congr (b : Binding) {mode : CallMode} {source : String} {j j' : Journal}
    (h : j.callCount mode = j'.callCount mode) :
    (b.call mode source j).1 = (b.call mode source j').1 := by
  rw [call]
  cases b.entry mode with
  | absent => rfl
  | constant v => rfl
  | function reply =>
    cases mode with
    | blocking => exact congrArg (fun n => reply n source) h
    | deferred => exact congrArg (fun n => notAwaitable (reply n source)) h
  | coroutine reply =>
    cases mode with
    | blocking => rfl
    | deferred => exact congrArg (fun n => awaited (reply n source)) h

end Binding

namespace Parser

/-- What an entry point answers, given what was done before. -/
def answer (p : Parser) (mode : CallMode) (source : String) (j : Journal) : Binding.Reply :=
  (p.binding.call mode source j).1

/-- **A parse** is a call and the normalization of the answer. -/
lemma parse_eq (p : Parser) (mode : CallMode) (source : String) (j : Journal) :
    p.parse mode source j =
      ((p.answer mode source j).outcome mode, (p.binding.call mode source j).2) := by
  rw [parse, bind_eq, lift_eq]
  exact Act.ofExcept_eq _ _

end Parser

/-! ## Conversions -/

namespace Binding

/-- A number without bound. -/
def Raw.IsInfinite (v : Raw) : Prop :=
  ∃ x negative, v = .float x ∧ Decimal.Binary64.ofFloat x = .infinite negative

mutual

/-- How many containers that are displayed are around each other in a value. -/
def Raw.nesting : Raw → Nat
  | .list items => itemsNesting items + 1
  | .record fields => fieldsNesting fields + 1
  | .object attributes => attributesNesting attributes + 1
  | _ => 0

/-- The greatest nesting of the items of a list. -/
def itemsNesting : List Raw → Nat
  | [] => 0
  | v :: rest => max v.nesting (itemsNesting rest)

/-- The greatest nesting of the fields of a record. -/
def fieldsNesting : List (Key × Raw) → Nat
  | [] => 0
  | (_, v) :: rest => max v.nesting (fieldsNesting rest)

/-- The greatest nesting of the attributes of an object that have a name. -/
def attributesNesting : List (String × Raw) → Nat
  | [] => 0
  | (k, v) :: rest =>
    if k.isEmpty then attributesNesting rest else max v.nesting (attributesNesting rest)

end

/-- A display within so many containers fits the nesting of what is displayed: it succeeds only if
there is room for it, and is too deep only if there is none. -/
structure Fits {α : Type} (depth nesting : Nat) (display : Except DisplayFault α) : Prop where
  room : ∀ a, display = .ok a → nesting = 0 ∨ depth + nesting ≤ maxNesting
  noRoom : display = .error .tooDeep → maxNesting < depth + nesting

namespace Fits

variable {α β γ : Type} {depth n m : Nat} {first : Except DisplayFault α}
  {second : Except DisplayFault β}

/-- A display that is there needs no room. -/
lemma ok (a : α) : Fits depth 0 (.ok a : Except DisplayFault α) :=
  ⟨fun _ _ => .inl rfl, nofun⟩

/-- An integer needs no room. -/
lemma integer (n : Int) : Fits depth 0 ((Text.writeInteger n).mapError DisplayFault.integer) :=
  ⟨fun _ _ => .inl rfl, fun h => by
    obtain ⟨fault, -, hfault⟩ := mapError_eq_error_iff.1 h
    cases hfault⟩

/-- A key needs no room. -/
lemma key (depth : Nat) (k : Key) : Fits depth 0 k.shown := by
  cases k with
  | int n => exact integer n
  | none | bool | float | text => exact ok _

/-- What follows a display and is there needs no more room. -/
lemma map (h : Fits depth n first) (f : α → β) :
    Fits depth n (first >>= fun a => .ok (f a)) := by
  cases first with
  | ok a => exact ⟨fun _ _ => h.room a rfl, nofun⟩
  | error fault =>
    exact ⟨fun _ => nofun, fun hdeep => h.noRoom (congrArg Except.error (Except.error.inj hdeep))⟩

/-- Two displays, one after the other, need room for both. -/
lemma both (hfirst : Fits depth n first) (hsecond : Fits depth m second) (f : α → β → γ) :
    Fits depth (max n m) (first >>= fun a => second >>= fun b => .ok (f a b)) := by
  cases first with
  | error fault =>
    refine ⟨fun _ => nofun, fun hdeep => ?_⟩
    have := hfirst.noRoom (congrArg Except.error (Except.error.inj hdeep))
    omega
  | ok a =>
    have hrest := hsecond.map (f a)
    refine ⟨fun c hc => ?_, fun hdeep => by have := hrest.noRoom hdeep; omega⟩
    have := hfirst.room a rfl
    have := hrest.room c hc
    omega

/-- A container needs room for itself and for what is in it. -/
lemma inContainer (h : Fits (depth + 1) n first) :
    Fits depth (n + 1) (Binding.inContainer depth first) := by
  rw [Binding.inContainer]
  split
  · refine ⟨fun a ha => ?_, fun hdeep => ?_⟩
    · have := h.room a ha
      omega
    · have := h.noRoom hdeep
      omega
  · exact ⟨fun _ => nofun, fun _ => by omega⟩

end Fits

mutual

/-- The display of a value fits its nesting. -/
lemma Raw.fits_shownAt (depth : Nat) : (v : Raw) → Fits depth v.nesting (v.shownAt depth)
  | .none => Fits.ok _
  | .bool _ => Fits.ok _
  | .int n => Fits.integer n
  | .float _ => Fits.ok _
  | .text _ => Fits.ok _
  | .list items => (fits_shownItems (depth + 1) items).inContainer.map _
  | .record fields => (fits_shownFields (depth + 1) fields).inContainer.map _
  | .object attributes => (fits_shownAttributes (depth + 1) attributes).inContainer.map _

/-- The displays of items fit their nesting. -/
lemma fits_shownItems (depth : Nat) :
    (items : List Raw) → Fits depth (itemsNesting items) (shownItems depth items)
  | [] => Fits.ok _
  | v :: rest => (Raw.fits_shownAt depth v).both (fits_shownItems depth rest) _

/-- The displays of fields fit their nesting. -/
lemma fits_shownFields (depth : Nat) :
    (fields : List (Key × Raw)) → Fits depth (fieldsNesting fields) (shownFields depth fields)
  | [] => Fits.ok _
  | (k, v) :: rest => by
    have hfield := (Fits.key depth k).both (Raw.fits_shownAt depth v)
      fun k v => k ++ ": " ++ v
    have hall := hfield.both (fits_shownFields depth rest) List.cons
    rw [Nat.zero_max] at hall
    rw [shownFields, fieldsNesting]
    revert hall
    cases k.shown <;> cases v.shownAt depth <;> exact id

/-- The displays of attributes fit their nesting. -/
lemma fits_shownAttributes (depth : Nat) : (attributes : List (String × Raw)) →
    Fits depth (attributesNesting attributes) (shownAttributes depth attributes)
  | [] => Fits.ok _
  | (k, v) :: rest => by
    rw [shownAttributes, attributesNesting]
    split
    · exact fits_shownAttributes depth rest
    · exact (Raw.fits_shownAt depth v).both (fits_shownAttributes depth rest) _

end

/-- The conversion to a text is the display, but for texts. -/
lemma Raw.toText_cases (v : Raw) :
    (∃ s, v = .text s ∧ v.toText = .ok s) ∨ v.toText = v.shown.mapError .ofDisplay := by
  cases v with
  | text s => exact .inl ⟨s, rfl, rfl⟩
  | none | bool | int | float | list | record | object => exact .inr rfl

/-- **Which values are nested too deeply for a text**: those with more containers around each other
than may be open at once have none, and only those have none for this reason. -/
lemma Raw.nesting_of_toText (v : Raw) :
    (∀ s, v.toText = .ok s → v.nesting ≤ maxNesting) ∧
      (v.toText = .error .tooDeep → maxNesting < v.nesting) := by
  have hfits := Raw.fits_shownAt 0 v
  rcases Raw.toText_cases v with ⟨s, rfl, htext⟩ | htext
  · exact ⟨fun _ _ => Nat.zero_le _, fun h => by rw [htext] at h; cases h⟩
  · rw [htext]
    constructor
    · intro s hs
      have := hfits.room s (mapError_eq_ok_iff.1 hs)
      omega
    · intro h
      obtain ⟨fault, hshown, hfault⟩ := mapError_eq_error_iff.1 h
      cases fault with
      | integer fault => cases hfault
      | tooDeep =>
        have := hfits.noRoom hshown
        omega

/-- The conversion to a text meets no infinite number. -/
lemma Raw.toText_ne_infinite (v : Raw) : v.toText ≠ .error .infinite := by
  intro h
  obtain ⟨fault, -, hfault⟩ := mapError_eq_error_iff.1 h
  cases fault <;> cases hfault

/-- What is not gone through is refused for its kind. -/
lemma Raw.elements_cases (v : Raw) :
    (∃ items, v.elements = .ok items) ∨ v.elements = .error (.notIterable v.qualifiedKind) := by
  cases v with
  | list items => exact .inl ⟨_, rfl⟩
  | text s => exact .inl ⟨_, rfl⟩
  | record fields => exact .inl ⟨_, rfl⟩
  | none | bool | int | float | object =>
    simp only [elements]
    split
    · exact .inr rfl
    · exact .inl ⟨_, rfl⟩

/-- Going through a value meets no infinite number. -/
lemma Raw.elements_ne_infinite (v : Raw) : v.elements ≠ .error .infinite := by
  rcases v.elements_cases with ⟨items, h⟩ | h <;> simp [h]

/-- Going through a value displays nothing. -/
lemma Raw.elements_ne_tooDeep (v : Raw) : v.elements ≠ .error .tooDeep := by
  rcases v.elements_cases with ⟨items, h⟩ | h <;> simp [h]

/-- Only an infinite number has no integer part because it is infinite. -/
lemma truncate_eq_infinite_iff {x : Float} :
    truncate x = .error .infinite ↔ ∃ negative, Decimal.Binary64.ofFloat x = .infinite negative := by
  rw [truncate]
  cases Decimal.Binary64.ofFloat x with
  | nan => simp
  | infinite negative => simp
  | finite negative mantissa exponent => simp

/-- Only an infinite number has no integer part for this reason. -/
lemma Raw.toInt_eq_infinite_iff {v : Raw} : v.toInt = .error .infinite ↔ v.IsInfinite := by
  unfold IsInfinite
  cases v with
  | float x => simpa [toInt] using truncate_eq_infinite_iff
  | text s =>
    have hne : (Raw.text s).toInt ≠ .error .infinite := by
      intro h
      obtain ⟨fault, -, hfault⟩ := mapError_eq_error_iff.1 h
      cases hfault
    simp [hne]
  | bool b => simp [toInt]
  | int n => simp [toInt]
  | none => simp [toInt]
  | list items => simp [toInt]
  | record fields => simp [toInt]
  | object attributes => simp [toInt]

/-- Converting to an integer displays nothing. -/
lemma Raw.toInt_ne_tooDeep (v : Raw) : v.toInt ≠ .error .tooDeep := by
  cases v with
  | float x =>
    rw [toInt, truncate]
    cases Decimal.Binary64.ofFloat x <;> simp
  | text s =>
    intro h
    obtain ⟨fault, -, hfault⟩ := mapError_eq_error_iff.1 h
    cases hfault
  | none | bool | int | list | record | object => simp [toInt]

/-- The value of a comment is converted, and the first of its offsets that is no integer is
infinite. -/
def Comment.Overflows (c : Raw) : Prop :=
  (∃ s, ((c.field? "value").getD (.text "")).toText = .ok s) ∧
    (((c.field? "start").getD (.int 0)).IsInfinite ∨
      (∃ n, ((c.field? "start").getD (.int 0)).toInt = .ok n) ∧
        ((c.field? "end").getD (.int 0)).IsInfinite)

/-- A comment stops at an infinite offset exactly if it overflows. -/
lemma Comment.ofRaw_eq_infinite_iff {c : Raw} :
    Comment.ofRaw c = .error .infinite ↔ Comment.Overflows c := by
  rw [Comment.ofRaw, Comment.Overflows, bind_eq_error_iff]
  constructor
  · rintro (hvalue | ⟨s, hs, h⟩)
    · exact absurd hvalue (Raw.toText_ne_infinite _)
    · refine ⟨⟨s, hs⟩, ?_⟩
      rcases bind_eq_error_iff.1 h with hstart | ⟨n, hn, h⟩
      · exact .inl (Raw.toInt_eq_infinite_iff.1 hstart)
      · rcases bind_eq_error_iff.1 h with hstop | ⟨m, -, hend⟩
        · exact .inr ⟨⟨n, hn⟩, Raw.toInt_eq_infinite_iff.1 hstop⟩
        · cases hend
  · rintro ⟨⟨s, hs⟩, hstart | ⟨⟨n, hn⟩, hstop⟩⟩
    · have hfirst := Raw.toInt_eq_infinite_iff.2 hstart
      exact .inr ⟨s, hs, bind_eq_error_iff.2 (.inl hfirst)⟩
    · have hsecond := Raw.toInt_eq_infinite_iff.2 hstop
      exact .inr ⟨s, hs, bind_eq_error_iff.2 (.inr ⟨n, hn, bind_eq_error_iff.2 (.inl hsecond)⟩)⟩

/-- A comment stops at a text that is nested too deeply exactly if its value is. -/
lemma Comment.ofRaw_eq_tooDeep_iff {c : Raw} :
    Comment.ofRaw c = .error .tooDeep ↔
      ((c.field? "value").getD (.text "")).toText = .error .tooDeep := by
  rw [Comment.ofRaw, bind_eq_error_iff]
  constructor
  · rintro (hvalue | ⟨s, hs, h⟩)
    · exact hvalue
    · rcases bind_eq_error_iff.1 h with hstart | ⟨n, hn, h⟩
      · exact absurd hstart (Raw.toInt_ne_tooDeep _)
      · rcases bind_eq_error_iff.1 h with hstop | ⟨m, -, hend⟩
        · exact absurd hstop (Raw.toInt_ne_tooDeep _)
        · cases hend
  · exact .inl

/-- The errors of a value are converted, and after some comments that are converted too there is one
of a kind. -/
def Outcome.StopsAtComment (v : Raw) (stops : Raw → Prop) : Prop :=
  ∃ items errors before c after, ((v.field? "errors").getD .none).elements = .ok items ∧
    items.mapM Raw.toText = .ok errors ∧
    ((v.field? "comments").getD .none).elements = .ok (before ++ c :: after) ∧
    (∀ d ∈ before, ∃ comment, Comment.ofRaw d = .ok comment) ∧ stops c

/-- After some errors of a value that are converted there is one of a kind. -/
def Outcome.StopsAtError (v : Raw) (stops : Raw → Prop) : Prop :=
  ∃ before e after, ((v.field? "errors").getD .none).elements = .ok (before ++ e :: after) ∧
    (∀ d ∈ before, ∃ s, d.toText = .ok s) ∧ stops e

/-- The root is a text, the errors are converted, and the first comment that is not has an infinite
offset. -/
def Outcome.Overflows (v : Raw) : Prop :=
  ∃ root, (v.field? "root").getD .none = .text root ∧ Outcome.StopsAtComment v Comment.Overflows

/-- The root is a text, and the first of the errors and of the values of comments that is not
converted is nested too deeply. -/
def Outcome.TooDeep (v : Raw) : Prop :=
  ∃ root, (v.field? "root").getD .none = .text root ∧
    (Outcome.StopsAtError v (fun e => e.toText = .error .tooDeep) ∨
      Outcome.StopsAtComment v fun c =>
        ((c.field? "value").getD (.text "")).toText = .error .tooDeep)

/-- The parts of a value cannot be converted for a reason that going through them never has: an
error or a comment cannot be. -/
lemma Outcome.partsOfRaw_eq_error_iff {v : Raw} {fault : ConversionFault}
    (hlisted : ∀ w : Raw, w.elements ≠ .error fault) :
    Outcome.partsOfRaw v = .error fault ↔
      Outcome.StopsAtError v (fun e => e.toText = .error fault) ∨
        Outcome.StopsAtComment v fun c => Comment.ofRaw c = .error fault := by
  rw [Outcome.partsOfRaw, bind_eq_error_iff]
  constructor
  · rintro (hitems | ⟨items, hitems, h⟩)
    · exact absurd hitems (hlisted _)
    rcases bind_eq_error_iff.1 h with herrors | ⟨errors, herrors, h⟩
    · obtain ⟨before, e, after, rfl, hbefore, he⟩ := mapM_eq_error_iff.1 herrors
      exact .inl ⟨before, e, after, hitems, hbefore, he⟩
    rcases bind_eq_error_iff.1 h with hraws | ⟨raws, hraws, h⟩
    · exact absurd hraws (hlisted _)
    rcases bind_eq_error_iff.1 h with hcomments | ⟨comments, -, hend⟩
    · obtain ⟨before, c, after, rfl, hbefore, hc⟩ := mapM_eq_error_iff.1 hcomments
      exact .inr ⟨items, errors, before, c, after, hitems, herrors, hraws, hbefore, hc⟩
    · cases hend
  · rintro (⟨before, e, after, hitems, hbefore, he⟩ |
      ⟨items, errors, before, c, after, hitems, herrors, hraws, hbefore, hc⟩)
    · have herrors := mapM_eq_error_iff.2 ⟨before, e, after, rfl, hbefore, he⟩
      exact .inr ⟨_, hitems, bind_eq_error_iff.2 (.inl herrors)⟩
    · have hcomments := mapM_eq_error_iff.2 ⟨before, c, after, rfl, hbefore, hc⟩
      refine .inr ⟨items, hitems, bind_eq_error_iff.2 (.inr ⟨errors, herrors, ?_⟩)⟩
      exact bind_eq_error_iff.2 (.inr ⟨_, hraws, bind_eq_error_iff.2 (.inl hcomments)⟩)

/-- Normalization stops at a conversion exactly if the root is a text and the parts stop there. -/
lemma Outcome.ofRaw_eq_malformed_iff {v : Raw} {fault : ConversionFault} :
    Outcome.ofRaw v = .error (.malformed fault) ↔
      ∃ root, (v.field? "root").getD .none = .text root ∧ Outcome.partsOfRaw v = .error fault := by
  rw [Outcome.ofRaw]
  constructor
  · intro h
    split at h
    · next root hroot =>
      split at h
      · cases h
      · next fault hfault =>
        cases h
        exact ⟨root, hroot, hfault⟩
    · cases h
  · rintro ⟨root, hroot, hparts⟩
    rw [hroot]
    simp only
    rw [hparts]

/-- **Where normalization meets an infinite offset**: everything that is converted before it has to
be converted without a fault. -/
lemma Outcome.ofRaw_eq_infinite_iff {v : Raw} :
    Outcome.ofRaw v = .error (.malformed .infinite) ↔ Outcome.Overflows v := by
  rw [Outcome.ofRaw_eq_malformed_iff, Outcome.Overflows,
    Outcome.partsOfRaw_eq_error_iff Raw.elements_ne_infinite]
  simp only [Comment.ofRaw_eq_infinite_iff]
  refine exists_congr fun root => and_congr_right fun _ => or_iff_right ?_
  rintro ⟨_, e, _, -, -, he⟩
  exact Raw.toText_ne_infinite e he

/-- **Where normalization meets a text that is nested too deeply**: everything that is converted
before it has to be converted without a fault. -/
lemma Outcome.ofRaw_eq_tooDeep_iff {v : Raw} :
    Outcome.ofRaw v = .error (.malformed .tooDeep) ↔ Outcome.TooDeep v := by
  rw [Outcome.ofRaw_eq_malformed_iff, Outcome.TooDeep,
    Outcome.partsOfRaw_eq_error_iff Raw.elements_ne_tooDeep]
  simp only [Comment.ofRaw_eq_tooDeep_iff]

end Binding

/-! ## The end of a parse -/

open Binding

/-- A fault that does not end the program becomes a parse failure if it has a text. -/
lemma ParseAbort.ofFault_of_catchable {mode : CallMode} {f : Fault} (h : f.uncatchable = false) :
    ParseAbort.ofFault mode f = match f.message with
      | .ok text => .failure (.raised mode f.className text)
      | .error fault => .unwritable fault := by
  rw [ParseAbort.ofFault, h]
  rfl

/-- A value that is not normalized is a parse failure, if not for an infinite offset or a text that
is nested too deeply. -/
lemma ParseAbort.ofOutcomeFault_cases (fault : OutcomeFault) :
    (fault = .malformed .infinite ∧ ParseAbort.ofOutcomeFault fault = .infiniteOffset) ∨
      (fault = .malformed .tooDeep ∧ ParseAbort.ofOutcomeFault fault = .undisplayable) ∨
      (fault ≠ .malformed .infinite ∧ fault ≠ .malformed .tooDeep ∧
        ∃ failure, ParseAbort.ofOutcomeFault fault = .failure failure) := by
  rcases fault with kind | conversion
  · exact .inr (.inr ⟨by simp, by simp, _, rfl⟩)
  · cases conversion with
    | infinite => exact .inl ⟨rfl, rfl⟩
    | tooDeep => exact .inr (.inl ⟨rfl, rfl⟩)
    | integer fault => exact .inr (.inr ⟨by simp, by simp, _, rfl⟩)
    | notANumber => exact .inr (.inr ⟨by simp, by simp, _, rfl⟩)
    | notNumeric kind => exact .inr (.inr ⟨by simp, by simp, _, rfl⟩)
    | notIterable kind => exact .inr (.inr ⟨by simp, by simp, _, rfl⟩)

/-- The outcome of a reply is there, or a parse failure is, unless a fault has no text, an offset is
infinite or a text is nested too deeply. -/
lemma Binding.Reply.outcome_ends {mode : CallMode} {reply : Reply}
    (hcatchable : ∀ f, reply = .raised f → f.uncatchable = false) :
    ((∃ o, reply.outcome mode = .ok o) ∨ ∃ failure, reply.outcome mode = .error (.failure failure)) ↔
      (∀ f, reply = .raised f → ∃ text, f.message = .ok text) ∧
        ∀ v, reply = .value v → ¬ Outcome.Overflows v ∧ ¬ Outcome.TooDeep v := by
  cases reply with
  | raised f =>
    rw [outcome, ParseAbort.ofFault_of_catchable (hcatchable f rfl)]
    cases hmessage : f.message with
    | ok text => simp [hmessage]
    | error fault => simp [hmessage]
  | value v =>
    rw [outcome]
    have hinfinite := Outcome.ofRaw_eq_infinite_iff (v := v)
    have hdeep := Outcome.ofRaw_eq_tooDeep_iff (v := v)
    cases houtcome : Outcome.ofRaw v with
    | ok o =>
      rw [houtcome] at hinfinite hdeep
      have hno : ¬ Outcome.Overflows v ∧ ¬ Outcome.TooDeep v :=
        ⟨hinfinite.not.1 nofun, hdeep.not.1 nofun⟩
      simpa [Except.mapError] using hno
    | error fault =>
      rw [houtcome, Except.error.injEq] at hinfinite hdeep
      rcases ParseAbort.ofOutcomeFault_cases fault with
        ⟨rfl, habort⟩ | ⟨rfl, habort⟩ | ⟨hfinite, hshallow, failure, habort⟩
      · simp [Except.mapError, habort, ← hinfinite]
      · simp [Except.mapError, habort, ← hdeep]
      · simp [Except.mapError, habort, ← hinfinite, ← hdeep, hfinite, hshallow]

/-- **How a parse ends.** Whatever the entry point returns, and whatever fault it raises that does
not end the program, the parse gives an outcome or ends with a parse failure, except in three cases:
a fault that is raised has no text, or the first part of a value that cannot be converted is an
infinite offset or a text that is nested too deeply. -/
theorem Parser.parse_ends (p : Parser) (mode : CallMode) (source : String) (j : Journal)
    (hcatchable : ∀ f, p.answer mode source j = .raised f → f.uncatchable = false) :
    ((∃ o, (p.parse mode source j).1 = .ok o) ∨
        ∃ failure, (p.parse mode source j).1 = .error (.failure failure)) ↔
      (∀ f, p.answer mode source j = .raised f → ∃ text, f.message = .ok text) ∧
        ∀ v, p.answer mode source j = .value v → ¬ Outcome.Overflows v ∧ ¬ Outcome.TooDeep v := by
  rw [p.parse_eq]
  exact Reply.outcome_ends hcatchable

/-- A parser that always answers with one comment, which starts at a given number. -/
def offsetParser (start : Float) : Parser where
  binding :=
    let reply : Reply := .value (.record [("root", .text "{}"), ("errors", .list []),
      ("comments", .list [.object [("value", .text "c"), ("start", .float start)]])])
    ⟨"m", .function fun _ _ => reply, .coroutine fun _ _ => reply⟩
  complete := by rfl

/-- An offset that is not a number is a parse failure, also when the answer is awaited. -/
theorem Parser.parse_ends_notANumber :
    (∀ f, (offsetParser (0.0 / 0.0)).answer .deferred "x" .empty = .raised f →
      f.uncatchable = false) ∧
    ((∃ o, ((offsetParser (0.0 / 0.0)).parse .deferred "x" .empty).1 = .ok o) ∨
      ∃ failure, ((offsetParser (0.0 / 0.0)).parse .deferred "x" .empty).1 =
        .error (.failure failure)) := by
  have hcatchable : ∀ f, (offsetParser (0.0 / 0.0)).answer .deferred "x" .empty = .raised f →
      f.uncatchable = false := by
    intro f h
    cases h
  refine ⟨hcatchable, (parse_ends _ .deferred "x" .empty hcatchable).2 ⟨?_, ?_⟩⟩
  · intro f h
    cases h
  · intro v h
    cases h
    rw [← Outcome.ofRaw_eq_infinite_iff, ← Outcome.ofRaw_eq_tooDeep_iff]
    have hfault : Outcome.ofRaw (.record [("root", .text "{}"), ("errors", .list []),
        ("comments", .list [.object [("value", .text "c"), ("start", .float (0.0 / 0.0))]])]) =
          .error (.malformed .notANumber) := rfl
    rw [hfault]
    simp

/-- Nothing, in so many lists that are around each other. -/
def nestedLists : Nat → Raw
  | 0 => .none
  | n + 1 => .list [nestedLists n]

/-- More lists than may be open at once are too deep for a display. -/
lemma shownAt_nestedLists {depth n : Nat} (h : maxNesting < depth + n) (hdepth : depth ≤ maxNesting) :
    (nestedLists n).shownAt depth = .error .tooDeep := by
  induction n generalizing depth with
  | zero => omega
  | succ n ih =>
    rw [nestedLists, Raw.shownAt, inContainer]
    by_cases hroom : depth < maxNesting
    · rw [if_pos hroom, shownItems, ih (by omega) (by omega)]
      rfl
    · rw [if_neg hroom]
      rfl

/-- A parser that always answers with one error, which is nothing in so many lists. -/
def nestingParser (n : Nat) : Parser where
  binding :=
    let reply : Reply := .value (.record [("root", .text "{}"), ("errors", .list [nestedLists n])])
    ⟨"m", .function fun _ _ => reply, .coroutine fun _ _ => reply⟩
  complete := by rfl

/-- **A text that is nested too deeply escapes**: the parse gives no outcome and ends with no parse
failure. -/
theorem Parser.parse_undisplayable {n : Nat} (h : maxNesting < n) :
    ((nestingParser n).parse .blocking "x" .empty).1 = .error .undisplayable := by
  have hshown : (nestedLists n).shown = .error .tooDeep := shownAt_nestedLists (by omega) (by omega)
  have htext : (nestedLists n).toText = .error .tooDeep := by
    cases n with
    | zero => omega
    | succ n => exact congrArg (Except.mapError ConversionFault.ofDisplay) hshown
  have hstops : Outcome.TooDeep
      (.record [("root", .text "{}"), ("errors", .list [nestedLists n])]) :=
    ⟨"{}", rfl, .inl ⟨[], nestedLists n, [], rfl, by simp, htext⟩⟩
  rw [Parser.parse_eq]
  change (Outcome.ofRaw _).mapError ParseAbort.ofOutcomeFault = _
  rw [Outcome.ofRaw_eq_tooDeep_iff.2 hstops]
  rfl

/-- **An infinite offset escapes**: the parse gives no outcome and ends with no parse failure. -/
theorem Parser.parse_overflows :
    ¬ ((∃ o, ((offsetParser (1.0 / 0.0)).parse .blocking "x" .empty).1 = .ok o) ∨
      ∃ failure, ((offsetParser (1.0 / 0.0)).parse .blocking "x" .empty).1 =
        .error (.failure failure)) := by
  have hends : ((offsetParser (1.0 / 0.0)).parse .blocking "x" .empty).1 = .error .infiniteOffset :=
    rfl
  rw [hends]
  simp

end ParseBench
