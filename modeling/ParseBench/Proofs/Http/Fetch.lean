import ParseBench.Http.Fetch
import Mathlib.Tactic.Lemma
import Mathlib.Tactic.SplitIfs

set_option relaxedAutoImplicit false
set_option autoImplicit false

/-!
# Fetches and time

How long the answers of a network take decides when a fetch makes its requests and when it ends.
Which requests it makes and how it ends depends on the replies alone.

## Main definitions

* `ParseBench.Http.SameReplies` — two networks that differ at most in their delays.
* `ParseBench.Http.Answers` — a network whose answers all come in the end.
* `ParseBench.Http.Fetch.result?` — how a fetch ends.

## Main results

* `ParseBench.Http.fetch_same` — the requests and the result of a fetch do not depend on delays.
* `ParseBench.Http.fetch_times` — the requests of a fetch are made before it ends.
* `ParseBench.Http.fetch_pairwise` — the requests of a fetch are made in the order of time.
* `ParseBench.Http.scheme_of_fetch` — only a target with a scheme gives a text.
-/

namespace ParseBench.Http

open ParseBench.Text (Points)
open ParseBench.Url (Target)

/-- Two networks that differ at most in how long their answers take. -/
def SameReplies (net net' : Network) : Prop := ∀ url, (net url).reply = (net' url).reply

/-- Every answer comes in the end. -/
def Answers (net : Network) : Prop := ∀ url, (net url).delay ≠ .never

/-- How a fetch ends, if it does. -/
def Fetch.result? (f : Fetch) : Option (Except FetchFault String) := f.ending.map Prod.snd

/-- The URLs that a fetch requests, in order. -/
def Fetch.urls (f : Fetch) : List String := f.requests.map Prod.snd

/-- A fetch has a result exactly if it ends with it at some time. -/
lemma Fetch.result?_eq_some_iff {f : Fetch} {r : Except FetchFault String} :
    f.result? = some r ↔ ∃ t, f.ending = some (t, r) := by
  rw [Fetch.result?, Option.map_eq_some_iff]
  constructor
  · rintro ⟨⟨t, r'⟩, h, rfl⟩
    exact ⟨t, h⟩
  · rintro ⟨t, h⟩
    exact ⟨_, h, rfl⟩

/-! ## One exchange -/

/-- Two exchanges lead the same way, maybe at different times. -/
inductive Turn.Same : Turn → Turn → Prop where
  | ended (result : Except FetchFault String) (time time' : Nat) :
    Same (.ended result time) (.ended result time')
  | onward (next : Target) (time time' : Nat) : Same (.onward next time) (.onward next time')

/-- Where a response leads does not depend on the time. For a target without a scheme it leads
neither to a text nor on. -/
lemma turnOf_cases (follow : Bool) (target : Target) (r : Response) :
    (∃ result, (∀ time, turnOf follow target r time = .ended result time) ∧
      ∀ content, result = .ok content → target.scheme ≠ []) ∨
    ∃ next, (∀ time, turnOf follow target r time = .onward next time) ∧ target.scheme ≠ [] := by
  simp only [turnOf]
  by_cases hscheme : target.scheme = []
  · refine .inl ⟨.error (.noScheme (String.ofList target.text)), fun time => ?_,
      fun content h => ?_⟩
    · rw [if_pos (by simp [hscheme])]
    · cases h
  · simp only [List.isEmpty_iff, if_neg hscheme]
    cases r.redirect? with
    | none => exact .inl ⟨_, fun time => rfl, fun _ _ => hscheme⟩
    | some location =>
      dsimp only
      cases redirectTarget target location with
      | error fault => exact .inl ⟨_, fun time => rfl, fun _ _ => hscheme⟩
      | ok next =>
        cases follow with
        | true => exact .inr ⟨next, fun time => rfl, hscheme⟩
        | false => exact .inl ⟨_, fun time => rfl, fun _ _ => hscheme⟩

/-- A request goes the same way in two networks with the same replies. -/
lemma turn_same (follow : Bool) {net net' : Network} (hsame : SameReplies net net')
    (hnet : Answers net) (hnet' : Answers net') (target : Target) (time time' : Nat) :
    Turn.Same (turn follow net target time) (turn follow net' target time') := by
  have hreply := hsame (String.ofList target.text)
  have hdelay := hnet (String.ofList target.text)
  have hdelay' := hnet' (String.ofList target.text)
  rw [turn, turn]
  generalize net (String.ofList target.text) = exchange at *
  generalize net' (String.ofList target.text) = exchange' at *
  obtain ⟨delay, reply⟩ := exchange
  obtain ⟨delay', reply'⟩ := exchange'
  obtain rfl : reply = reply' := hreply
  cases delay with
  | never => exact absurd rfl hdelay
  | after wait =>
    cases delay' with
    | never => exact absurd rfl hdelay'
    | after wait' =>
      cases reply with
      | error fault => exact .ended _ _ _
      | ok r =>
        dsimp only
        rcases turnOf_cases follow target r with ⟨result, hturn, -⟩ | ⟨next, hturn, -⟩
        · rw [hturn, hturn]
          exact .ended _ _ _
        · rw [hturn, hturn]
          exact .onward _ _ _

/-- An exchange never leads back in time. -/
lemma turn_cases (follow : Bool) (net : Network) (target : Target) (time : Nat) :
    turn follow net target time = .stuck ∨
    (∃ result now, turn follow net target time = .ended result now ∧ time ≤ now ∧
      ∀ content, result = .ok content → target.scheme ≠ []) ∨
    ∃ next now, turn follow net target time = .onward next now ∧ time ≤ now ∧
      target.scheme ≠ [] := by
  rw [turn]
  generalize net (String.ofList target.text) = exchange
  obtain ⟨delay, reply⟩ := exchange
  cases delay with
  | never => exact .inl rfl
  | after wait =>
    cases reply with
    | error fault => exact .inr (.inl ⟨_, _, rfl, Nat.le_add_right _ _, fun _ h => by cases h⟩)
    | ok r =>
      rcases turnOf_cases follow target r with ⟨result, hturn, hscheme⟩ | ⟨next, hturn, hscheme⟩
      · exact .inr (.inl ⟨result, _, hturn _, Nat.le_add_right _ _, hscheme⟩)
      · exact .inr (.inr ⟨next, _, hturn _, Nat.le_add_right _ _, hscheme⟩)

/-! ## Whole fetches -/

/-- Redirects go the same way in two networks with the same replies, whatever time it is. -/
lemma fetchFrom_same (follow : Bool) {net net' : Network} (hsame : SameReplies net net')
    (hnet : Answers net) (hnet' : Answers net') (target : Target) (time time' left : Nat) :
    (fetchFrom follow net target time left).urls = (fetchFrom follow net' target time' left).urls ∧
    (fetchFrom follow net target time left).result? =
      (fetchFrom follow net' target time' left).result? := by
  -- the induction is on the number of redirects left, for all targets and times
  induction left generalizing target time time' with
  | zero =>
    have hturn := turn_same follow hsame hnet hnet' target time time'
    rw [fetchFrom.eq_def follow net target, fetchFrom.eq_def follow net' target]
    generalize turn follow net target time = t at *
    generalize turn follow net' target time' = t' at *
    cases hturn with
    | ended result now now' => exact ⟨rfl, rfl⟩
    | onward next now now' => exact ⟨rfl, rfl⟩
  | succ left ih =>
    have hturn := turn_same follow hsame hnet hnet' target time time'
    rw [fetchFrom.eq_def follow net target, fetchFrom.eq_def follow net' target]
    generalize turn follow net target time = t at *
    generalize turn follow net' target time' = t' at *
    cases hturn with
    | ended result now now' => exact ⟨rfl, rfl⟩
    | onward next now now' =>
      obtain ⟨hurls, hresult⟩ := ih next now now'
      refine ⟨?_, hresult⟩
      simp only [Fetch.urls, List.map_cons] at hurls ⊢
      rw [hurls]

/-- **The requests and the result of a fetch do not depend on delays**, as long as all answers
come. -/
theorem fetch_same (follow : Bool) {net net' : Network} (hsame : SameReplies net net')
    (hnet : Answers net) (hnet' : Answers net') (url : Points) :
    (fetch follow net url).urls = (fetch follow net' url).urls ∧
      (fetch follow net url).result? = (fetch follow net' url).result? := by
  rw [fetch, fetch]
  cases Target.request url with
  | error fault => exact ⟨rfl, rfl⟩
  | ok target => exact fetchFrom_same follow hsame hnet hnet' target 0 0 maxRedirects

/-- All that a fetch from a target can do, by what its first exchange leads to. -/
lemma fetchFrom_cases (follow : Bool) (net : Network) (target : Target) (time left : Nat) :
    fetchFrom follow net target time left = ⟨[(time, String.ofList target.text)], none⟩ ∨
    (∃ result now, fetchFrom follow net target time left =
        ⟨[(time, String.ofList target.text)], some (now, result)⟩ ∧ time ≤ now ∧
      ∀ content, result = .ok content → target.scheme ≠ []) ∨
    ∃ next now left', left = left' + 1 ∧ time ≤ now ∧ target.scheme ≠ [] ∧
      fetchFrom follow net target time left =
        ⟨(time, String.ofList target.text) :: (fetchFrom follow net next now left').requests,
          (fetchFrom follow net next now left').ending⟩ := by
  rw [fetchFrom.eq_def]
  rcases turn_cases follow net target time with hturn | ⟨result, now, hturn, hnow, hscheme⟩ |
    ⟨next, now, hturn, hnow, hscheme⟩
  · rw [hturn]
    exact .inl rfl
  · rw [hturn]
    exact .inr (.inl ⟨result, now, rfl, hnow, hscheme⟩)
  · rw [hturn]
    cases left with
    | zero => exact .inr (.inl ⟨.error .tooManyRedirects, now, rfl, hnow, fun _ h => by cases h⟩)
    | succ left => exact .inr (.inr ⟨next, now, left, rfl, hnow, hscheme, rfl⟩)

/-- A fetch ends no earlier than it starts, and after all of its requests. -/
lemma fetchFrom_times (follow : Bool) (net : Network) (target : Target) (time left : Nat)
    {e : Nat × Except FetchFault String}
    (he : (fetchFrom follow net target time left).ending = some e) :
    time ≤ e.1 ∧ ∀ q ∈ (fetchFrom follow net target time left).requests, q.1 ≤ e.1 := by
  induction left generalizing target time with
  | zero =>
    rcases fetchFrom_cases follow net target time 0 with h | ⟨result, now, h, hnow, -⟩ |
      ⟨next, now, left, hleft, -⟩
    · simp [h] at he
    · rw [h] at he ⊢
      cases he
      simpa using hnow
    · omega
  | succ left ih =>
    rcases fetchFrom_cases follow net target time (left + 1) with h | ⟨result, now, h, hnow, -⟩ |
      ⟨next, now, left', hleft, hnow, -, h⟩
    · simp [h] at he
    · rw [h] at he ⊢
      cases he
      simpa using hnow
    · obtain rfl : left = left' := by omega
      rw [h] at he ⊢
      obtain ⟨hstart, hrequests⟩ := ih next now he
      refine ⟨by omega, fun q hq => ?_⟩
      rcases List.mem_cons.1 hq with rfl | hq
      · exact Nat.le_trans hnow hstart
      · exact hrequests q hq

/-- **The requests of a fetch are made before it ends.** -/
lemma fetch_times {follow : Bool} {net : Network} {url : Points} {time : Nat}
    {result : Except FetchFault String} (h : (fetch follow net url).ending = some (time, result)) :
    ∀ q ∈ (fetch follow net url).requests, q.1 ≤ time := by
  rw [fetch] at h ⊢
  cases hrequest : Target.request url with
  | error fault => simp
  | ok target =>
    rw [hrequest] at h
    exact (fetchFrom_times follow net target 0 maxRedirects h).2

/-- Requests are made one after another, and none before the start. -/
lemma fetchFrom_pairwise (follow : Bool) (net : Network) (target : Target) (time left : Nat) :
    (fetchFrom follow net target time left).requests.Pairwise (fun q q' => q.1 ≤ q'.1) ∧
      ∀ q ∈ (fetchFrom follow net target time left).requests, time ≤ q.1 := by
  induction left generalizing target time with
  | zero =>
    rcases fetchFrom_cases follow net target time 0 with h | ⟨result, now, h, -⟩ |
      ⟨next, now, left, hleft, -⟩
    · simp [h]
    · simp [h]
    · omega
  | succ left ih =>
    rcases fetchFrom_cases follow net target time (left + 1) with h | ⟨result, now, h, -⟩ |
      ⟨next, now, left', hleft, hnow, -, h⟩
    · simp [h]
    · simp [h]
    · obtain rfl : left = left' := by omega
      obtain ⟨hsorted, hlater⟩ := ih next now
      have hall : ∀ q ∈ (fetchFrom follow net next now left).requests, time ≤ q.1 :=
        fun q hq => Nat.le_trans hnow (hlater q hq)
      rw [h]
      exact ⟨List.pairwise_cons.2 ⟨hall, hsorted⟩, List.forall_mem_cons.2 ⟨Nat.le_refl _, hall⟩⟩

/-- **The requests of a fetch are made in the order of time.** -/
lemma fetch_pairwise (follow : Bool) (net : Network) (url : Points) :
    (fetch follow net url).requests.Pairwise fun q q' => q.1 ≤ q'.1 := by
  rw [fetch]
  cases Target.request url with
  | error fault => exact .nil
  | ok target => exact (fetchFrom_pairwise follow net target 0 maxRedirects).1

/-- **Only a target with a scheme gives a text.** -/
lemma scheme_of_fetch {follow : Bool} {net : Network} {url : Points} {content : String}
    (h : (fetch follow net url).result? = some (.ok content)) :
    ∃ target, Target.request url = .ok target ∧ target.scheme ≠ [] := by
  obtain ⟨time, h⟩ := Fetch.result?_eq_some_iff.1 h
  rw [fetch] at h
  cases hrequest : Target.request url with
  | error fault => simp [hrequest] at h
  | ok target =>
    refine ⟨target, rfl, ?_⟩
    rw [hrequest] at h
    dsimp only at h
    rcases fetchFrom_cases follow net target 0 maxRedirects with heq | ⟨result, now, heq, -,
      hscheme⟩ |
      ⟨next, now, left, -, -, hscheme, -⟩
    · simp [heq] at h
    · rw [heq] at h
      cases h
      exact hscheme content rfl
    · exact hscheme

end ParseBench.Http
