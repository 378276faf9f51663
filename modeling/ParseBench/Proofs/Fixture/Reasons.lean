import ParseBench.Proofs.Fixture.Outcome
import ParseBench.Proofs.Fixture.Reach

set_option relaxedAutoImplicit false
set_option autoImplicit false

/-!
# Why a resolution fails

On all volumes and along every schedule, a resolution that fails gives one of these reasons: a
fixture that cannot be read or stored, a fetch that fails, or a name that cannot stand in a path. If
it gives none of them, it has not come to its end; along the prompt schedule, this is only so if an
answer never comes.

## Main definitions

* `ParseBench.Fixture.Expected`, `ParseBench.Fixture.Unexpected` — the reasons that a resolution is
  made to give, and those that it lets through.

## Main results

* `ParseBench.Fixture.FailsSomewhere.reason` — the reasons why a fixture fails.
* `ParseBench.Fixture.resolveAlong_failed` — the reasons why a resolution fails.
* `ParseBench.Fixture.resolve_endless` — when the prompt schedule does not come to the end.
-/

namespace ParseBench.Fixture

open ParseBench.Bench (Config)
open ParseBench.Files
open ParseBench.Http (Fetch FetchFault Network)
open ParseBench.Text (Bytes Points)

/-! ## The reasons -/

/-- The reasons that a resolution is made to give, each for a URL of the list. -/
inductive Expected (c : Config) (follow : Bool) (net : Network) (urls : List Points) :
    CacheAbort → Prop where
  | undecodable {url name : Points} {fault : Text.Utf8.Fault} (hurl : url ∈ urls)
    (hname : identifier url = .ok name) :
    Expected c follow net urls (.failure (.undecodable (entryPath c name) fault))
  | unstorable {url name : Points} {fault : AccessFault} (hurl : url ∈ urls)
    (hname : identifier url = .ok name) :
    Expected c follow net urls (.failure (.unstorable (entryPath c name) fault))
  | fetch {url : Points} {t : Nat} {fault : FetchFault} {reason : String} (hurl : url ∈ urls)
    (hend : (Http.fetch follow net url).ending = some (t, .error fault))
    (hreason : fault.httpReason? = some reason) :
    Expected c follow net urls (.fetch url reason)

/-- The reasons that a resolution lets through: a fetch fails, but not as a failure of HTTP; the
path of an entry holds a NUL, or a surrogate that no file name can hold; the entry of a single dot
has no last name, since the path of the cache has none. -/
inductive Unexpected (c : Config) (follow : Bool) (net : Network) (urls : List Points) :
    CacheAbort → Prop where
  | client {url : Points} {t : Nat} {fault : FetchFault} (hurl : url ∈ urls)
    (hend : (Http.fetch follow net url).ending = some (t, .error fault))
    (hreason : fault.httpReason? = none) :
    Unexpected c follow net urls (.foreign fault)
  | path {url name : Points} (hurl : url ∈ urls) (hname : identifier url = .ok name)
    (hnul : (entryPath c name).hasNul = true) :
    Unexpected c follow net urls .path
  | surrogate {url name : Points} {fault : Text.Utf8.SurrogateFault} (hurl : url ∈ urls)
    (hname : identifier url = .ok name) (h : unencodable? c name = some fault) :
    Unexpected c follow net urls (.unencodable fault)
  | nameless {url name : Points} (hurl : url ∈ urls) (hname : identifier url = .ok name)
    (hdot : name.lossy = ".") (hcache : c.cache.names = []) :
    Unexpected c follow net urls (.noName c.cache)

section Reasons

variable {c : Config} {follow : Bool} {net : Network} {urls : List Points} {url name : Points}
  {abort : CacheAbort}

/-- The reasons why what is in the place of an entry cannot be read. -/
lemma reason_of_look {w : Volume} (hurl : url ∈ urls) (hname : identifier url = .ok name)
    (h : look c w name = .fault abort) :
    Expected c follow net urls abort ∨ Unexpected c follow net urls abort := by
  rw [look] at h
  split at h
  · next fault hsurrogate =>
    cases h
    exact .inr (.surrogate hurl hname hsurrogate)
  · split at h
    · split at h
      · cases h
      · cases h
        exact .inl (.undecodable hurl hname)
    · next hread =>
      cases h
      exact .inr (.path hurl hname (readEntry_eq_nul_iff.1 hread))
    · cases h

/-- The reasons why an entry cannot be stored. -/
lemma reason_of_store {e : StoreFault} (hurl : url ∈ urls) (hname : identifier url = .ok name)
    (h : Unstored (entryPath c name) e) :
    Expected c follow net urls (.ofStore (entryPath c name) e) ∨
      Unexpected c follow net urls (.ofStore (entryPath c name) e) := by
  rcases h with ⟨fault, rfl, hnul⟩ | ⟨rfl, hbare⟩
  · cases fault with
    | nul => exact .inr (.path hurl hname (hnul rfl))
    | os | cut => exact .inl (.unstorable hurl hname)
  · -- only a single dot adds no name to the path of the cache
    by_cases hdot : name.lossy = "."
    · rw [entryPath_dot c hdot] at hbare ⊢
      exact .inr (.nameless hurl hname hdot hbare)
    · rw [entryPath_of_ne c hname hdot] at hbare
      simp at hbare

/-- **The reasons** why a fixture of a list fails. -/
lemma FailsSomewhere.reason {n : Named} (hurl : n.url ∈ urls)
    (hname : identifier n.url = .ok n.name) (h : FailsSomewhere c follow net n abort) :
    Expected c follow net urls abort ∨ Unexpected c follow net urls abort := by
  cases h with
  | entry h => exact reason_of_look hurl hname h
  | @fetch f hresult =>
    obtain ⟨t, hend⟩ := Fetch.result?_eq_some_iff.1 hresult
    rw [CacheAbort.ofFetch]
    cases hreason : f.httpReason? with
    | none => exact .inr (.client hurl hend hreason)
    | some reason => exact .inl (.fetch hurl hend hreason)
  | store h => exact reason_of_store hurl hname h

/-- No fetch fails because an answer is awaited. -/
lemma ofFetch_ne_endless (url : Points) (fault : FetchFault) :
    CacheAbort.ofFetch url fault ≠ .endless := by
  rw [CacheAbort.ofFetch]
  split <;> simp

/-- No store fails because an answer is awaited. -/
lemma ofStore_ne_endless (entry : Path) (fault : StoreFault) :
    CacheAbort.ofStore entry fault ≠ .endless := by
  cases fault with
  | access fault => cases fault <;> simp [CacheAbort.ofStore]
  | noName bare => simp [CacheAbort.ofStore]

/-- Neither kind of reason is that an answer is awaited. -/
lemma reason_ne_endless (h : Expected c follow net urls abort ∨ Unexpected c follow net urls abort) :
    abort ≠ .endless := by
  rintro rfl
  rcases h with h | h <;> cases h

/-- **A resolution of URLs that were accepted** fails for one of the reasons, or it has not come to
its end. -/
lemma resolveAlong_failed {v : Volume} {named : List Named} {turns : List Turn} {p : Progress}
    (hv : v.WellFormed) (hcheck : checkUrls urls = .ok named)
    (h : resolveAlong c follow net turns (.ofVolume v) urls = (p, .error abort)) :
    Expected c follow net urls abort ∨ Unexpected c follow net urls abort ∨ abort = .endless := by
  obtain ⟨last, hsited, -, hresult⟩ := exists_sited hv hcheck h
  obtain ⟨rfl, haccepted⟩ := checkUrls_eq_ok_iff.1 hcheck
  rw [Resolution.result] at hresult
  split at hresult
  · next first hfailure =>
    cases hresult
    obtain ⟨n, hn, hfails⟩ := hsited.failure abort hfailure
    exact (hfails.reason (List.mem_map_of_mem hn) (haccepted.identifier n hn)).imp_right .inl
  · exact .inr (.inr (Resolution.eq_endless_of_collect hresult))

/-- No fixture fails at its start because an answer is awaited. -/
lemma Began.ne_endless {w : Volume} {n : Named} {log : List Attempt} {asked : List String}
    (hid : identifier n.url = .ok n.name)
    (h : Began c follow net w n (.failed abort) log asked) : abort ≠ .endless := by
  generalize hstatus : Status.failed abort = status at h
  cases h with
  | hit | waits => cases hstatus
  | fault hlook =>
    cases hstatus
    have hreason : Expected c follow net [n.url] abort ∨ Unexpected c follow net [n.url] abort :=
      reason_of_look (List.mem_singleton_self n.url) hid hlook
    exact reason_ne_endless hreason
  | @lost fault hlook hend =>
    cases hstatus
    exact ofFetch_ne_endless n.url fault
  | @tried a hlook ha hend =>
    rw [Attempt.outcome] at hstatus
    cases hresult : a.result with
    | ok _ =>
      rw [hresult] at hstatus
      cases hstatus
    | error fault =>
      rw [hresult] at hstatus
      cases hstatus
      exact ofStore_ne_endless _ fault

/-- **The prompt schedule comes to the end** unless an answer never comes. -/
lemma resolve_endless {v : Volume} {named : List Named} {p : Progress}
    (hcheck : checkUrls urls = .ok named)
    (h : resolve c follow net (.ofVolume v) urls = (p, .error .endless)) :
    ∃ url ∈ urls, (Http.fetch follow net url).ending = none := by
  obtain ⟨rfl, haccepted⟩ := checkUrls_eq_ok_iff.1 hcheck
  rw [resolve_of_checkUrls hcheck] at h
  obtain ⟨log, changes, es, r, hrun, hruns⟩ := resolveNamed_runs c follow net v haccepted.nodup
  obtain ⟨-, rfl⟩ := Prod.mk.inj (hrun.symm.trans h)
  generalize hresult : Except.error CacheAbort.endless = r at hruns
  generalize requested es = asked at hruns
  cases hruns with
  | first hstarts hfailure =>
    cases hresult
    obtain ⟨n, hn⟩ := exists_of_firstFailure hfailure
    obtain ⟨hmem, w, now, asked, hbegan⟩ := hstarts.account.began _ hn
    exact absurd rfl (hbegan.ne_endless (haccepted.identifier n hmem))
  | second hstarts _ _ hplayed =>
    cases hresult
    obtain ⟨_, n, _, _, -, hfails⟩ := hplayed.of_error rfl
    rcases hfails.reason with ⟨fault, -, hlost⟩ | ⟨a, -, fault, -, -, -, hlost⟩
    · exact absurd hlost.symm (ofFetch_ne_endless n.url fault)
    · exact absurd hlost.symm (ofStore_ne_endless _ fault)
  | both hstarts hfailure _ hplayed =>
    rcases collect_cases _ (firstFailure_eq_none_iff.1 hfailure) with
      ⟨fs, hfs, -⟩ | ⟨-, n, f, hs, hnone⟩
    · cases hfs.symm.trans hresult.symm
    · obtain ⟨hn, rfl⟩ := hstarts.account.awaited hs
      exact ⟨n.url, List.mem_map_of_mem hn, hplayed.ending_eq_none hs hnone⟩

end Reasons

end ParseBench.Fixture
