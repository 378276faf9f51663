import ParseBench.Contract
import ParseBench.Proofs.Binding.Parser

set_option relaxedAutoImplicit false
set_option autoImplicit false

/-!
# The verdict on a binding

A mode passes if its answer is a value that can be counted, and the counts are the expected ones.
The verdict on a binding looks at the blocking mode first, and at the deferred one only if the
blocking one passes.

## Main definitions

* `ParseBench.Contract.FragmentNodes` — the nodes of the fragment of a tree.
* `ParseBench.Contract.Counted`, `ParseBench.Contract.Passes` — the counts of an answer, and the
  answers with the expected ones.
* `ParseBench.Contract.Counts.differing` — the counts that are not the expected ones.
* `ParseBench.Contract.Fails` — what a mode that does not pass ends with.

## Main results

* `ParseBench.Contract.violations_eq` — there is one complaint for each count that differs.
* `ParseBench.Contract.verifyMode_ends` — the check of one mode.
* `ParseBench.Contract.verify_verdict` — the check of both modes.
-/

namespace ParseBench.Contract

open Binding
open Stateful

/-! ## Counting -/

/-- The nodes of the fragment of a tree: the items of the list `nodes` in the object `fragment`. -/
def FragmentNodes (tree : Json.Value) (nodes : List Json.Value) : Prop :=
  ∃ fields fragment, tree = .object fields ∧ tree.field? "fragment" = some (.object fragment) ∧
    (Json.Value.object fragment).field? "nodes" = some (.array nodes)

/-- Only an object has fields. -/
lemma field?_eq_some {tree v : Json.Value} {key : String} (h : tree.field? key = some v) :
    ∃ fields, tree = .object fields := by
  cases tree with
  | object fields => exact ⟨fields, rfl⟩
  | null => cases h
  | bool b => cases h
  | int n => cases h
  | float x => cases h
  | text s => cases h
  | array items => cases h

/-- The nodes of a tree can be counted if it has them. -/
lemma nodeCount?_eq_some_iff {tree : Json.Value} {n : Nat} :
    Tree.nodeCount? tree = some n ↔ ∃ nodes, FragmentNodes tree nodes ∧ nodes.length = n := by
  unfold Tree.nodeCount?
  constructor
  · intro h
    split at h
    · next nodes hnodes =>
      obtain ⟨fragment, hfragment, hfield⟩ := Option.bind_eq_some_iff.1 hnodes
      obtain ⟨fields, rfl⟩ := field?_eq_some hfragment
      obtain ⟨inner, rfl⟩ := field?_eq_some hfield
      exact ⟨nodes, ⟨fields, inner, rfl, hfragment, hfield⟩, Option.some.inj h⟩
    · cases h
  · rintro ⟨nodes, ⟨fields, fragment, rfl, hfragment, hnodes⟩, rfl⟩
    rw [hfragment, Option.bind_some, hnodes]

/-- A tree has at most one list of fragment nodes. -/
lemma FragmentNodes.unique {tree : Json.Value} {nodes nodes' : List Json.Value}
    (h : FragmentNodes tree nodes) (h' : FragmentNodes tree nodes') : nodes = nodes' := by
  obtain ⟨-, fragment, -, hfragment, hnodes⟩ := h
  obtain ⟨-, fragment', -, hfragment', hnodes'⟩ := h'
  obtain rfl : fragment = fragment' := by simpa [hfragment] using hfragment'
  simpa [hnodes] using hnodes'

/-- The fragment nodes of a tree are counted exactly if there is a list of them, and its length is
the count. -/
lemma fragmentNodes_eq_ok_iff {tree : Json.Value} {n : Nat} :
    fragmentNodes tree = .ok n ↔ ∃ nodes, FragmentNodes tree nodes ∧ nodes.length = n := by
  rw [← nodeCount?_eq_some_iff, fragmentNodes]
  cases Tree.nodeCount? tree with
  | none => simp
  | some m => simp

/-- The only failure in counting them is that there are none. -/
lemma fragmentNodes_eq_error {tree : Json.Value} {a : ParseAbort}
    (h : fragmentNodes tree = .error a) : a = .failure .noNodes := by
  rw [fragmentNodes] at h
  split at h
  · cases h
  · cases h
    rfl

/-- **The counts of an answer**: it is a value that normalizes, its root is a serialized tree with a
list of fragment nodes, and the nodes, the errors and the comments are this many. -/
def Counted (reply : Reply) (c : Counts) : Prop :=
  ∃ v o tree nodes, reply = .value v ∧ Outcome.ofRaw v = .ok o ∧ Tree.decode o.root = .ok tree ∧
    FragmentNodes tree nodes ∧ c = ⟨nodes.length, o.errors.length, o.comments.length⟩

/-- An answer has at most one count. -/
lemma Counted.unique {reply : Reply} {c c' : Counts} (h : Counted reply c)
    (h' : Counted reply c') : c = c' := by
  obtain ⟨v, o, tree, nodes, rfl, ho, htree, hnodes, rfl⟩ := h
  obtain ⟨v', o', tree', nodes', hreply, ho', htree', hnodes', rfl⟩ := h'
  cases hreply
  cases ho.symm.trans ho'
  cases htree.symm.trans htree'
  rw [hnodes.unique hnodes']

/-- An answer passes if it has one fragment node, no errors and one comment. -/
def Passes (reply : Reply) : Prop := Counted reply ⟨1, 0, 1⟩

/-- The counts that differ from the expected ones, each with its noun and the expected number, in
the order nodes, errors, comments. -/
def Counts.differing (c : Counts) : List (String × Nat × Nat) :=
  [("fragment node(s)", 1, c.nodes), ("error(s)", 0, c.errors), ("comment(s)", 1, c.comments)].filter
    fun (_, want, got) => got ≠ want

/-- The complaint about a count. -/
def complaintText : String × Nat × Nat → String
  | (noun, want, got) => "expected " ++ want.repr ++ " " ++ noun ++ ", got " ++ got.repr

/-- **One complaint for each count that differs**, in the order of the counts. -/
lemma violations_eq (c : Counts) : c.violations = c.differing.map complaintText := by
  have hone : ∀ noun want got, complaint noun want got =
      ([(noun, want, got)].filter fun (_, want, got) => got ≠ want).map complaintText := by
    intro noun want got
    unfold complaint
    by_cases h : got = want
    · simp [h]
    · simp [h, complaintText]
  have hsplit : ∀ x y z : String × Nat × Nat, [x, y, z] = [x] ++ [y] ++ [z] := fun _ _ _ => rfl
  rw [Counts.violations, hone, hone, hone, Counts.differing, hsplit, List.filter_append,
    List.filter_append, List.map_append, List.map_append]
  rfl

/-- There are no violations exactly if all counts are as they should be. -/
lemma violations_eq_nil_iff {c : Counts} : c.violations = [] ↔ c = ⟨1, 0, 1⟩ := by
  obtain ⟨nodes, errors, comments⟩ := c
  rw [violations_eq, List.map_eq_nil_iff, Counts.differing, List.filter_eq_nil_iff]
  simp

/-- A report passes exactly if all counts are as they should be. -/
lemma passed_iff {mode : CallMode} {c : Counts} :
    (⟨mode, c, c.violations⟩ : Report).passed = true ↔ c = ⟨1, 0, 1⟩ := by
  rw [Report.passed, List.isEmpty_iff, violations_eq_nil_iff]

/-! ## One mode -/

/-- The report on a mode that passes. -/
def passedReport (mode : CallMode) : Report := ⟨mode, ⟨1, 0, 1⟩, []⟩

/-- What a mode that does not pass ends with: the answer is no outcome, its root is no tree, the
tree has no list of fragment nodes, or the counts are not the expected ones. -/
inductive Fails (mode : CallMode) (reply : Reply) : Abort → Prop
  | answer {a : ParseAbort} (h : reply.outcome mode = .error a) : Fails mode reply (.parse a)
  | root {o : Outcome} {a : ParseAbort} (houtcome : reply.outcome mode = .ok o)
      (h : decodeRoot o.root = .error a) : Fails mode reply (.parse a)
  | nodes {o : Outcome} {tree : Json.Value} (houtcome : reply.outcome mode = .ok o)
      (htree : decodeRoot o.root = .ok tree) (h : ∀ nodes, ¬ FragmentNodes tree nodes) :
      Fails mode reply (.parse (.failure .noNodes))
  | counts {c : Counts} (hcounted : Counted reply c) (h : c ≠ ⟨1, 0, 1⟩) :
      Fails mode reply (.violated ⟨mode, c, c.differing.map complaintText⟩)

/-- An answer gives an outcome exactly if it is a value that normalizes to it. -/
lemma outcome_eq_ok_iff {mode : CallMode} {reply : Reply} {o : Outcome} :
    reply.outcome mode = .ok o ↔ ∃ v, reply = .value v ∧ Outcome.ofRaw v = .ok o := by
  cases reply with
  | value v => simp [Reply.outcome, mapError_eq_ok_iff]
  | raised f => simp [Reply.outcome]

/-- The counts of an answer are those of its outcome. -/
lemma counted_iff {mode : CallMode} {reply : Reply} {o : Outcome} {c : Counts}
    (houtcome : reply.outcome mode = .ok o) :
    Counted reply c ↔ ∃ tree nodes, decodeRoot o.root = .ok tree ∧ FragmentNodes tree nodes ∧
      c = ⟨nodes.length, o.errors.length, o.comments.length⟩ := by
  obtain ⟨v, rfl, hv⟩ := outcome_eq_ok_iff.1 houtcome
  constructor
  · rintro ⟨v', o', tree, nodes, hreply, ho', htree, hrest⟩
    cases hreply
    obtain rfl : o = o' := by simpa [hv] using ho'
    exact ⟨tree, nodes, mapError_eq_ok_iff.2 htree, hrest⟩
  · rintro ⟨tree, nodes, htree, hrest⟩
    exact ⟨v, o, tree, nodes, rfl, hv, mapError_eq_ok_iff.1 htree, hrest⟩

/-- Journals that differ in log records only. -/
structure Silent (j j' : Journal) : Prop where
  calls : j'.calls = j.calls
  callCount : ∀ mode, j'.callCount mode = j.callCount mode

/-- A log record is silent. -/
lemma Silent.log (j : Journal) (r : Log.Record) : Silent j (j.add (.log r)) :=
  ⟨j.calls_add_log r, j.callCount_add_log r⟩

/-- What is silent twice is silent. -/
lemma Silent.trans {j j₁ j₂ : Journal} (h : Silent j j₁) (h' : Silent j₁ j₂) : Silent j j₂ :=
  ⟨h'.calls.trans h.calls, fun mode => (h'.callCount mode).trans (h.callCount mode)⟩

/-- **The check of an outcome.** It passes if the outcome has the expected counts, and otherwise
ends as the mode fails. Only log records are written. -/
lemma check_ends {mode : CallMode} {reply : Reply} {o : Outcome}
    (houtcome : reply.outcome mode = .ok o) (j : Journal) :
    Silent j (check mode o j).2 ∧
      ((Passes reply ∧ (check mode o j).1 = .ok (passedReport mode)) ∨
        ¬ Passes reply ∧ ∃ abort, Fails mode reply abort ∧
          (check mode o j).1 = .error abort) := by
  have hlog := Silent.log j ⟨.contract, .debug, mode.name ++ " outcome: " ++ o.shown⟩
  have hcounted := fun c : Counts => counted_iff houtcome (c := c)
  rw [check, bind_eq, Act.log_eq]
  dsimp only
  rw [bind_eq, Act.ofExcept_eq]
  cases htree : decodeRoot o.root with
  | error a =>
    refine ⟨hlog, .inr ⟨?_, _, .root houtcome htree, rfl⟩⟩
    intro h
    obtain ⟨tree, nodes, htree', -⟩ := (hcounted _).1 h
    rw [htree] at htree'
    cases htree'
  | ok tree =>
    rw [Except.mapError]
    dsimp only
    rw [bind_eq, Act.ofExcept_eq]
    cases hnodes : fragmentNodes tree with
    | error a =>
      have hno : ∀ nodes, ¬ FragmentNodes tree nodes := by
        intro nodes h
        rw [fragmentNodes_eq_ok_iff.2 ⟨nodes, h, rfl⟩] at hnodes
        cases hnodes
      obtain rfl := fragmentNodes_eq_error hnodes
      refine ⟨hlog, .inr ⟨?_, _, .nodes houtcome htree hno, rfl⟩⟩
      intro h
      obtain ⟨tree', nodes, htree', hnodes', -⟩ := (hcounted _).1 h
      obtain rfl : tree = tree' := by simpa [htree] using htree'
      exact hno nodes hnodes'
    | ok n =>
      obtain ⟨nodes, hfragment, rfl⟩ := fragmentNodes_eq_ok_iff.1 hnodes
      have hc := (hcounted _).2 ⟨tree, nodes, htree, hfragment, rfl⟩
      rw [Except.mapError]
      dsimp only
      generalize (⟨nodes.length, o.errors.length, o.comments.length⟩ : Counts) = counts at hc ⊢
      by_cases h : counts = ⟨1, 0, 1⟩
      · subst h
        exact ⟨hlog, .inl ⟨hc, rfl⟩⟩
      · rw [if_neg (fun hpassed => h (passed_iff.1 hpassed)), violations_eq]
        exact ⟨hlog.trans (.log _ _), .inr ⟨fun h' => h (hc.unique h'), _, .counts hc h, rfl⟩⟩

/-- **The check of one mode.** It passes if the answer has the expected counts, and otherwise ends
as the mode fails. What is called is called once, and the other mode is not. -/
lemma verifyMode_ends (p : Parser) (source : String) (mode : CallMode) (j : Journal) :
    Silent (p.binding.call mode source j).2 (verifyMode p source mode j).2 ∧
      ((Passes (p.answer mode source j) ∧
          (verifyMode p source mode j).1 = .ok (passedReport mode)) ∨
        ¬ Passes (p.answer mode source j) ∧
          ∃ abort, Fails mode (p.answer mode source j) abort ∧
            (verifyMode p source mode j).1 = .error abort) := by
  rw [verifyMode, bind_eq, Act.mapFailure_eq, p.parse_eq]
  cases houtcome : (p.answer mode source j).outcome mode with
  | error a =>
    refine ⟨⟨rfl, fun _ => rfl⟩, .inr ⟨?_, _, .answer houtcome, rfl⟩⟩
    rintro ⟨v, o, tree, nodes, hreply, ho, -⟩
    have hok : (p.answer mode source j).outcome mode = .ok o := outcome_eq_ok_iff.2 ⟨v, hreply, ho⟩
    rw [houtcome] at hok
    cases hok
  | ok o => exact check_ends houtcome _

/-! ## Both modes -/

/-- The calls that a mode makes on a source: one, if there is a function to be called. -/
def callsOf (p : Parser) (mode : CallMode) (source : String) : List Call :=
  if (p.binding.entry mode).runs mode then [⟨mode, source⟩] else []

/-- A call is recorded if there is a function of its mode to be called. -/
lemma calls_call (p : Parser) (mode : CallMode) (source : String) (j : Journal) :
    (p.binding.call mode source j).2.calls = j.calls ++ callsOf p mode source := by
  rw [Binding.call_snd, callsOf]
  split
  · exact j.calls_add_call _
  · simp

/-- A call leaves the number of calls of the other mode. -/
lemma callCount_call (p : Parser) {mode mode' : CallMode} (h : mode ≠ mode') (source : String)
    (j : Journal) : (p.binding.call mode source j).2.callCount mode' = j.callCount mode' := by
  rw [Binding.call_snd]
  split
  · exact j.callCount_add_of_ne h
  · rfl

/-- What the blocking mode does leaves the answer of the deferred entry point as it is. -/
lemma answer_deferred (p : Parser) (source : String) {j j' : Journal}
    (h : Silent (p.binding.call .blocking source j).2 j') :
    p.answer .deferred source j' = p.answer .deferred source j := by
  apply Binding.call_fst_congr
  rw [h.callCount, callCount_call p (by simp)]

/-- **The verdict on a binding.** Whatever the two entry points return or raise, there is a verdict.
If both answers pass, both reports are returned, and only then. If the blocking answer does not, the
verdict is the failure of the blocking mode, and the deferred entry point is not called. If the
blocking answer passes, the deferred entry point is called, and if its answer does not pass, the
verdict is the failure of the deferred mode. -/
theorem verify_verdict (p : Parser) (source : String) (j : Journal) :
    ∃ verdict j', verify p source j = (verdict, j') ∧
      (verdict = .ok [passedReport .blocking, passedReport .deferred] ↔
        Passes (p.answer .blocking source j) ∧ Passes (p.answer .deferred source j)) ∧
      (¬ Passes (p.answer .blocking source j) →
        j'.calls = j.calls ++ callsOf p .blocking source ∧
          ∃ abort, verdict = .error abort ∧ Fails .blocking (p.answer .blocking source j) abort) ∧
      (Passes (p.answer .blocking source j) →
        j'.calls = j.calls ++ callsOf p .blocking source ++ callsOf p .deferred source ∧
          (¬ Passes (p.answer .deferred source j) →
            ∃ abort, verdict = .error abort ∧
              Fails .deferred (p.answer .deferred source j) abort)) := by
  obtain ⟨hsilent, hblocking⟩ := verifyMode_ends p source .blocking j
  rw [verify, bind_eq]
  generalize verifyMode p source .blocking j = first at hsilent hblocking ⊢
  obtain ⟨r₁, j₁⟩ := first
  have hcalls₁ : j₁.calls = j.calls ++ callsOf p .blocking source :=
    hsilent.calls.trans (calls_call p .blocking source j)
  rcases hblocking with ⟨hpass, rfl⟩ | ⟨hno, abort, hfails, rfl⟩
  · dsimp only
    obtain ⟨hsilent', hdeferred⟩ := verifyMode_ends p source .deferred j₁
    rw [answer_deferred p source hsilent] at hdeferred
    rw [bind_eq]
    generalize verifyMode p source .deferred j₁ = second at hsilent' hdeferred ⊢
    obtain ⟨r₂, j₂⟩ := second
    have hcalls₂ : j₂.calls =
        j.calls ++ callsOf p .blocking source ++ callsOf p .deferred source := by
      rw [hsilent'.calls, calls_call, hcalls₁]
    rcases hdeferred with ⟨hpass', rfl⟩ | ⟨hno', abort, hfails, rfl⟩
    · refine ⟨_, _, rfl, ⟨fun _ => ⟨hpass, hpass'⟩, fun _ => rfl⟩, fun h => absurd hpass h, ?_⟩
      intro _
      exact ⟨(Journal.calls_add_log _ _).trans hcalls₂, fun h => absurd hpass' h⟩
    · refine ⟨_, _, rfl, ⟨fun h => ?_, fun h => absurd h.2 hno'⟩, fun h => absurd hpass h, ?_⟩
      · cases h
      · intro _
        exact ⟨hcalls₂, fun _ => ⟨abort, rfl, hfails⟩⟩
  · refine ⟨_, _, rfl, ⟨fun h => ?_, fun h => absurd h.1 hno⟩, fun _ => ?_, fun h => absurd h hno⟩
    · cases h
    · exact ⟨hcalls₁, abort, rfl, hfails⟩

end ParseBench.Contract
