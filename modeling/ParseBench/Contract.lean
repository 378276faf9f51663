import ParseBench.Binding.Parser

set_option relaxedAutoImplicit false
set_option autoImplicit false

/-!
# The contract of a binding

For a fixed sample source both entry points have to report exactly one fragment node, no errors and
exactly one comment.

## Main definitions

* `ParseBench.Contract.Report` — the counts of one outcome and what is wrong with them.
* `ParseBench.Contract.check` — the check of one outcome.
* `ParseBench.Contract.verifyMode`, `ParseBench.Contract.verify` — the check of an entry point and
  of both.
-/

namespace ParseBench.Contract

open Binding

/-- The source on which a binding is checked. -/
def sampleSource : String := "<!-- comment --> foo"

/-- The numbers of fragment nodes, errors and comments of an outcome. -/
structure Counts where
  nodes : Nat
  errors : Nat
  comments : Nat
deriving DecidableEq, Repr

/-- The counts that the sample has to give. -/
def expected : Counts := ⟨1, 0, 1⟩

/-- The complaint about one count, if it differs from the expected one. -/
def complaint (noun : String) (want got : Nat) : List String :=
  if got = want then []
  else ["expected " ++ want.repr ++ " " ++ noun ++ ", got " ++ got.repr]

/-- The complaints about all counts, in the order nodes, errors, comments. -/
def Counts.violations (c : Counts) : List String :=
  complaint "fragment node(s)" expected.nodes c.nodes ++
    complaint "error(s)" expected.errors c.errors ++
    complaint "comment(s)" expected.comments c.comments

/-- The counts of one calling mode and the complaints about them. -/
structure Report where
  mode : CallMode
  counts : Counts
  violations : List String
deriving DecidableEq, Repr

/-- Whether there are no complaints. -/
def Report.passed (r : Report) : Bool := r.violations.isEmpty

/-- The complaints in one line. -/
def Report.complaints (r : Report) : String := "; ".intercalate r.violations

/-- The wording of a violated contract. -/
def Report.message (r : Report) : String :=
  r.mode.name ++ " contract violated: " ++ r.complaints

/-- What can end a check. -/
inductive Abort where
  | parse (a : ParseAbort)
  | violated (r : Report)
deriving Repr

/-- Checks one outcome. -/
def check (mode : CallMode) (o : Outcome) : Act Abort Report := do
  Act.log .contract .debug (mode.name ++ " outcome: " ++ o.shown)
  let tree ← Act.ofExcept ((decodeRoot o.root).mapError .parse)
  let nodes ← Act.ofExcept ((fragmentNodes tree).mapError .parse)
  let counts : Counts := ⟨nodes, o.errors.length, o.comments.length⟩
  let report : Report := ⟨mode, counts, counts.violations⟩
  if report.passed then return report
  else
    Act.log .contract .error report.message
    throw (.violated report)

/-- Calls one entry point on a source and checks its outcome. -/
def verifyMode (p : Parser) (source : String) (mode : CallMode) : Act Abort Report := do
  let outcome ← (p.parse mode source).mapFailure .parse
  check mode outcome

/-- Checks the blocking entry point, then the deferred one, up to the first failure. -/
def verify (p : Parser) (source : String) : Act Abort (List Report) := do
  let blocking ← verifyMode p source .blocking
  let deferred ← verifyMode p source .deferred
  Act.log .contract .info "Contract satisfied for 2 calling convention(s)"
  return [blocking, deferred]

end ParseBench.Contract
