set_option relaxedAutoImplicit false
set_option autoImplicit false

/-!
# Fixtures

A fixture is an input of the benchmark. Its identifier and its content are sequences of characters.
Surrogates on their own, for which there is `ParseBench.Text.Points`, are left out: no content that
is read or fetched holds one, and in an identifier the replacement character stands for each.

## Main definitions

* `ParseBench.Bench.Fixture` — a fixture.
-/

namespace ParseBench.Bench

/-- A named source text. -/
structure Fixture where
  identifier : String
  content : String
deriving DecidableEq, Repr

end ParseBench.Bench
