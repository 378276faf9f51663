import ParseBench.Journal

set_option relaxedAutoImplicit false
set_option autoImplicit false

/-!
# Clocks

A clock answers a number of readings with a time in nanoseconds and then stops. Every measurement
that comes to an end reads its clock only finitely often, so a clock that stops late enough is no
restriction.

## Main definitions

* `ParseBench.Bench.Clock` — a clock.
* `ParseBench.Bench.Clock.read` — a reading, noted in the journal.
-/

namespace ParseBench.Bench

/-- A clock that answers the first `readings` readings. -/
structure Clock where
  readings : Nat
  time : Nat → Int

/-- The clock has stopped. -/
inductive Stopped where
  | stopped
deriving DecidableEq, Repr

/-- Reads the clock. A reading that fails is not noted. -/
def Clock.read (c : Clock) : Act Stopped Int := do
  let j ← get
  if j.clockReads < c.readings then
    set (j.add .clockRead)
    return c.time j.clockReads
  else throw .stopped

end ParseBench.Bench
