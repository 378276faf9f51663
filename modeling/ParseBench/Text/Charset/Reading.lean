import ParseBench.Text.Utf8

set_option relaxedAutoImplicit false
set_option autoImplicit false

/-!
# Reading bytes

Bytes are read from the front: at each place some of them stand for characters, or for nothing at
all. What has been read before may decide how the next bytes are to be read, so that reading carries
a state.

## Main definitions

* `ParseBench.Text.Reading` — what some bytes stand for.
* `ParseBench.Text.Reading.lossy`, `ParseBench.Text.Reading.strict?` — a text, with what stands for
  nothing replaced or refused.
* `ParseBench.Text.Step` — what the bytes at one place stand for.
* `ParseBench.Text.read` — the reading of bytes by steps.
-/

namespace ParseBench.Text

/-- What some bytes stand for: code points, and `none` for bytes that stand for nothing. -/
abbrev Reading := List (Option CodePoint)

namespace Reading

/-- The reading of plain characters. -/
def ofChars (s : List Char) : Reading := s.map fun c => some (.char c)

/-- The text in which bytes that stand for nothing are replaced. -/
def lossy (r : Reading) : Points := r.map fun p => p.getD (.char replacementChar)

/-- The text, if all bytes stand for something. -/
def strict? (r : Reading) : Option Points :=
  if r.all Option.isSome then some r.lossy else none

end Reading

/-- What the bytes at one place stand for, and the state of the reading after them. -/
inductive Step (σ : Type) where
  /-- The first byte and `more` bytes after it stand for characters. -/
  | text (points : Points) (more : Nat) (state : σ)
  /-- The first byte and `more` bytes after it stand for nothing. -/
  | fault (more : Nat)
  /-- The bytes end before they stand for anything. -/
  | unfinished

namespace Step

/-- A step to a single character, for readings without a state. -/
def one (c : Char) (more : Nat) : Step Unit := .text [.char c] more ()

/-- A step to a character that a table may have; the first byte alone stands for nothing if it has
not. -/
def ofFound (c? : Option Char) (more : Nat) : Step Unit :=
  match c? with
  | some c => one c more
  | none => .fault 0

end Step

/-- Reads bytes from a state on; `skip` bytes belong to the step before, and `done` is what has been
read, in reverse. -/
def readFrom {σ : Type} (step : σ → UInt8 → Bytes → Step σ) (state : σ) (skip : Nat)
    (done : Reading) : Bytes → Reading
  | [] => done.reverse
  | b :: rest =>
    match skip with
    | skip + 1 => readFrom step state skip done rest
    | 0 =>
      match step state b rest with
      | .text points more state => readFrom step state more ((points.map some).reverse ++ done) rest
      | .fault more => readFrom step state more (none :: done) rest
      | .unfinished => (none :: done).reverse

/-- The reading of bytes by steps. -/
def read {σ : Type} (step : σ → UInt8 → Bytes → Step σ) (start : σ) (bytes : Bytes) : Reading :=
  readFrom step start 0 [] bytes

end ParseBench.Text
