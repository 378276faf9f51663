set_option relaxedAutoImplicit false
set_option autoImplicit false

/-!
# Console messages

What the program says on the terminal, independent of how it is laid out.

## Main definitions

* `ParseBench.Console.Message` — the kinds of messages.
* `ParseBench.Console.Written` — text written to the two output streams.
* `ParseBench.Console.setPair` — a pair set in place, or appended.
-/

namespace ParseBench.Console

/-- A message. Titles may be empty, which means that there is none. -/
inductive Message where
  | info (text : String)
  | success (text : String)
  | warning (text : String)
  | error (text : String)
  /-- The heading of a phase of the work. -/
  | step (text : String)
  /-- Rows of cells under headers. -/
  | table (headers : List String) (rows : List (List String)) (title : String)
  /-- Keys and their values, a line each. -/
  | pairs (entries : List (String × String)) (title : String)
  /-- Text to be shown verbatim. -/
  | block (content : String) (title : String)
deriving DecidableEq, Repr

/-- Text for standard output and for standard error. -/
structure Written where
  out : String
  err : String
deriving DecidableEq, Repr

/-- Text for standard output. -/
def Written.toOut (s : String) : Written := ⟨s, ""⟩

/-- Text for standard error. -/
def Written.toErr (s : String) : Written := ⟨"", s⟩

/-- Sets a pair: the value of an earlier pair of that key is replaced where it stands, a new pair
goes to the end. -/
def setPair (key value : String) : List (String × String) → List (String × String)
  | [] => [(key, value)]
  | (k, v) :: rest => if k = key then (k, value) :: rest else (k, v) :: setPair key value rest

/-- Pairs with every key once, at the place of its first appearance and with its last value. -/
def distinctPairs (entries : List (String × String)) : List (String × String) :=
  entries.foldl (fun pairs (k, v) => setPair k v pairs) []

end ParseBench.Console
