import ParseBench.Text.CodePoint

set_option relaxedAutoImplicit false
set_option autoImplicit false

/-!
# JSON values

A value keeps integers exact and apart from floating-point numbers, and keeps the fields of an
object in the order of their first appearance. A text is a list of code points, since escapes can
write a surrogate that has no partner.

## Main definitions

* `ParseBench.Json.Value` — the values.
* `ParseBench.Json.setField` — a field set in place, or appended.
* `ParseBench.Json.Value.field?` — look-up in an object.
-/

namespace ParseBench.Json

open ParseBench.Text (Points)

/-- A JSON value. -/
inductive Value where
  | null
  | bool (b : Bool)
  | int (n : Int)
  | float (x : Float)
  | text (s : Points)
  | array (items : List Value)
  | object (fields : List (Points × Value))
deriving Repr

/-- Sets a field: the value of an earlier field of that name is replaced where it stands, a new
field goes to the end. -/
def setField (key : Points) (v : Value) : List (Points × Value) → List (Points × Value)
  | [] => [(key, v)]
  | (k, w) :: rest => if k = key then (k, v) :: rest else (k, w) :: setField key v rest

/-- The value of a field of an object; `none` for any other value. -/
def Value.field? (v : Value) (key : String) : Option Value :=
  match v with
  | .object fields => (fields.find? fun f => f.1 = Points.ofString key).map (·.2)
  | _ => none

end ParseBench.Json
