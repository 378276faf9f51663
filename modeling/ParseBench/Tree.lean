import ParseBench.Binding.Raw
import ParseBench.Json.Reader

set_option relaxedAutoImplicit false
set_option autoImplicit false

/-!
# Syntax trees

The parser serializes its tree as JSON. Only one thing is asked of the tree: the length of the list
`fragment.nodes`.

## Main definitions

* `ParseBench.Tree.decode`, `ParseBench.Tree.decodeRaw` — the tree of a serialized root.
* `ParseBench.Tree.nodeCount?` — the number of nodes of the fragment.
-/

namespace ParseBench.Tree

/-- Why a root is not a tree. -/
inductive Fault where
  /-- The text is not JSON. -/
  | notJson (text : String) (fault : Json.Fault)
  /-- The root is not a text but a value of this kind. -/
  | notText (kind : String)
deriving DecidableEq, Repr

/-- The wording of a fault. -/
def Fault.message : Fault → String
  | .notJson text fault => fault.message text
  | .notText kind => "the JSON object must be str, bytes or bytearray, not " ++ kind

/-- The tree of a serialized root. -/
def decode (root : String) : Except Fault Json.Value :=
  (Json.read root).mapError (.notJson root)

/-- The tree of a root that may not even be a text. -/
def decodeRaw : Binding.Raw → Except Fault Json.Value
  | .text root => decode root
  | v => .error (.notText v.kind)

/-- The number of nodes of the fragment: the length of the list `nodes` in the object `fragment`. -/
def nodeCount? (tree : Json.Value) : Option Nat :=
  match (tree.field? "fragment").bind (·.field? "nodes") with
  | some (.array nodes) => some nodes.length
  | _ => none

mutual

/-- A raw value seen as a tree. Records are its objects; a value with attributes is no tree. -/
def ofRaw : Binding.Raw → Json.Value
  | .none => .null
  | .bool b => .bool b
  | .int n => .int n
  | .float x => .float x
  | .text s => .text (Text.Points.ofString s)
  | .list items => .array (ofRawItems items)
  | .record fields => .object (ofRawFields fields)
  | .object _ => .null

/-- The items of a list seen as trees. -/
def ofRawItems : List Binding.Raw → List Json.Value
  | [] => []
  | v :: rest => ofRaw v :: ofRawItems rest

/-- The fields of a record seen as trees. Only those whose key is a text are fields of a tree. -/
def ofRawFields : List (Binding.Key × Binding.Raw) → List (Text.Points × Json.Value)
  | [] => []
  | (.text k, v) :: rest => (Text.Points.ofString k, ofRaw v) :: ofRawFields rest
  | _ :: rest => ofRawFields rest

end

end ParseBench.Tree
