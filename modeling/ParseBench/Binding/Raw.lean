import ParseBench.Decimal.Shortest
import ParseBench.Text.Integer

set_option relaxedAutoImplicit false
set_option autoImplicit false

/-!
# Raw values of a parser binding

A parser binding answers with untyped values: scalars, lists, records with keys and objects with
attributes. This module gives the values and their texts.

Texts are sequences of characters. Surrogates on their own, for which there is
`ParseBench.Text.Points`, are left out: a console cannot write an error or a comment with one, which
ends the command with a fault of its own.

## Main definitions

* `ParseBench.Binding.Raw` — the values, and `ParseBench.Binding.Key` — the keys of records.
* `ParseBench.Binding.Raw.kind`, `ParseBench.Binding.Raw.qualifiedKind` — the name of a value's
  kind.
* `ParseBench.Binding.Raw.truthy` — whether a value counts as present.
* `ParseBench.Binding.Raw.shown`, `ParseBench.Binding.Raw.text?` — a value as it is displayed, with
  and without quotes around a text; `ParseBench.Binding.maxNesting` bounds the nesting of a display.
* `ParseBench.Binding.Raw.field?` — a key of a record or an attribute of an object.
-/

namespace ParseBench.Binding

open ParseBench.Text

/-- A key of a record: a scalar. -/
inductive Key where
  | none
  | bool (b : Bool)
  | int (n : Int)
  | float (x : Float)
  | text (s : String)
deriving Inhabited, Repr

instance : Coe String Key := ⟨.text⟩

/-- Whether a key is a text. -/
def Key.isText (k : Key) (s : String) : Bool :=
  match k with
  | .text t => t == s
  | _ => false

/-- A value that a binding returns. -/
inductive Raw where
  | none
  | bool (b : Bool)
  | int (n : Int)
  | float (x : Float)
  | text (s : String)
  | list (items : List Raw)
  | record (fields : List (Key × Raw))
  | object (attributes : List (String × Raw))
deriving Inhabited, Repr

/-- The name of the kind of a value. -/
def Raw.kind : Raw → String
  | .none => "NoneType"
  | .bool _ => "bool"
  | .int _ => "int"
  | .float _ => "float"
  | .text _ => "str"
  | .list _ => "list"
  | .record _ => "dict"
  | .object _ => "SimpleNamespace"

/-- The name of the kind of a value, with the module that defines it. -/
def Raw.qualifiedKind : Raw → String
  | .object _ => "types.SimpleNamespace"
  | v => v.kind

/-- Whether a value counts as present: nothing, `false`, zero and everything empty do not. -/
def Raw.truthy : Raw → Bool
  | .none => false
  | .bool b => b
  | .int n => n != 0
  | .float x => x != 0.0
  | .text s => s != ""
  | .list items => !items.isEmpty
  | .record fields => !fields.isEmpty
  | .object _ => true

/-- A key as a value. -/
def Key.toRaw : Key → Raw
  | .none => .none
  | .bool b => .bool b
  | .int n => .int n
  | .float x => .float x
  | .text s => .text s

/-- Why a value has no display. -/
inductive DisplayFault where
  /-- An integer in it is too long to be written. -/
  | integer (fault : IntegerFault)
  /-- It is nested too deeply. -/
  | tooDeep
deriving DecidableEq, Repr

/-- The wording of the lack of a display. -/
def DisplayFault.message : DisplayFault → String
  | .integer fault => fault.message
  | .tooDeep => "maximum recursion depth exceeded while getting the repr of an object"

/-- How many containers may be open at once in a display. -/
def maxNesting : Nat := 990

/-- Displays what is in a container that so many others are around. -/
def inContainer {α : Type} (depth : Nat) (inside : Except DisplayFault α) : Except DisplayFault α :=
  if depth < maxNesting then inside else .error .tooDeep

/-- The display of a key, a text quoted. -/
def Key.shown : Key → Except DisplayFault String
  | .none => .ok "None"
  | .bool b => .ok (if b then "True" else "False")
  | .int n => (writeInteger n).mapError .integer
  | .float x => .ok (Decimal.text x)
  | .text s => .ok (quoted s)

mutual

/-- The display of a value that so many containers are around, texts quoted. -/
def Raw.shownAt (depth : Nat) : Raw → Except DisplayFault String
  | .none => .ok "None"
  | .bool b => .ok (if b then "True" else "False")
  | .int n => (writeInteger n).mapError .integer
  | .float x => .ok (Decimal.text x)
  | .text s => .ok (quoted s)
  | .list items => do
    return "[" ++ joinShown (← inContainer depth (shownItems (depth + 1) items)) ++ "]"
  | .record fields => do
    return "\x7b" ++ joinShown (← inContainer depth (shownFields (depth + 1) fields)) ++ "\x7d"
  | .object attributes => do
    return "namespace(" ++
      joinShown (← inContainer depth (shownAttributes (depth + 1) attributes)) ++ ")"

/-- The displays of the items of a list. -/
def shownItems (depth : Nat) : List Raw → Except DisplayFault (List String)
  | [] => .ok []
  | v :: rest => do return (← v.shownAt depth) :: (← shownItems depth rest)

/-- The displays of the fields of a record. -/
def shownFields (depth : Nat) : List (Key × Raw) → Except DisplayFault (List String)
  | [] => .ok []
  | (k, v) :: rest => do
    return ((← k.shown) ++ ": " ++ (← v.shownAt depth)) :: (← shownFields depth rest)

/-- The displays of the attributes of an object. An attribute without a name is left out. -/
def shownAttributes (depth : Nat) : List (String × Raw) → Except DisplayFault (List String)
  | [] => .ok []
  | (k, v) :: rest =>
    if k.isEmpty then shownAttributes depth rest
    else do return (k ++ "=" ++ (← v.shownAt depth)) :: (← shownAttributes depth rest)

/-- Displays with a comma and a space between neighbours. -/
def joinShown (parts : List String) : String :=
  ", ".intercalate parts

end

/-- The display of a value, texts quoted. It fails on an integer that is too long to be written and
on containers that are nested too deeply, whichever comes first. -/
def Raw.shown (v : Raw) : Except DisplayFault String := v.shownAt 0

/-- A value as text: a text is itself, everything else is its display. -/
def Raw.text? : Raw → Except DisplayFault String
  | .text s => .ok s
  | v => v.shown

/-- The value of a key of a record or of an attribute of an object; other values have neither. -/
def Raw.field? (v : Raw) (name : String) : Option Raw :=
  match v with
  | .record fields => (fields.find? fun f => f.1.isText name).map (·.2)
  | .object attributes => attributes.lookup name
  | _ => .none

end ParseBench.Binding
