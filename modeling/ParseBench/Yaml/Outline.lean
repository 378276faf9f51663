import ParseBench.Yaml.Node
import ParseBench.Yaml.Scalar.Reading

set_option relaxedAutoImplicit false
set_option autoImplicit false

/-!
# From nodes to values

A node stands for a value of the kind its tag names. Scalars are read when they are met; collections
are met empty and filled later, in the order in which they were met, so that a collection may hold
itself. Before a mapping is filled its merge keys are replaced by the pairs of the mappings they
point to.

Only the outline of a document is kept: its texts, lists and mappings down to a given depth.

## Main definitions

* `ParseBench.Yaml.Outline` — what can be seen of a value.
* `ParseBench.Yaml.Surveying.fillAll` — reads every value of a document, or finds the first fault.
* `ParseBench.Yaml.outline` — the outline of a text.
-/

namespace ParseBench.Yaml

open ParseBench.Text (Points)

/-- The outline of a value. -/
inductive Outline where
  | text (s : Points)
  | list (items : List Outline)
  | mapping (entries : List (Outline × Outline))
  /-- A value of another kind, or one that lies too deep to be seen. -/
  | leaf
deriving Repr

/-- The value at a key of a mapping; of several the last. -/
def Outline.get? (key : String) : Outline → Option Outline
  | .mapping entries =>
    (entries.reverse.find? fun (k, _) =>
      match k with
      | .text s => s == .ofString key
      | _ => false).map (·.2)
  | _ => none

/-- What is known while values are made: the nodes, which of them have been met, and the collections
that have yet to be filled. -/
structure Survey where
  graph : Graph
  met : List NodeId
  pending : List NodeId
deriving Repr

/-- A computation that makes values. -/
abbrev Surveying (α : Type) := StateT Survey (Except Fault) α

namespace Surveying

/-- Fails. -/
def fail {α : Type} (detail : String) : Surveying α := throw (.malformed detail)

/-- A node by its number. -/
def nodeAt (id : NodeId) : Surveying Node := do
  match (← get).graph[id]? with
  | some n => return n
  | none => fail "no such node"

/-- Replaces a node. -/
def setNode (id : NodeId) (n : Node) : Surveying Unit :=
  modify fun s => { s with graph := s.graph.modify id fun _ => n }

/-- The pairs of a mapping. -/
def pairsOf (id : NodeId) : Surveying (List (NodeId × NodeId)) := do
  match (← nodeAt id).content with
  | .mapping pairs => return pairs
  | _ => fail "expected a mapping node"

/-- The items of a sequence. -/
def itemsOf (id : NodeId) : Surveying (List NodeId) := do
  match (← nodeAt id).content with
  | .sequence items => return items
  | _ => fail "expected a sequence node"

/-! ## Scalars -/

/-- The first value of a mapping whose key is an equals sign. -/
def defaultValue? (pairs : List (NodeId × NodeId)) : Surveying (Option NodeId) := do
  match pairs with
  | [] => return none
  | (key, value) :: rest =>
    if (← nodeAt key).tag == Tags.value then return some value else defaultValue? rest

/-- The text of a scalar. A mapping stands for the scalar at its equals sign. -/
def textOf : Nat → NodeId → Surveying Points
  | 0, _ => throw .tooDeep
  | fuel + 1, id => do
    match (← nodeAt id).content with
    | .scalar text => return text
    | .sequence _ => fail "expected a scalar node"
    | .mapping pairs =>
      match ← defaultValue? pairs with
      | some value => textOf fuel value
      | none => fail "expected a scalar node"

/-- How many mappings may stand for a scalar, one inside the other. -/
def maxDefaults : Nat := 900

/-- Lifts a check of a scalar. -/
def checked (r : Except ScalarFault Unit) : Surveying Unit :=
  match r with
  | .ok () => return ()
  | .error fault => throw (.scalar fault)

/-- Reads a scalar by its tag. -/
def readScalar (id : NodeId) (tag : String) : Surveying Unit := do
  let text ← textOf maxDefaults id
  if tag == Tags.bool then checked (checkBoolean text)
  else if tag == Tags.int then checked (checkInteger text)
  else if tag == Tags.float then checked (checkFloat text)
  else if tag == Tags.binary then
    match checkBinary text with
    | .ok () => return ()
    | .error fault => throw fault
  else if tag == Tags.timestamp then
    match (← nodeAt id).content with
    | .scalar _ => checked (checkTimestamp text)
    | _ => checked (.error .timestampMapping)

/-! ## Merge keys -/

/-- Replaces the merge keys of a mapping from position `index` on. The pairs merged so far, and then
those merged later, come in front of the mapping's own pairs; of several mappings merged by one key
the last comes first. On the way a key that is an equals sign becomes a text. -/
def flatten : Nat → NodeId → Nat → List (NodeId × NodeId) → Surveying Unit
  | 0, _, _, _ => throw .tooDeep
  | fuel + 1, id, index, merged => do
    let pairs ← pairsOf id
    match pairs[index]? with
    | none =>
      let n ← nodeAt id
      setNode id { n with content := .mapping (merged ++ pairs) }
    | some (key, value) =>
      let k ← nodeAt key
      if k.tag == Tags.merge then
        let n ← nodeAt id
        setNode id { n with content := .mapping (pairs.eraseIdx index) }
        let expand (source : NodeId) : Surveying (List (NodeId × NodeId)) := do
          let _ ← pairsOf source
          flatten fuel source 0 []
          pairsOf source
        match (← nodeAt value).content with
        | .mapping _ =>
          let more ← expand value
          flatten fuel id index (merged ++ more)
        | .sequence sources =>
          let more ← sources.mapM expand
          flatten fuel id index (merged ++ more.reverse.flatten)
        | .scalar _ => fail "expected a mapping or list of mappings for merging"
      else
        if k.tag == Tags.value then setNode key { k with tag := Tags.text }
        flatten fuel id (index + 1) merged

/-- The number of steps that merging may take in a document. -/
def maxMergeSteps : Nat := 1000000

/-! ## Collections -/

/-- The tags of scalars. -/
def scalarTags : List String :=
  [Tags.null, Tags.bool, Tags.int, Tags.float, Tags.binary, Tags.timestamp, Tags.text]

/-- The tags of collections. -/
def collectionTags : List String :=
  [Tags.sequence, Tags.mapping, Tags.set, Tags.orderedMapping, Tags.pairs]

/-- Meets a node: a scalar is read, a collection waits to be filled. -/
def meet (id : NodeId) : Surveying Unit := do
  if (← get).met.contains id then return ()
  else
    let tag := (← nodeAt id).tag
    if scalarTags.contains tag then readScalar id tag
    else if collectionTags.contains tag then
      modify fun s => { s with pending := s.pending ++ [id] }
    else fail "could not determine a constructor for the tag"
    modify fun s => { s with met := id :: s.met }

/-- Meets the key and the value of an entry. A collection cannot be a key. -/
def meetEntry (entry : NodeId × NodeId) : Surveying Unit := do
  meet entry.1
  if collectionTags.contains (← nodeAt entry.1).tag then fail "found unhashable key"
  meet entry.2

/-- Meets the single pair that an item of an ordered mapping holds. -/
def meetSingle (item : NodeId) : Surveying Unit := do
  match ← pairsOf item with
  | [(key, value)] =>
    meet key
    meet value
  | _ => fail "expected a single mapping item"

/-- Fills a collection: its parts are met. -/
def fill (id : NodeId) : Surveying Unit := do
  let tag := (← nodeAt id).tag
  if tag == Tags.sequence then (← itemsOf id).forM meet
  else if tag == Tags.mapping || tag == Tags.set then
    flatten maxMergeSteps id 0 []
    (← pairsOf id).forM meetEntry
  else (← itemsOf id).forM meetSingle

/-- Fills the collections that wait, those met on the way included. Each is filled once. -/
def fillAll : Nat → Surveying Unit
  | 0 => return ()
  | fuel + 1 => do
    match (← get).pending with
    | [] => return ()
    | id :: rest =>
      modify fun s => { s with pending := rest }
      fill id
      fillAll fuel

end Surveying

/-! ## Outlines -/

/-- The text of a scalar in a finished graph. -/
def textAt (g : Graph) (id : NodeId) : Outline :=
  match ((Surveying.textOf Surveying.maxDefaults id).run ⟨g, [], []⟩) with
  | .ok (text, _) => .text text
  | .error _ => .leaf

/-- The outline of a node, down to a depth. -/
def outlineAt (g : Graph) : Nat → NodeId → Outline
  | 0, _ => .leaf
  | depth + 1, id =>
    match g[id]? with
    | none => .leaf
    | some n =>
      if n.tag == Tags.text then textAt g id
      else match n.content with
        | .sequence items =>
          if n.tag == Tags.sequence then .list (items.map (outlineAt g depth))
          else .list (items.map fun _ => .leaf)
        | .mapping pairs =>
          if n.tag == Tags.mapping then
            .mapping (pairs.map fun (k, v) => (outlineAt g depth k, outlineAt g depth v))
          else .leaf
        | .scalar _ => .leaf

/-- The outline of a text, down to a depth; an empty text has the outline of nothing. -/
def outline (depth : Nat) (s : List Char) : Except Fault Outline := do
  match ← Document.ofText s with
  | none => return .leaf
  | some d =>
    let values : Surveying Unit := do
      Surveying.meet d.root
      Surveying.fillAll (d.graph.size + 1)
    let (_, made) ← values.run ⟨d.graph, [], []⟩
    return outlineAt made.graph depth d.root

end ParseBench.Yaml
