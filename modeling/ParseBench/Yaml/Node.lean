import ParseBench.Yaml.Scalar.Kind
import ParseBench.Yaml.Token.Lexer

set_option relaxedAutoImplicit false
set_option autoImplicit false

/-!
# From tokens to nodes

A document is a graph of nodes: an alias stands for the node of its anchor, which may be one that
encloses it. Nodes are numbered in the order in which they begin.

## Main definitions

* `ParseBench.Yaml.Node`, `ParseBench.Yaml.Graph` — nodes and their graph.
* `ParseBench.Yaml.Building` — computations that take tokens and make nodes.
* `ParseBench.Yaml.Document.ofText` — the single document of a text.
-/

namespace ParseBench.Yaml

open ParseBench.Text (Points)

/-- The number of a node. -/
abbrev NodeId := Nat

/-- What a node holds. -/
inductive Content where
  | scalar (text : Points)
  | sequence (items : List NodeId)
  | mapping (pairs : List (NodeId × NodeId))
deriving DecidableEq, Repr

/-- A node: its full tag and its content. -/
structure Node where
  tag : String
  content : Content
deriving DecidableEq, Repr

/-- The nodes of a document, by number. -/
abbrev Graph := Array Node

/-- What is known while nodes are made: the tokens read so far and how many of them were taken, the
nodes so far, the anchors and the expansions of tag handles. -/
structure Builder where
  lexing : Lexing
  taken : Nat
  graph : Graph
  anchors : List (String × NodeId)
  handles : List (String × String)
deriving Repr

/-- A computation that takes tokens and makes nodes. -/
abbrev Building (α : Type) := StateT Builder (Except Fault) α

namespace Building

/-- The next token. No more of the text is read than is needed to settle it, so a fault further on
is not met yet. -/
def peek : Building Token := fun s => do
  let lexing ← s.lexing.settle s.taken (s.lexing.cursor.rest.length + 2)
  match lexing.tokens[s.taken]? with
  | some t => return (t, { s with lexing := lexing })
  | none => throw (.malformed "unexpected end of stream")

/-- Takes the next token. -/
def take : Building Token := do
  let t ← peek
  modify fun s => { s with taken := s.taken + 1 }
  return t

/-- Takes the next token if it is `t`. -/
def takeIf (t : Token) : Building Bool := do
  if (← peek) == t then
    let _ ← take
    return true
  else return false

/-- Whether the next token is one of those given. -/
def isAny (ts : List Token) : Building Bool := do
  return ts.contains (← peek)

/-- Fails. -/
def fail {α : Type} (detail : String) : Building α := throw (.malformed detail)

/-- Adds a node and names it by its anchor, if it has one. -/
def addNode (anchor : Option String) (n : Node) : Building NodeId := do
  let s ← get
  set { s with
    graph := s.graph.push n
    anchors := match anchor with
      | some a => (a, s.graph.size) :: s.anchors
      | none => s.anchors }
  return s.graph.size

/-- Sets the content of a node. -/
def setContent (id : NodeId) (content : Content) : Building Unit :=
  modify fun s => { s with graph := s.graph.modify id fun n => { n with content := content } }

/-- An empty scalar. -/
def emptyScalar : Building NodeId :=
  addNode none ⟨implicitTag [], .scalar []⟩

/-! ## Properties -/

/-- The full tag of a tag as it is written. -/
def fullTag (t : Tag) : Building String := do
  match t.handle with
  | none => return t.suffix
  | some handle =>
    match (← get).handles.lookup handle with
    | some expansion => return expansion ++ t.suffix
    | none => fail "found undefined tag handle"

/-- An anchor, if one comes next. -/
def takeAnchor : Building (Option String) := do
  match ← peek with
  | .anchor name =>
    let _ ← take
    return some name
  | _ => return none

/-- A tag, if one comes next. -/
def takeTag : Building (Option Tag) := do
  match ← peek with
  | .tag t =>
    let _ ← take
    return some t
  | _ => return none

/-- Anchor and tag of a node, in either order. The tag is full, but a lone exclamation mark
stays. -/
def properties : Building (Option String × Option String) := do
  let first ← takeAnchor
  let tag ← takeTag
  let anchor ← if first.isNone && tag.isSome then takeAnchor else pure first
  match tag with
  | none => return (anchor, none)
  | some t => return (anchor, some (← fullTag t))

/-- The tag of a collection. -/
def collectionTag (kind : String) : Option String → String
  | none => kind
  | some tag => if tag == "!" then kind else tag

/-- The tag of a scalar. A plain scalar without a tag, and any scalar with a lone exclamation mark,
has the tag that its text implies. -/
def scalarTag (plain : Bool) (text : Points) : Option String → String
  | none => if plain then implicitTag text else Tags.text
  | some tag => if tag == "!" then implicitTag text else tag

/-! ## Nodes -/

/-- How deeply collections may be nested. -/
def maxDepth : Nat := 330

/-- Where a node stands. -/
inductive Place where
  /-- In a block. -/
  | block
  /-- In a block, as the key or the value of a mapping: a sequence need not be indented. -/
  | blockValue
  /-- Inside brackets. -/
  | flow
deriving DecidableEq, Repr

/-- The tokens before which an entry of an unindented sequence or of a mapping is empty. -/
def endsPair : List Token := [.key, .value, .blockEnd]

mutual

/-- A node; `depth` collections enclose it. -/
def node (depth : Nat) (place : Place) : Nat → Building NodeId
  | 0 => throw .tooDeep
  | fuel + 1 => do
    match ← peek with
    | .alias name =>
      let _ ← take
      match (← get).anchors.lookup name with
      | some id => return id
      | none => fail "found undefined alias"
    | _ =>
      let (anchor, tag) ← properties
      let token ← peek
      let known := (← get).anchors
      if anchor.any fun a => (known.lookup a).isSome then fail "found duplicate anchor"
      else if maxDepth < depth then throw .tooDeep
      else
        let sequence (entries : Building (List NodeId)) : Building NodeId := do
          let id ← addNode anchor ⟨collectionTag Tags.sequence tag, .sequence []⟩
          setContent id (.sequence (← entries))
          return id
        let mapping (pairs : Building (List (NodeId × NodeId))) : Building NodeId := do
          let id ← addNode anchor ⟨collectionTag Tags.mapping tag, .mapping []⟩
          setContent id (.mapping (← pairs))
          return id
        match token with
        | .blockEntry =>
          if place == .blockValue then sequence (unindentedEntries (depth + 1) fuel)
          else if anchor.isSome || tag.isSome then
            addNode anchor ⟨scalarTag true [] tag, .scalar []⟩
          else fail "expected the node content"
        | .scalar text plain =>
          let _ ← take
          addNode anchor ⟨scalarTag plain text tag, .scalar text⟩
        | .flowSequenceStart =>
          let _ ← take
          sequence (flowItems (depth + 1) true fuel)
        | .flowMappingStart =>
          let _ ← take
          mapping (flowPairs (depth + 1) true fuel)
        | .blockSequenceStart =>
          if place == .flow then fail "expected the node content"
          else
            let _ ← take
            sequence (blockEntries (depth + 1) fuel)
        | .blockMappingStart =>
          if place == .flow then fail "expected the node content"
          else
            let _ ← take
            mapping (blockPairs (depth + 1) fuel)
        | _ =>
          if anchor.isSome || tag.isSome then
            addNode anchor ⟨scalarTag true [] tag, .scalar []⟩
          else fail "expected the node content"
termination_by structural fuel => fuel

/-- The entries of an indented sequence. -/
def blockEntries (depth : Nat) : Nat → Building (List NodeId)
  | 0 => throw .tooDeep
  | fuel + 1 => do
    if ← takeIf .blockEntry then
      let item ←
        if ← isAny [.blockEntry, .blockEnd] then emptyScalar else node depth .block fuel
      return item :: (← blockEntries depth fuel)
    else if ← takeIf .blockEnd then return []
    else fail "expected <block end>"
termination_by structural fuel => fuel

/-- The entries of a sequence that is not indented. -/
def unindentedEntries (depth : Nat) : Nat → Building (List NodeId)
  | 0 => throw .tooDeep
  | fuel + 1 => do
    if ← takeIf .blockEntry then
      let item ←
        if ← isAny (.blockEntry :: endsPair) then emptyScalar else node depth .block fuel
      return item :: (← unindentedEntries depth fuel)
    else return []
termination_by structural fuel => fuel

/-- The pairs of an indented mapping. A value may stand without a key only after one. -/
def blockPairs (depth : Nat) : Nat → Building (List (NodeId × NodeId))
  | 0 => throw .tooDeep
  | fuel + 1 => do
    if ← takeIf .key then
      let key ← if ← isAny endsPair then emptyScalar else node depth .blockValue fuel
      let value ←
        if ← takeIf .value then
          if ← isAny endsPair then emptyScalar else node depth .blockValue fuel
        else emptyScalar
      return (key, value) :: (← blockPairs depth fuel)
    else if ← takeIf .blockEnd then return []
    else fail "expected <block end>"
termination_by structural fuel => fuel

/-- The items of a sequence in brackets. A pair among them is a mapping of its own. -/
def flowItems (depth : Nat) (first : Bool) : Nat → Building (List NodeId)
  | 0 => throw .tooDeep
  | fuel + 1 => do
    if ← takeIf .flowSequenceEnd then return []
    else
      if !first then
        if !(← takeIf .flowEntry) then fail "expected ',' or ']'"
      if ← takeIf .key then
        let id ← addNode none ⟨Tags.mapping, .mapping []⟩
        if maxDepth < depth then throw .tooDeep
        let key ←
          if ← isAny [.value, .flowEntry, .flowSequenceEnd] then emptyScalar
          else node (depth + 1) .flow fuel
        let value ←
          if ← takeIf .value then
            if ← isAny [.flowEntry, .flowSequenceEnd] then emptyScalar
            else node (depth + 1) .flow fuel
          else emptyScalar
        setContent id (.mapping [(key, value)])
        return id :: (← flowItems depth false fuel)
      else if ← takeIf .flowSequenceEnd then return []
      else
        let item ← node depth .flow fuel
        return item :: (← flowItems depth false fuel)
termination_by structural fuel => fuel

/-- The pairs of a mapping in brackets. -/
def flowPairs (depth : Nat) (first : Bool) : Nat → Building (List (NodeId × NodeId))
  | 0 => throw .tooDeep
  | fuel + 1 => do
    if ← takeIf .flowMappingEnd then return []
    else
      if !first then
        if !(← takeIf .flowEntry) then fail "expected ',' or a closing brace"
      if ← takeIf .key then
        let key ←
          if ← isAny [.value, .flowEntry, .flowMappingEnd] then emptyScalar
          else node depth .flow fuel
        let value ←
          if ← takeIf .value then
            if ← isAny [.flowEntry, .flowMappingEnd] then emptyScalar else node depth .flow fuel
          else emptyScalar
        return (key, value) :: (← flowPairs depth false fuel)
      else if ← takeIf .flowMappingEnd then return []
      else
        let key ← node depth .flow fuel
        let value ← emptyScalar
        return (key, value) :: (← flowPairs depth false fuel)
termination_by structural fuel => fuel

end

/-! ## Documents -/

/-- The expansions of the handles that need no directive. -/
def defaultHandles : List (String × String) := [("!", "!"), ("!!", Tags.base)]

/-- The directives before a document: whether a version was given, and the handles. -/
def directives (versioned : Bool) (handles : List (String × String)) : Nat → Building Unit
  | 0 => throw .tooDeep
  | fuel + 1 => do
    match ← peek with
    | .directive d =>
      let _ ← take
      match d with
      | .version major _ =>
        if versioned then fail "found duplicate YAML directive"
        else if major != 1 then fail "found incompatible YAML document (version 1.* is required)"
        else directives true handles fuel
      | .handle name expansion =>
        if (handles.lookup name).isSome then fail "duplicate tag handle"
        else directives versioned (handles ++ [(name, expansion)]) fuel
      | .other => directives versioned handles fuel
    | _ => modify fun s => { s with handles := handles ++ defaultHandles }

/-- Skips marks of the end of a document. -/
def skipEnds : Nat → Building Unit
  | 0 => pure ()
  | fuel + 1 => do
    if ← takeIf .documentEnd then skipEnds fuel

/-- An explicit document: directives, its mark and its content, which may be empty. -/
def explicitDocument (fuel : Nat) : Building NodeId := do
  directives false [] fuel
  if ← takeIf .documentStart then
    match ← peek with
    | .directive _ | .documentStart | .documentEnd | .streamEnd => emptyScalar
    | _ => node 1 .block fuel
  else fail "expected '<document start>'"

/-- Ensures that no document follows. -/
def noMore (fuel : Nat) : Building Unit := do
  let _ ← takeIf .documentEnd
  skipEnds fuel
  if (← peek) == .streamEnd then return ()
  else
    directives false [] fuel
    if ← takeIf .documentStart then fail "expected a single document in the stream"
    else fail "expected '<document start>'"

/-- The single document of a stream; an empty stream has none. -/
def document (fuel : Nat) : Building (Option NodeId) := do
  match ← peek with
  | .streamEnd => return none
  | .directive _ | .documentStart =>
    let root ← explicitDocument fuel
    noMore fuel
    return some root
  | _ =>
    modify fun s => { s with handles := defaultHandles }
    let root ← node 1 .block fuel
    noMore fuel
    return some root

end Building

/-- A document: its nodes and the number of the outermost one. -/
structure Document where
  graph : Graph
  root : NodeId
deriving Repr

/-- How much may be made of a text of a length. Every character gives rise to at most a few
tokens. -/
def buildingFuel (length : Nat) : Nat := 16 * length + 64

/-- The single document of a text; an empty text has none. -/
def Document.ofText (s : List Char) : Except Fault (Option Document) := do
  let lexing ← Lexing.ofText s
  let (root, state) ← (Building.document (buildingFuel s.length)).run ⟨lexing, 0, #[], [], []⟩
  return root.map fun id => ⟨state.graph, id⟩

end ParseBench.Yaml
