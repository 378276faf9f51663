import ParseBench.Yaml.Token

set_option relaxedAutoImplicit false
set_option autoImplicit false

/-!
# From text to tokens

Block structure is given by indentation: a deeper column opens a collection and a smaller one closes
it. A key is recognized only by the colon after it, so the place of a possible key is remembered for
each level of brackets, and its token is inserted there once the colon is found. Such a key stays on
one line and within 1024 characters.

## Main definitions

* `ParseBench.Yaml.Lexing` — what is known at a place.
* `ParseBench.Yaml.Lexing.ofText` — the beginning of a text.
* `ParseBench.Yaml.Lexing.step` — reading the next token.
* `ParseBench.Yaml.Lexing.settle` — reading until the next token is settled.
-/

namespace ParseBench.Yaml

/-- A place where a key may have begun. -/
structure PossibleKey where
  /-- The level of brackets. -/
  level : Nat
  /-- Where the token of the key belongs among the tokens. -/
  position : Nat
  /-- Whether nothing but a key can stand there. -/
  required : Bool
  index : Nat
  line : Nat
  column : Nat
deriving DecidableEq, Repr

/-- What is known at a place: the tokens so far, the indentation of the block and of those around
it, the level of brackets, whether a key may begin, and where keys may have begun. -/
structure Lexing where
  cursor : Cursor
  tokens : Array Token
  indent : Int
  indents : List Int
  level : Nat
  keyAllowed : Bool
  possible : List PossibleKey
deriving Repr

namespace Lexing

/-- The beginning of a text. -/
def start (s : List Char) : Lexing :=
  ⟨.start s, #[], -1, [], 0, true, []⟩

/-- The complaint about a missing colon. -/
def noColon : Fault := .malformed "could not find expected ':'"

/-- Adds a token. -/
def emit (s : Lexing) (t : Token) : Lexing := { s with tokens := s.tokens.push t }

/-- Inserts a token before the token at a position. -/
def insertAt (s : Lexing) (position : Nat) (t : Token) : Lexing :=
  { s with tokens :=
      (s.tokens.extract 0 position).push t ++ s.tokens.extract position s.tokens.size }

/-! ## Possible keys -/

/-- The possible key of the current level. -/
def currentKey? (s : Lexing) : Option PossibleKey :=
  s.possible.find? fun k => k.level == s.level

/-- Forgets the possible key of the current level. -/
def dropKey (s : Lexing) : Lexing :=
  { s with possible := s.possible.filter fun k => k.level != s.level }

/-- Gives up the possible key of the current level, which must not be required. -/
def removeKey (s : Lexing) : Except Fault Lexing :=
  if s.currentKey?.any (·.required) then .error noColon else .ok s.dropKey

/-- Whether the colon of a possible key can no longer come. -/
def isStale (s : Lexing) (k : PossibleKey) : Bool :=
  k.line != s.cursor.line || s.cursor.index - k.index > 1024

/-- Gives up the possible keys whose colon can no longer come. -/
def removeStale (s : Lexing) : Except Fault Lexing :=
  if s.possible.any fun k => s.isStale k && k.required then .error noColon
  else .ok { s with possible := s.possible.filter fun k => !s.isStale k }

/-- Notes that a key may begin here. -/
def saveKey (s : Lexing) : Except Fault Lexing :=
  if !s.keyAllowed then .ok s
  else do
    let s ← s.removeKey
    let key : PossibleKey :=
      { level := s.level
        position := s.tokens.size
        required := s.level == 0 && s.indent == s.cursor.column
        index := s.cursor.index
        line := s.cursor.line
        column := s.cursor.column }
    return { s with possible := key :: s.possible }

/-! ## Indentation -/

/-- Closes the blocks that are indented deeper than a column. -/
def unwindTo (column : Int) : List Int → Lexing → Lexing
  | [], s => s
  | outer :: rest, s =>
    if s.indent > column then
      unwindTo column rest { s.emit .blockEnd with indent := outer, indents := rest }
    else s

/-- Closes the blocks that are indented deeper than a column. Inside brackets indentation is
free. -/
def unwind (s : Lexing) (column : Int) : Lexing :=
  if s.level == 0 then unwindTo column s.indents s else s

/-- Opens a block at a column that is deeper than the current indentation. -/
def deepen (s : Lexing) (column : Nat) : Option Lexing :=
  if s.indent < column then some { s with indents := s.indent :: s.indents, indent := column } else none

/-! ## Tokens -/

/-- Skips spaces, comments and line breaks. Outside brackets a new line may begin with a key. -/
def skipBlank (s : Lexing) : Nat → Lexing
  | 0 => s
  | fuel + 1 =>
    let c := s.cursor.skipWhile (· == ' ')
    let c := if c.peek == some '#' then c.skipWhile fun ch => !isBreak ch else c
    match c.lineBreak? with
    | none => { s with cursor := c }
    | some (_, c) =>
      skipBlank { s with cursor := c, keyAllowed := s.keyAllowed || s.level == 0 } fuel

/-- A token of `n` characters. -/
def fixedToken (s : Lexing) (t : Token) (n : Nat) : Lexing :=
  { s.emit t with cursor := s.cursor.advance n }

/-- The end of the text. -/
def streamEnd (s : Lexing) : Except Fault Lexing := do
  let s ← (s.unwind (-1)).removeKey
  return { s.emit .streamEnd with keyAllowed := false, possible := [] }

/-- A directive. -/
def readDirective (s : Lexing) : Except Fault Lexing := do
  let s ← (s.unwind (-1)).removeKey
  let (d, c) ← directive s.cursor
  return { s.emit (.directive d) with cursor := c, keyAllowed := false }

/-- A mark between documents. -/
def documentMark (s : Lexing) (t : Token) : Except Fault Lexing := do
  let s ← (s.unwind (-1)).removeKey
  return { s.fixedToken t 3 with keyAllowed := false }

/-- An opening bracket. -/
def openFlow (s : Lexing) (t : Token) : Except Fault Lexing := do
  let s ← s.saveKey
  return { s.fixedToken t 1 with level := s.level + 1, keyAllowed := true }

/-- A closing bracket. -/
def closeFlow (s : Lexing) (t : Token) : Except Fault Lexing := do
  let s ← s.removeKey
  return { s.fixedToken t 1 with level := s.level - 1, keyAllowed := false }

/-- A comma. -/
def flowEntry (s : Lexing) : Except Fault Lexing := do
  let s ← s.removeKey
  return { s.fixedToken .flowEntry 1 with keyAllowed := true }

/-- Opens a block of a kind here, if the column is deeper than the indentation. -/
def openBlock (s : Lexing) (t : Token) : Lexing :=
  match s.deepen s.cursor.column with
  | some s => s.emit t
  | none => s

/-- The dash of an entry. -/
def blockEntry (s : Lexing) : Except Fault Lexing := do
  if s.level == 0 && !s.keyAllowed then .error (.malformed "sequence entries are not allowed here")
  else
    let s := if s.level == 0 then s.openBlock .blockSequenceStart else s
    let s ← s.removeKey
    return { s.fixedToken .blockEntry 1 with keyAllowed := true }

/-- The question mark of a key. -/
def explicitKey (s : Lexing) : Except Fault Lexing := do
  if s.level == 0 && !s.keyAllowed then .error (.malformed "mapping keys are not allowed here")
  else
    let s := if s.level == 0 then s.openBlock .blockMappingStart else s
    let s ← s.removeKey
    return { s.fixedToken .key 1 with keyAllowed := s.level == 0 }

/-- The colon after a key whose place was noted. -/
def simpleValue (s : Lexing) (k : PossibleKey) : Lexing :=
  let s := s.dropKey.insertAt k.position .key
  let s :=
    if s.level == 0 then
      match s.deepen k.column with
      | some s => s.insertAt k.position .blockMappingStart
      | none => s
    else s
  { s.fixedToken .value 1 with keyAllowed := false }

/-- The colon after a key that was begun by a question mark, or after no key at all. -/
def complexValue (s : Lexing) : Except Fault Lexing := do
  if s.level == 0 && !s.keyAllowed then .error (.malformed "mapping values are not allowed here")
  else
    let s := if s.level == 0 then s.openBlock .blockMappingStart else s
    let s ← s.removeKey
    return { s.fixedToken .value 1 with keyAllowed := s.level == 0 }

/-- A colon. -/
def value (s : Lexing) : Except Fault Lexing :=
  match s.currentKey? with
  | some k => .ok (s.simpleValue k)
  | none => s.complexValue

/-- An alias or an anchor. -/
def named (s : Lexing) (t : String → Token) : Except Fault Lexing := do
  let s ← s.saveKey
  let (name, c) ← anchorName s.cursor
  return { s.emit (t name) with cursor := c, keyAllowed := false }

/-- A tag. -/
def readTag (s : Lexing) : Except Fault Lexing := do
  let s ← s.saveKey
  let (t, c) ← tag s.cursor
  return { s.emit (.tag t) with cursor := c, keyAllowed := false }

/-- A block scalar. A key may follow it. -/
def readBlock (s : Lexing) (folded : Bool) : Except Fault Lexing := do
  let s ← s.removeKey
  let (text, c) ← blockScalar folded s.indent s.cursor
  return { s.emit (.scalar (.ofChars text) false) with cursor := c, keyAllowed := true }

/-- A quoted scalar. -/
def readQuoted (s : Lexing) (q : Quote) : Except Fault Lexing := do
  let s ← s.saveKey
  let (text, c) ← quotedScalar q s.cursor
  return { s.emit (.scalar text false) with cursor := c, keyAllowed := false }

/-- A plain scalar. A key may follow it on a new line. -/
def readPlain (s : Lexing) : Except Fault Lexing := do
  let s ← s.saveKey
  let p := plainScalar (s.level != 0) s.indent s.cursor
  return { s.emit (.scalar (.ofChars p.text) true) with
    cursor := p.cursor, keyAllowed := p.lineEnded }

/-- The token that begins with a character. -/
def dispatch (s : Lexing) (ch : Char) : Except Fault Lexing :=
  let c := s.cursor
  let inFlow := s.level != 0
  let blankNext := isBlankOrEnd (c.peekAt 1)
  if ch == '%' && c.column == 0 then s.readDirective
  else if c.column == 0 && c.isMark '-' then s.documentMark .documentStart
  else if c.column == 0 && c.isMark '.' then s.documentMark .documentEnd
  else if ch == '[' then s.openFlow .flowSequenceStart
  else if ch == Char.ofNat 0x7B then s.openFlow .flowMappingStart
  else if ch == ']' then s.closeFlow .flowSequenceEnd
  else if ch == Char.ofNat 0x7D then s.closeFlow .flowMappingEnd
  else if ch == ',' then s.flowEntry
  else if ch == '-' && blankNext then s.blockEntry
  else if ch == '?' && (inFlow || blankNext) then s.explicitKey
  else if ch == ':' && (inFlow || blankNext) then s.value
  else if ch == '*' then s.named .alias
  else if ch == '&' then s.named .anchor
  else if ch == '!' then s.readTag
  else if ch == '|' && !inFlow then s.readBlock false
  else if ch == '>' && !inFlow then s.readBlock true
  else if ch == Text.apostrophe then s.readQuoted .single
  else if ch == Text.doubleQuote then s.readQuoted .double
  else if beginsPlain inFlow c then s.readPlain
  else .error (.malformed "found a character that cannot start any token")

/-- Reads the next token. -/
def step (s : Lexing) : Except Fault Lexing := do
  let s := s.skipBlank (s.cursor.rest.length + 1)
  let s ← s.removeStale
  let s := s.unwind s.cursor.column
  match s.cursor.peek with
  | none => s.streamEnd
  | some ch => s.dispatch ch

/-- Whether the whole text has been read. -/
def isDone (s : Lexing) : Bool := s.tokens.back? == some .streamEnd

/-- Reads on until it is settled which token follows the first `taken` ones: as long as that token
may turn out to belong to a key, the token of the key may still come before it. -/
def settle (taken : Nat) : Nat → Lexing → Except Fault Lexing
  | 0, s => .ok s
  | fuel + 1, s =>
    if s.isDone then .ok s
    else if s.tokens.size ≤ taken then do settle taken fuel (← s.step)
    else do
      let s ← s.removeStale
      if s.possible.any fun k => k.position == taken then settle taken fuel (← s.step) else .ok s

/-- The beginning of a text. A character that may not stand in a text is a fault before everything
else, and a byte order mark at the beginning is skipped. -/
def ofText (s : List Char) : Except Fault Lexing :=
  if s.all isAllowed then
    let start := Lexing.start s
    .ok (if start.cursor.peek == some '\uFEFF' then
      { start with cursor := start.cursor.next } else start)
  else .error (.malformed "special characters are not allowed")

end Lexing

end ParseBench.Yaml
