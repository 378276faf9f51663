import ParseBench.Text.Utf8
import ParseBench.Yaml.Scalar.Block
import ParseBench.Yaml.Scalar.Plain
import ParseBench.Yaml.Scalar.Quoted

set_option relaxedAutoImplicit false
set_option autoImplicit false

/-!
# YAML tokens

The tokens of a YAML text, and those of them that can be read without knowing what came before.

## Main definitions

* `ParseBench.Yaml.Token` — the tokens.
* `ParseBench.Yaml.directive`, `ParseBench.Yaml.anchorName`, `ParseBench.Yaml.tag` — directives,
  names of anchors, and tags.
-/

namespace ParseBench.Yaml

/-- A tag as it is written: a handle, which may be missing, and what follows it. -/
structure Tag where
  handle : Option String
  suffix : String
deriving DecidableEq, Repr

/-- What a directive says. -/
inductive Directive where
  | version (major minor : Nat)
  | handle (name expansion : String)
  | other
deriving DecidableEq, Repr

/-- A token. -/
inductive Token where
  | directive (d : Directive)
  | documentStart
  | documentEnd
  | streamEnd
  | blockSequenceStart
  | blockMappingStart
  | blockEnd
  | flowSequenceStart
  | flowSequenceEnd
  | flowMappingStart
  | flowMappingEnd
  | blockEntry
  | flowEntry
  | key
  | value
  | alias (name : String)
  | anchor (name : String)
  | tag (t : Tag)
  | scalar (text : Text.Points) (plain : Bool)
deriving DecidableEq, Repr

/-! ## Anchors -/

/-- The characters that may follow the name of an anchor. -/
def endsAnchor : Option Char → Bool
  | none => true
  | some c =>
    c == ' ' || c == '\t' || isBreak c ||
      ['?', ':', ',', ']', Char.ofNat 0x7D, '%', '@', Char.ofNat 0x60].contains c

/-- The name after the indicator of an anchor or an alias. -/
def anchorName (c : Cursor) : Except Fault (String × Cursor) :=
  let (name, c) := c.next.takeWhile isWordChar
  if name.isEmpty || !endsAnchor c.peek then
    .error (.malformed "expected alphabetic or numeric character")
  else .ok (String.ofList name, c)

/-! ## Tags -/

/-- Whether a character may stand in a tag. -/
def isTagChar (c : Char) : Bool :=
  c.isAlphanum || ("-;/?:@&=+$,_.!~*'()[]%".toList).contains c

/-- A run of bytes written as percent signs and pairs of hexadecimal digits. -/
def escapedBytes : Nat → Cursor → Except Fault (Text.Bytes × Cursor)
  | 0, c => .ok ([], c)
  | fuel + 1, c =>
    if c.peek != some '%' then .ok ([], c)
    else match (c.next.rest.take 2).filterMap Json.hexValue? with
      | [a, b] => do
        let (bytes, c) ← escapedBytes fuel (c.advance 3)
        return ((a * 16 + b).toUInt8 :: bytes, c)
      | _ => .error (.malformed "expected escape sequence of two hexadecimal numbers")

/-- The characters of a tag, escapes resolved. -/
def tagChars : Nat → Cursor → Except Fault (List Char × Cursor)
  | 0, c => .ok ([], c)
  | fuel + 1, c =>
    match c.peek with
    | none => .ok ([], c)
    | some ch =>
      if ch == '%' then do
        let (bytes, c) ← escapedBytes (c.rest.length + 1) c
        match Text.Utf8.decodeChars bytes with
        | .error _ => .error (.malformed "an escape is not valid UTF-8")
        | .ok part =>
          let (more, c) ← tagChars fuel c
          return (part ++ more, c)
      else if isTagChar ch then do
        let (more, c) ← tagChars fuel c.next
        return (ch :: more, c)
      else .ok ([], c)

/-- The characters of a tag; there has to be one. -/
def tagUri (c : Cursor) : Except Fault (String × Cursor) :=
  if c.peek.any isTagChar then do
    let (s, c) ← tagChars (c.rest.length + 1) c
    return (String.ofList s, c)
  else .error (.malformed "expected a tag")

/-- The handle of a tag: an exclamation mark, or a name between two of them. -/
def tagHandle (c : Cursor) : Except Fault (String × Cursor) :=
  if c.peek != some '!' then .error (.malformed "expected an exclamation mark")
  else if c.next.peek == some ' ' then .ok ("!", c.next)
  else
    let (name, after) := c.next.takeWhile isWordChar
    if after.peek == some '!' then .ok ("!" ++ String.ofList name ++ "!", after.next)
    else .error (.malformed "expected an exclamation mark")

/-- Whether another exclamation mark comes before the next space. -/
def hasHandle (c : Cursor) : Bool :=
  (c.next.rest.takeWhile fun ch => !(ch == ' ' || isBreak ch)).contains '!'

/-- A tag: verbatim between angle brackets, a lone exclamation mark, or a handle and a suffix. -/
def tag (c : Cursor) : Except Fault (Tag × Cursor) := do
  let (t, c) ←
    if c.peekAt 1 == some '<' then do
      let (uri, c) ← tagUri (c.advance 2)
      if c.peek == some '>' then pure ((⟨none, uri⟩ : Tag), c.next)
      else .error (.malformed "expected a closing angle bracket")
    else if isBlankOrEnd (c.peekAt 1) then pure ((⟨none, "!"⟩ : Tag), c.next)
    else do
      let (handle, c) ← if hasHandle c then tagHandle c else pure ("!", c.next)
      let (suffix, c) ← tagUri c
      pure ((⟨some handle, suffix⟩ : Tag), c)
  if isSpaceOrEnd c.peek then return (t, c) else .error (.malformed "expected a space after a tag")

/-! ## Directives -/

/-- A decimal number of a version. -/
def versionNumber (c : Cursor) : Except Fault (Nat × Cursor) :=
  let (digits, c) := c.takeWhile Char.isDigit
  if digits.isEmpty then .error (.malformed "expected a digit")
  else .ok (Text.ofDigits 10 (digits.map Json.digitValue), c)

/-- The version of a version directive. -/
def versionDirective (c : Cursor) : Except Fault (Directive × Cursor) := do
  let (major, c) ← versionNumber (c.skipWhile (· == ' '))
  if c.peek != some '.' then .error (.malformed "expected a digit or '.'")
  else
    let (minor, c) ← versionNumber c.next
    if isSpaceOrEnd c.peek then return (.version major minor, c)
    else .error (.malformed "expected a digit or ' '")

/-- The handle and the expansion of a handle directive. -/
def handleDirective (c : Cursor) : Except Fault (Directive × Cursor) := do
  let (handle, c) ← tagHandle (c.skipWhile (· == ' '))
  if c.peek != some ' ' then .error (.malformed "expected ' '")
  else
    let (expansion, c) ← tagUri (c.skipWhile (· == ' '))
    if isSpaceOrEnd c.peek then return (.handle handle expansion, c)
    else .error (.malformed "expected ' '")

/-- A directive, its whole line included. -/
def directive (c : Cursor) : Except Fault (Directive × Cursor) := do
  let (name, c) := c.next.takeWhile isWordChar
  if name.isEmpty || !isSpaceOrEnd c.peek then
    .error (.malformed "expected alphabetic or numeric character")
  else
    let (d, c) ←
      if name == "YAML".toList then versionDirective c
      else if name == "TAG".toList then handleDirective c
      else pure (Directive.other, c.skipWhile fun ch => !isBreak ch)
    return (d, ← ignoredLine c)

end ParseBench.Yaml
