import ParseBench.Text.Quoted
import ParseBench.Url.Address

set_option relaxedAutoImplicit false
set_option autoImplicit false

/-!
# The parts of a URL

A URL is cleaned of leading controls and spaces and of all tabs and line breaks, and then cut into
scheme, authority, path, query and fragment. The cuts depend only on the characters that the glyphs
of the URL are taken for, so that a URL may hold lone surrogates.

## Main definitions

* `ParseBench.Url.Parts` — the parts of a URL.
* `ParseBench.Url.Fault` — why a URL has no parts.
* `ParseBench.Url.split` — the parts of a URL.
-/

namespace ParseBench.Url

open ParseBench.Text (Glyph Points quotedPoints)

/-- The parts of a URL; a part that is absent is empty. -/
structure Parts (α : Type) where
  scheme : List Char
  authority : List α
  path : List α
  query : List α
  fragment : List α
deriving DecidableEq, Repr

/-- Why a URL cannot be split. -/
inductive Fault where
  /-- Square brackets are unbalanced or stand at the wrong place. -/
  | brackets
  /-- An address of a future version is malformed. -/
  | futureAddress
  /-- The bracketed host is no internet address. -/
  | notAnAddress (host : Points)
  /-- The bracketed host is an address of version four. -/
  | bracketedIPv4
  /-- The authority holds a character that is equivalent to a delimiter. -/
  | hiddenDelimiter (authority : Points)
deriving DecidableEq, Repr

/-- The wording of a fault, which may show surrogates. -/
def Fault.wording : Fault → Points
  | .brackets => .ofString "Invalid IPv6 URL"
  | .futureAddress => .ofString "IPvFuture address is invalid"
  | .notAnAddress host =>
    .ofString (quotedPoints host ++ " does not appear to be an IPv4 or IPv6 address")
  | .bracketedIPv4 => .ofString "An IPv4 address cannot be in brackets"
  | .hiddenDelimiter authority =>
    .ofString "netloc '" ++ authority ++
      .ofString "' contains invalid characters under NFKC normalization"

/-- The wording of a fault. -/
def Fault.message (f : Fault) : String := f.wording.lossy

/-! ## Cleaning and cutting -/

/-- Whether a character is removed everywhere. -/
def isRemoved (c : Char) : Bool := c == '\t' || c == '\r' || c == '\n'

/-- A URL without leading controls and spaces and without tabs and line breaks. -/
def clean {α : Type} [Glyph α] (url : List α) : List α :=
  (url.dropWhile fun c => (Glyph.shape c).val ≤ 0x20).filter fun c => !isRemoved (Glyph.shape c)

/-- Whether a character may stand in a scheme. -/
def isSchemeChar (c : Char) : Bool :=
  c.isAlphanum || c == '+' || c == '-' || c == '.'

/-- Whether a text is a scheme. -/
def isScheme : List Char → Bool
  | [] => false
  | c :: rest => c.isAlpha && rest.all isSchemeChar

/-- Cuts off the scheme, in lower case, and its colon. -/
def cutScheme {α : Type} [Glyph α] (url : List α) : List Char × List α :=
  match url.span fun c => Glyph.shape c != ':' with
  | (name, _ :: rest) =>
    let name := name.map Glyph.shape
    if isScheme name then (name.map Char.toLower, rest) else ([], url)
  | _ => ([], url)

/-- Whether a character ends the authority. -/
def endsAuthority (c : Char) : Bool := c == '/' || c == '?' || c == '#'

/-- Cuts off the authority, which follows two slashes. -/
def cutAuthority {α : Type} [Glyph α] : List α → List α × List α
  | a :: b :: rest =>
    if Glyph.shape a == '/' && Glyph.shape b == '/' then
      rest.span fun c => !endsAuthority (Glyph.shape c)
    else ([], a :: b :: rest)
  | url => ([], url)

/-- Cuts a text at the first occurrence of a character, which is dropped. -/
def cutAt {α : Type} [Glyph α] (sep : Char) (s : List α) : List α × List α :=
  match s.span fun c => Glyph.shape c != sep with
  | (before, _ :: after) => (before, after)
  | (before, []) => (before, [])

/-! ## Checks of the authority -/

/-- What follows the last occurrence of a character; the whole text if there is none. -/
def afterLast {α : Type} [Glyph α] (sep : Char) (s : List α) : List α :=
  (s.reverse.takeWhile fun c => Glyph.shape c != sep).reverse

/-- Whether a text is an address of a future version: `v`, hexadecimal digits, a point and more. -/
def isFutureAddress : List Char → Bool
  | 'v' :: rest =>
    match rest.span fun c => (Json.hexValue? c).isSome with
    | (_ :: _, '.' :: _ :: _) => true
    | _ => false
  | _ => false

/-- Checks a host that stands in brackets. -/
def checkHost {α : Type} [Glyph α] (host : List α) : Except Fault Unit :=
  let chars := host.map Glyph.shape
  if chars.head? == some 'v' then
    if isFutureAddress chars then .ok () else .error .futureAddress
  else if isIPv4 chars then .error .bracketedIPv4
  else if isIPv6 chars then .ok ()
  else .error (.notAnAddress (Glyph.points host))

/-- Checks the brackets of an authority. They have to enclose the whole host, up to the port. -/
def checkBrackets {α : Type} [Glyph α] (authority : List α) : Except Fault Unit :=
  let chars := authority.map Glyph.shape
  if chars.contains '[' != chars.contains ']' then .error .brackets
  else if chars.contains '[' then
    match (afterLast '@' authority).span fun c => Glyph.shape c != '[' with
    | ([], _ :: bracketed) =>
      let (host, port) := cutAt ']' bracketed
      if port.isEmpty || port.head?.map Glyph.shape == some ':' then checkHost host
      else .error .brackets
    | (_ :: _, _ :: _) => .error .brackets
    | (host, []) => checkHost (cutAt ':' host).1
  else .ok ()

/-- The characters whose compatibility form holds one of the delimiters of an authority. -/
def hiddenDelimiters : List Nat :=
  [0x2047, 0x2048, 0x2049, 0x2100, 0x2101, 0x2105, 0x2106, 0x2A74, 0xFE13, 0xFE16, 0xFE55, 0xFE56,
   0xFE5F, 0xFE6B, 0xFF03, 0xFF0F, 0xFF1A, 0xFF1F, 0xFF20]

/-- Refuses an authority with a hidden delimiter. -/
def checkHidden {α : Type} [Glyph α] (authority : List α) : Except Fault Unit :=
  if authority.any fun c => hiddenDelimiters.contains (Glyph.shape c).toNat then
    .error (.hiddenDelimiter (Glyph.points authority))
  else .ok ()

/-! ## Splitting -/

/-- The parts of a URL given by its glyphs. -/
def splitGlyphs {α : Type} [Glyph α] (url : List α) : Except Fault (Parts α) := do
  let (scheme, rest) := cutScheme (clean url)
  let (authority, rest) := cutAuthority rest
  checkBrackets authority
  let (rest, fragment) := cutAt '#' rest
  let (path, query) := cutAt '?' rest
  checkHidden authority
  return ⟨scheme, authority, path, query, fragment⟩

/-- The parts of a URL. -/
def split (url : Points) : Except Fault (Parts Text.CodePoint) :=
  splitGlyphs url

end ParseBench.Url
