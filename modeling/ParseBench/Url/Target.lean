import ParseBench.Text.Integer
import ParseBench.Text.Utf8
import ParseBench.Url.Host
import ParseBench.Url.Split

set_option relaxedAutoImplicit false
set_option autoImplicit false

/-!
# Targets of requests

Before a URL is requested it is put into a normal form: scheme and host in lower case, the usual
port of the scheme left out, dots in the path resolved, and whatever may not stand in a URL written
as percent escapes.

## Main definitions

* `ParseBench.Url.Target` — a URL in normal form, and `ParseBench.Url.Target.text` its text.
* `ParseBench.Url.Target.ofString` — the normal form of a URL.
* `ParseBench.Url.Target.request` — the URL that a request without a base is sent to.
-/

namespace ParseBench.Url

open ParseBench.Text (CodePoint Glyph Points quoted quotedPoints splitOnChar)

/-- A URL in normal form. A query or a fragment may be present and empty. -/
structure Target where
  scheme : List Char
  userinfo : List Char
  host : List Char
  port : Option Int
  path : List Char
  query : Option (List Char)
  fragment : Option (List Char)
deriving DecidableEq, Repr

/-- Why a URL has no normal form. -/
inductive TargetFault where
  | tooLong
  /-- A control character stands in the URL, or in a named component of it. -/
  | control (component : Option String) (c : Char) (position : Nat)
  | address4 (host : Points)
  | address6 (host : Points)
  /-- The host is no host name. -/
  | hostName (host : Points)
  | port (text : Points)
  | absolutePath
  | doubleSlash
  | leadingColon
  /-- A surrogate has no percent escape. -/
  | surrogate (fault : Text.Utf8.SurrogateFault)
deriving DecidableEq, Repr

/-- The wording of a fault. -/
def TargetFault.message : TargetFault → String
  | .tooLong => "URL too long"
  | .control component c position =>
    "Invalid non-printable ASCII character in URL" ++
      (match component with
      | some name => " " ++ name ++ " component"
      | none => "") ++
      ", " ++ quoted (String.ofList [c]) ++ " at position " ++ position.repr ++ "."
  | .address4 host => "Invalid IPv4 address: " ++ quotedPoints host
  | .address6 host => "Invalid IPv6 address: " ++ quotedPoints host
  | .hostName host => "Invalid IDNA hostname: " ++ quotedPoints host
  | .port text => "Invalid port: " ++ quotedPoints text
  | .absolutePath => "For absolute URLs, path must be empty or begin with '/'"
  | .doubleSlash => "Relative URLs cannot have a path starting with '//'"
  | .leadingColon => "Relative URLs cannot have a path starting with ':'"
  | .surrogate fault => fault.message

/-! ## Percent escapes -/

/-- The bytes of a character as percent escapes. -/
def escapeChar (c : Char) : List Char :=
  (String.utf8EncodeChar c).flatMap fun b =>
    '%' :: (Text.hexDigits 2 b.toNat).map Char.toUpper

/-- The percent escape of a code point that is not safe. Each is encoded by itself. -/
def escapePoint (safe : Char → Bool) (p : CodePoint) : Except TargetFault (List Char) :=
  match p with
  | .char c => .ok (if safe c then [c] else escapeChar c)
  | .surrogate _ => .error (.surrogate ⟨0, 1, p⟩)

/-- Writes the characters that are not safe as percent escapes. -/
def escape (safe : Char → Bool) (s : Points) : Except TargetFault (List Char) := do
  return (← s.mapM (escapePoint safe)).flatten

/-- Whether a character is printable ASCII and not one of those given. -/
def isPrintableExcept (unsafeChars : String) (c : Char) : Bool :=
  0x20 < c.toNat && c.toNat < 0x7F && !unsafeChars.toList.contains c

/-- The characters that may stand in a fragment. -/
def isFragmentSafe : Char → Bool := isPrintableExcept "\"<>\x60"

/-- The characters that may stand in a query. -/
def isQuerySafe : Char → Bool := isPrintableExcept "\"#<>"

/-- The characters that may stand in a path. -/
def isPathSafe : Char → Bool := isPrintableExcept "\"#<>?\x60\x7b\x7d"

/-- The characters that may stand in user information. -/
def isUserinfoSafe : Char → Bool := isPrintableExcept "\"#<>?\x60\x7b\x7d/;=@[\\]^|"

/-- The characters that may stand in a host. -/
def isHostSafe (c : Char) : Bool :=
  c.isAlphanum || ("-._~!$&'()*+,;=\"\x60\x7b\x7d%|\\".toList).contains c

/-- The text of percent escapes, faults in it replaced. -/
def unescapeBytes : List Char → Text.Bytes
  | '%' :: a :: b :: rest =>
    match Json.hexValue? a, Json.hexValue? b with
    | some x, some y => (x * 16 + y).toUInt8 :: unescapeBytes rest
    | _, _ => 0x25 :: unescapeBytes (a :: b :: rest)
  | c :: rest => String.utf8EncodeChar c ++ unescapeBytes rest
  | [] => []

/-- A text with its percent escapes resolved. -/
def unescape (s : List Char) : List Char :=
  (Text.Utf8.decodeLossy (unescapeBytes s)).toList

/-! ## Components -/

/-- Refuses control characters. -/
def checkControls (component : Option String) (s : List Char) : Except TargetFault Unit :=
  match s.findIdx? fun c => c.toNat < 0x20 || c.toNat == 0x7F with
  | none => .ok ()
  | some i => .error (.control component ((s[i]?).getD ' ') i)

/-- Whether a host is four decimal numbers with points between them. -/
def looksLikeIPv4 (host : List Char) : Bool :=
  let numbers := splitOnChar '.' host
  numbers.length == 4 && numbers.all fun n => !n.isEmpty && n.all Char.isDigit

/-- The normal form of a host. -/
def normalHost (host : Points) : Except TargetFault (List Char) :=
  let chars := host.shape
  if looksLikeIPv4 chars then
    if isIPv4 chars then .ok chars else .error (.address4 host)
  else if chars.head? == some '[' && chars.getLast? == some ']' then
    let address := (chars.drop 1).dropLast
    if isIPv6 address then .ok address else .error (.address6 host)
  else if host.all fun p => p.number < 0x80 then
    escape isHostSafe (.ofChars (chars.map Char.toLower))
  else (asciiHost (Text.lowerPoints host)).mapError fun _ => .hostName host

/-- The usual ports of schemes. -/
def usualPorts : List (String × Int) :=
  [("ftp", 21), ("http", 80), ("https", 443), ("ws", 80), ("wss", 443)]

/-- The normal form of a port; the scheme is the one that was written. -/
def normalPort (scheme : List Char) (port : Points) : Except TargetFault (Option Int) :=
  if port.isEmpty then .ok none
  else match Text.readInBase 10 port with
    | .error _ => .error (.port port)
    | .ok n => .ok (if usualPorts.lookup (String.ofList scheme) == some n then none else some n)

/-- Resolves the segments of a path that are dots. -/
def resolveDots (read : List Points) : List Points → List Points
  | [] => read
  | segment :: rest =>
    if segment.shape == ['.'] then resolveDots read rest
    else if segment.shape == ['.', '.'] then
      resolveDots (if read == [[]] then read else read.dropLast) rest
    else resolveDots (read ++ [segment]) rest

/-- A path without segments that are dots. -/
def normalPath (path : Points) : Points :=
  [.char '/'].intercalate (resolveDots [] (splitOnChar (.char '/') path))

/-- Cuts an authority into user information, host and port. The user information ends at the last
at-sign; a host in brackets ends at the last bracket. -/
def cutUserHostPort (authority : Points) : Points × Points × Points :=
  let hostPort := afterLast '@' authority
  let userinfo := (authority.take (authority.length - hostPort.length)).dropLast
  let (host, rest) :=
    if hostPort.head? == some (.char '[') && hostPort.contains (.char ']') then
      let port := afterLast ']' hostPort
      (hostPort.take (hostPort.length - port.length), port)
    else hostPort.span fun c => c != .char ':'
  (userinfo, host, match rest with
    | .char ':' :: port => port
    | port => port)

/-! ## Targets -/

/-- The components of a URL as they are written. -/
structure Written where
  scheme : List Char
  userinfo : Points
  host : Points
  port : Points
  path : Points
  query : Option Points
  fragment : Option Points
deriving DecidableEq, Repr

/-- Checks a path: with a host it begins with a slash, and without scheme and host it cannot look as
if it had one of them. -/
def checkPath (hasScheme hasHost : Bool) (path : List Char) : Except TargetFault Unit :=
  if hasHost then
    if path.isEmpty || path.head? == some '/' then .ok () else .error .absolutePath
  else if hasScheme then .ok ()
  else if path.take 2 == ['/', '/'] then .error .doubleSlash
  else if path.head? == some ':' then .error .leadingColon
  else .ok ()

/-- The normal form of components. -/
def Written.normal (w : Written) : Except TargetFault Target := do
  let userinfo ← escape isUserinfoSafe w.userinfo
  let host ← normalHost w.host
  let port ← normalPort w.scheme w.port
  let hasScheme := !w.scheme.isEmpty
  let hasHost := !userinfo.isEmpty || !host.isEmpty || port.isSome
  checkPath hasScheme hasHost w.path.shape
  let path ← escape isPathSafe (if hasScheme || hasHost then normalPath w.path else w.path)
  let query ← w.query.mapM (escape isQuerySafe)
  let fragment ← w.fragment.mapM (escape isFragmentSafe)
  return ⟨w.scheme.map Char.toLower, userinfo, host, port, path, query, fragment⟩

/-- Cuts a text at the first occurrence of a character, which may be absent. -/
def cutOptional (sep : Char) (s : Points) : Points × Option Points :=
  match s.span (· != .char sep) with
  | (before, _ :: after) => (before, some after)
  | (before, []) => (before, none)

/-- Cuts off a scheme and its colon. The scheme keeps its case, and may be empty. -/
def cutWrittenScheme (url : Points) : List Char × Points :=
  match url.span (· != .char ':') with
  | (name, _ :: rest) =>
    if name.isEmpty || isScheme (Points.shape name) then (Points.shape name, rest) else ([], url)
  | _ => ([], url)

/-- The components of a URL. -/
def Written.ofPoints (url : Points) : Written :=
  let (scheme, rest) := cutWrittenScheme url
  let (authority, rest) := cutAuthority rest
  let (rest, fragment) := cutOptional '#' rest
  let (path, query) := cutOptional '?' rest
  let (userinfo, host, port) := cutUserHostPort authority
  ⟨scheme, userinfo, host, port, path, query, fragment⟩

namespace Target

/-- The greatest length of a URL. -/
def maxLength : Nat := 65536

/-- The normal form of a URL. -/
def ofPoints (url : Points) : Except TargetFault Target := do
  if maxLength < url.length then .error .tooLong
  checkControls none url.shape
  (Written.ofPoints url).normal

/-- The normal form of a URL. -/
def ofChars (url : List Char) : Except TargetFault Target := ofPoints (.ofChars url)

/-- The normal form of a URL. -/
def ofString (url : String) : Except TargetFault Target := ofPoints (.ofString url)

/-- User information, host and port as they are written. -/
def authority (t : Target) : List Char :=
  (if t.userinfo.isEmpty then [] else t.userinfo ++ ['@']) ++
    (if t.host.contains ':' then '[' :: t.host ++ [']'] else t.host) ++
    (match t.port with
    | some n => ':' :: (Text.intText n).toList
    | none => [])

/-- The text of a target. -/
def text (t : Target) : List Char :=
  (if t.scheme.isEmpty then [] else t.scheme ++ [':']) ++
    (if t.authority.isEmpty then [] else ['/', '/'] ++ t.authority) ++
    t.path ++
    (match t.query with
    | some q => '?' :: q
    | none => []) ++
    (match t.fragment with
    | some f => '#' :: f
    | none => [])

/-- Whether a target has no scheme or no host. -/
def isRelative (t : Target) : Bool := t.scheme.isEmpty || t.host.isEmpty

/-- The components of a target, to be changed and put into normal form again. -/
def written (t : Target) : Written :=
  let (userinfo, host, port) := cutUserHostPort (.ofChars t.authority)
  ⟨t.scheme, userinfo, host, port, .ofChars t.path, t.query.map .ofChars, t.fragment.map .ofChars⟩

/-- A target with another host. -/
def withHost (t : Target) (host : Points) : Except TargetFault Target :=
  let chars := host.shape
  let bracketed := chars.contains ':' && !(chars.head? == some '[' && chars.getLast? == some ']')
  let host : Points := if bracketed then .ofChars ['['] ++ host ++ .ofChars [']'] else host
  { t.written with host := host }.normal

/-- A target with another fragment. -/
def withFragment (t : Target) (fragment : List Char) : Except TargetFault Target := do
  checkControls (some "fragment") fragment
  { t.written with fragment := some (.ofChars fragment) }.normal

/-- The target of a request for a URL. Of a relative URL only path and query are sent. -/
def request (url : Points) : Except TargetFault Target := do
  let t ← ofPoints url
  if t.isRelative then
    let path := '/' :: t.path.dropWhile (· == '/')
    (⟨[], [], [], [], .ofChars path, t.query.map .ofChars, none⟩ : Written).normal
  else return t

end Target

end ParseBench.Url
