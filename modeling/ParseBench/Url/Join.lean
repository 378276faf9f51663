import ParseBench.Url.Target

set_option relaxedAutoImplicit false
set_option autoImplicit false

/-!
# Relative URLs

A relative URL is read against the URL of the page it stands on.

## Main definitions

* `ParseBench.Url.join` — a URL read against a base.
* `ParseBench.Url.Target.join` — the same on targets.
-/

namespace ParseBench.Url

open ParseBench.Text (splitOnChar)

/-- The schemes whose URLs can be relative. -/
def relativeSchemes : List String :=
  ["", "ftp", "http", "gopher", "nntp", "imap", "wais", "file", "https", "shttp", "mms", "prospero",
   "rtsp", "rtspu", "sftp", "svn", "svn+ssh", "ws", "wss"]

/-- The schemes whose URLs have an authority. -/
def authoritySchemes : List String :=
  ["", "ftp", "http", "gopher", "nntp", "telnet", "imap", "wais", "file", "mms", "https", "shttp",
   "snews", "prospero", "rtsp", "rtspu", "rsync", "svn", "svn+ssh", "sftp", "nfs", "git", "git+ssh",
   "ws", "wss"]

/-- The schemes whose paths may end in parameters. -/
def parameterSchemes : List String :=
  ["", "ftp", "hdl", "prospero", "http", "https", "shttp", "rtsp", "rtspu", "sip", "sips", "mms",
   "sftp", "tel"]

/-- The parts of a URL and the parameters at the end of its path. -/
structure Detailed where
  parts : Parts Char
  parameters : List Char
deriving DecidableEq, Repr

/-- Cuts the parameters off the last segment of a path. -/
def cutParameters (path : List Char) : List Char × List Char :=
  let segment := afterLast '/' path
  let front := path.take (path.length - segment.length)
  let (name, parameters) := cutAt ';' segment
  (front ++ name, parameters)

/-- The parts of a URL; a missing scheme is the one given. -/
def detailed (scheme : List Char) (url : List Char) : Except Fault Detailed := do
  let p ← splitGlyphs url
  let p := if p.scheme.isEmpty then { p with scheme := scheme } else p
  if parameterSchemes.contains (String.ofList p.scheme) then
    let (path, parameters) := cutParameters p.path
    return ⟨{ p with path := path }, parameters⟩
  else return ⟨p, []⟩

/-- The URL with the given parts. Empty parts are left out. -/
def Detailed.text (d : Detailed) : List Char :=
  let p := d.parts
  let path := if d.parameters.isEmpty then p.path else p.path ++ ';' :: d.parameters
  let hasAuthority := !p.authority.isEmpty ||
    (!p.scheme.isEmpty && authoritySchemes.contains (String.ofList p.scheme) &&
      path.take 2 != ['/', '/'])
  let rest :=
    if hasAuthority then
      ['/', '/'] ++ p.authority ++
        (if !path.isEmpty && path.head? != some '/' then '/' :: path else path)
    else path
  (if p.scheme.isEmpty then [] else p.scheme ++ [':']) ++ rest ++
    (if p.query.isEmpty then [] else '?' :: p.query) ++
    (if p.fragment.isEmpty then [] else '#' :: p.fragment)

/-- The segments of a path read against the path of its base: all but the last segment of the base
come in front, and empty segments inside are dropped. -/
def joinSegments (base path : List Char) : List (List Char) :=
  if path.head? == some '/' then splitOnChar '/' path
  else
    let parts := splitOnChar '/' base
    let front := if parts.getLast? == some [] then parts else parts.dropLast
    let all := front ++ splitOnChar '/' path
    match all with
    | first :: rest => first :: (rest.dropLast.filter (· != []) ++ rest.getLast?.toList)
    | [] => []

/-- Resolves the segments that are dots; two dots at the beginning have no effect. -/
def resolveSegments (segments : List (List Char)) : List (List Char) :=
  let resolved := segments.foldl (fun read segment =>
    if segment == ['.', '.'] then read.dropLast
    else if segment == ['.'] then read
    else read ++ [segment]) []
  match segments.getLast? with
  | some last => if last == ['.'] || last == ['.', '.'] then resolved ++ [[]] else resolved
  | none => resolved

/-- A path read against the path of its base. -/
def joinPath (base path : List Char) : List Char :=
  match ['/'].intercalate (resolveSegments (joinSegments base path)) with
  | [] => ['/']
  | joined => joined

/-- A URL read against a base. -/
def join (base url : List Char) : Except Fault (List Char) := do
  if base.isEmpty then return url
  else if url.isEmpty then return base
  else
    let b ← detailed [] base
    let u ← detailed b.parts.scheme url
    let scheme := String.ofList u.parts.scheme
    if u.parts.scheme != b.parts.scheme || !relativeSchemes.contains scheme then return url
    else if authoritySchemes.contains scheme && !u.parts.authority.isEmpty then return u.text
    else
      let authority :=
        if authoritySchemes.contains scheme then b.parts.authority else u.parts.authority
      let parts := { u.parts with authority := authority }
      if u.parts.path.isEmpty && u.parameters.isEmpty then
        let query := if u.parts.query.isEmpty then b.parts.query else u.parts.query
        return (⟨{ parts with path := b.parts.path, query := query }, b.parameters⟩ : Detailed).text
      else
        return (⟨{ parts with path := joinPath b.parts.path u.parts.path }, u.parameters⟩ : Detailed).text

/-- Why one target cannot be read against another. -/
inductive JoinFault where
  | split (fault : Fault)
  | target (fault : TargetFault)
deriving DecidableEq, Repr

/-- A target read against a base. -/
def Target.join (base t : Target) : Except JoinFault Target := do
  let joined ← (Url.join base.text t.text).mapError .split
  (Target.ofChars joined).mapError .target

end ParseBench.Url
