import ParseBench.Binding.Fault
import ParseBench.Http.Response
import ParseBench.Url.Join

set_option relaxedAutoImplicit false
set_option autoImplicit false

/-!
# Fetching a text

A fetch requests a URL and, if it is told to follow redirects, the locations it is sent to. Time
passes only while an answer is awaited. A fetch is described completely by the network: which
requests it makes and when, and when and how it ends.

## Main definitions

* `ParseBench.Http.Network` — what answers requests.
* `ParseBench.Http.Fetch` — a fetch.
* `ParseBench.Http.fetch` — the fetch of a URL.
-/

namespace ParseBench.Http

open ParseBench.Url (Target TargetFault)

/-- How long an answer takes. -/
inductive Delay where
  | after (time : Nat)
  | never
deriving DecidableEq, Repr

/-- Why there is no response. -/
inductive TransportFault where
  /-- The exchange with the server failed. -/
  | http (reason : String)
  /-- Something else failed during the exchange. -/
  | foreign (fault : Binding.Fault)
deriving Repr

/-- The answer to a request and how long it takes. -/
structure Exchange where
  delay : Delay
  reply : Except TransportFault Response

/-- What answers requests: an exchange for each URL. -/
abbrev Network := String → Exchange

/-- Why a fetch fails. -/
inductive FetchFault where
  | transport (fault : TransportFault)
  /-- The status of the response to the request for a URL is not one of success. -/
  | status (url : String) (response : Response)
  /-- The URL cannot be requested. -/
  | target (fault : TargetFault)
  /-- The location of a redirect is no URL. -/
  | location (fault : TargetFault)
  /-- The location of a redirect cannot be read against the URL that redirects. -/
  | join (fault : Url.Fault)
  | tooManyRedirects
  /-- The body of the response is no text that can be kept. -/
  | text (fault : Response.TextFault)
  /-- A host in ASCII stands for no readable one. -/
  | host (fault : Url.LabelFault)
  /-- A response came for a URL without a scheme. -/
  | noScheme (url : String)
deriving Repr

/-- The wording of a response for a URL without a scheme. -/
def noSchemeMessage (url : String) : String := "unknown url type: " ++ Text.quoted url

/-- The wording of a failure of HTTP; `none` for failures of other kinds. -/
def FetchFault.httpReason? : FetchFault → Option String
  | .transport (.http reason) => some reason
  | .status url response => some (response.statusMessage url)
  | .location fault => some ("Invalid URL in location header: " ++ fault.message ++ ".")
  | .tooManyRedirects => some "Exceeded maximum allowed redirects."
  | _ => none

/-- A fetch: its requests with their times, and its end. Times count from the start of the fetch. -/
structure Fetch where
  requests : List (Nat × String)
  /-- When and how the fetch ends, if it does. -/
  ending : Option (Nat × Except FetchFault String)

/-! ## Redirects -/

/-- The host of a target as it is read. -/
def readableHostOf (t : Target) : Except FetchFault Text.Points :=
  (Url.readableHost t.host).mapError .host

/-- The target of a location. A location without a host keeps the host. -/
def locationTarget (current : Target) (location : String) : Except FetchFault Target := do
  let t ← (Target.ofString location).mapError .location
  if t.scheme.isEmpty then return t
  else
    let _ ← readableHostOf t
    if t.host.isEmpty then (t.withHost (← readableHostOf current)).mapError .target else return t

/-- Checks that the hosts of two targets can be read, which is how they are compared. -/
def checkHosts (current next : Target) : Except FetchFault Unit := do
  if current.scheme == next.scheme then
    let _ ← readableHostOf next
    let _ ← readableHostOf current
    return ()
  else
    let _ ← readableHostOf current
    let _ ← readableHostOf next
    return ()

/-- The target of a redirect. A location without a host keeps the host, a relative one is read
against the current URL, and the fragment is kept unless the location has one. -/
def redirectTarget (current : Target) (location : String) : Except FetchFault Target := do
  let t ← locationTarget current location
  let t ←
    if t.isRelative then
      match current.join t with
      | .ok joined => .ok joined
      | .error (.split fault) => .error (.join fault)
      | .error (.target fault) => .error (.target fault)
    else .ok t
  let t ← match current.fragment, t.fragment with
    | some (c :: rest), none | some (c :: rest), some [] =>
      (t.withFragment (Url.unescape (c :: rest))).mapError .target
    | _, _ => .ok t
  checkHosts current t
  return t

/-- How many redirects are followed. -/
def maxRedirects : Nat := 20

/-- Where a single exchange leads: nowhere, to an end, or on to another target. -/
inductive Turn where
  | stuck
  | ended (result : Except FetchFault String) (time : Nat)
  | onward (next : Target) (time : Nat)

/-- Where a response leads at a time. -/
def turnOf (follow : Bool) (target : Target) (r : Response) (time : Nat) : Turn :=
  let refused : Except FetchFault String := .error (.status (String.ofList target.text) r)
  if target.scheme.isEmpty then .ended (.error (.noScheme (String.ofList target.text))) time
  else match r.redirect? with
  | some location =>
    match redirectTarget target location with
    | .error fault => .ended (.error fault) time
    | .ok next => if follow then .onward next time else .ended refused time
  | none => .ended (if r.isSuccess then r.text.mapError .text else refused) time

/-- Where the request for a target at a time leads. -/
def turn (follow : Bool) (net : Network) (target : Target) (time : Nat) : Turn :=
  let exchange := net (String.ofList target.text)
  match exchange.delay, exchange.reply with
  | .never, _ => .stuck
  | .after wait, .error fault => .ended (.error (.transport fault)) (time + wait)
  | .after wait, .ok r => turnOf follow target r (time + wait)

/-- A fetch from a target at a time on; the last argument is the number of redirects that it may
still follow. -/
def fetchFrom (follow : Bool) (net : Network) (target : Target) (time : Nat) (left : Nat) : Fetch :=
  let request := (time, String.ofList target.text)
  match turn follow net target time, left with
  | .stuck, _ => ⟨[request], none⟩
  | .ended result now, _ => ⟨[request], some (now, result)⟩
  | .onward _ now, 0 => ⟨[request], some (now, .error .tooManyRedirects)⟩
  | .onward next now, left + 1 =>
    let rest := fetchFrom follow net next now left
    ⟨request :: rest.requests, rest.ending⟩

/-- The fetch of a URL. -/
def fetch (follow : Bool) (net : Network) (url : Text.Points) : Fetch :=
  match Target.request url with
  | .error fault => ⟨[], some (0, .error (.target fault))⟩
  | .ok target => fetchFrom follow net target 0 maxRedirects

end ParseBench.Http
