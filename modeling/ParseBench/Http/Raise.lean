import ParseBench.Binding.Raise
import ParseBench.Http.Fetch

set_option relaxedAutoImplicit false
set_option autoImplicit false

/-!
# Faults raised during an exchange

An exchange can end with a fault of a named class. The classes of failures of HTTP have a single
text; some other classes of the client have a fixed one. All remaining classes are those that a
binding can raise, too.

## Main definitions

* `ParseBench.Http.TransportFault.raise` — the fault that arises when a class is raised.
* `ParseBench.Http.replyOf` — the reply of a server, whose header fields have to be in ASCII.
-/

namespace ParseBench.Http

open ParseBench.Binding (Fault Raw)

/-- The classes of failures of HTTP that belong to a request. -/
def requestClasses : List String :=
  ["RequestError", "TransportError", "TimeoutException", "ConnectTimeout", "ReadTimeout",
   "WriteTimeout", "PoolTimeout", "NetworkError", "ConnectError", "ReadError", "WriteError",
   "CloseError", "ProtocolError", "LocalProtocolError", "RemoteProtocolError", "ProxyError",
   "UnsupportedProtocol", "DecodingError", "TooManyRedirects"]

/-- The general class of failures of HTTP. -/
def generalClass : String := "HTTPError"

/-- The class of failures of HTTP that needs a response, which is never given. -/
def statusClass : String := "HTTPStatusError"

/-- The other classes with a single text. -/
def clientClasses : List String := ["InvalidURL", "CookieConflict", "StreamError"]

/-- The classes with a fixed text. -/
def fixedTexts : List (String × String) :=
  [("StreamConsumed", "Attempted to read or stream some content, but the content has already been " ++
    "streamed. For requests, this could be due to passing a generator as request content, and then " ++
    "receiving a redirect response or a secondary request as part of an authentication flow.For " ++
    "responses, this could be due to attempting to stream the response content more than once."),
   ("StreamClosed", "Attempted to read or stream content, but the stream has been closed."),
   ("ResponseNotRead", "Attempted to access streaming response content, without having called " ++
    "\x60read()\x60."),
   ("RequestNotRead", "Attempted to access streaming request content, without having called " ++
    "\x60read()\x60.")]

/-- The fault of a wrong number of arguments, where one is wanted. -/
def countFault (owner : String) (given : Nat) : Fault :=
  .ofText "TypeError" (owner ++ ".__init__() " ++
    (if given == 0 then "missing 1 required positional argument: 'message'"
    else "takes 2 positional arguments but " ++ (given + 1).repr ++ " were given"))

/-- The fault of arguments for a class with a fixed text. -/
def fixedCountFault (owner : String) (given : Nat) : Fault :=
  .ofText "TypeError" (owner ++ ".__init__() takes 1 positional argument but " ++
    (given + 1).repr ++ " were given")

/-- The fault of a missing response. -/
def noResponseFault : Fault :=
  .ofText "TypeError" (statusClass ++
    ".__init__() missing 2 required keyword-only arguments: 'request' and 'response'")

/-- A failure of HTTP with a text, if it has one. -/
def TransportFault.ofText (f : Fault) : TransportFault :=
  match f.message with
  | .ok reason => .http reason
  | .error lack => .foreign (.ofText "ValueError" lack.message)

/-- The fault that arises when a class is raised with arguments. -/
def TransportFault.raise (className : String) (arguments : List Raw) : TransportFault :=
  let single (owner : String) (make : Fault → TransportFault) : TransportFault :=
    match arguments with
    | [v] => make ⟨className, [v]⟩
    | vs => .foreign (countFault owner vs.length)
  if requestClasses.contains className then single "RequestError" .ofText
  else if className == generalClass then single className .ofText
  else if className == statusClass then single className fun _ => .foreign noResponseFault
  else if clientClasses.contains className then single className .foreign
  else match fixedTexts.lookup className with
    | some text =>
      if arguments.isEmpty then .foreign (.ofText className text)
      else .foreign (fixedCountFault className arguments.length)
    | none => .foreign (Fault.raise className arguments).awaited

/-! ## Header fields -/

/-- The fault of a header field that is not in ASCII: it reports the first run of other
characters. -/
def fieldFault? (field : String) : Option TransportFault :=
  match field.toList.span fun c => c.toNat < 0x80 with
  | (_, []) => none
  | (before, rest) =>
    let stop := before.length + (rest.takeWhile fun c => 0x80 ≤ c.toNat).length
    some (.foreign ⟨"UnicodeEncodeError", [.text "ascii", .text field, .int before.length, .int stop,
      .text "ordinal not in range(128)"]⟩)

/-- The reply of a server that sends a status, a body and header fields. -/
def replyOf (status : Nat) (body : Text.Bytes) (contentType location : Option String) :
    Except TransportFault Response :=
  match (contentType.bind fieldFault?).or (location.bind fieldFault?) with
  | some fault => .error fault
  | none => .ok ⟨status, body, contentType, location⟩

end ParseBench.Http
