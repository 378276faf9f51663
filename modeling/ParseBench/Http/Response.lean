import ParseBench.Http.ContentType

set_option relaxedAutoImplicit false
set_option autoImplicit false

/-!
# Responses of servers

A response is a status and a body, with the two header fields that matter here: the type of the
content, which may announce its charset, and the location to go to instead.

## Main definitions

* `ParseBench.Http.Response` — a response.
* `ParseBench.Http.Response.text` — its body as a text.
* `ParseBench.Http.Response.statusMessage` — the wording for a status other than success.
-/

namespace ParseBench.Http

open ParseBench.Text (Bytes Charset)

/-- A response. -/
structure Response where
  status : Nat
  body : Bytes
  contentType : Option String
  location : Option String
deriving DecidableEq, Repr

/-! ## Status -/

/-- The standard reasons. -/
def reasons : List (Nat × String) :=
  [(100, "Continue"), (101, "Switching Protocols"), (102, "Processing"), (103, "Early Hints"),
   (200, "OK"), (201, "Created"), (202, "Accepted"), (203, "Non-Authoritative Information"),
   (204, "No Content"), (205, "Reset Content"), (206, "Partial Content"), (207, "Multi-Status"),
   (208, "Already Reported"), (226, "IM Used"), (300, "Multiple Choices"),
   (301, "Moved Permanently"), (302, "Found"), (303, "See Other"), (304, "Not Modified"),
   (305, "Use Proxy"), (307, "Temporary Redirect"), (308, "Permanent Redirect"),
   (400, "Bad Request"), (401, "Unauthorized"), (402, "Payment Required"), (403, "Forbidden"),
   (404, "Not Found"), (405, "Method Not Allowed"), (406, "Not Acceptable"),
   (407, "Proxy Authentication Required"), (408, "Request Timeout"), (409, "Conflict"),
   (410, "Gone"), (411, "Length Required"), (412, "Precondition Failed"),
   (413, "Request Entity Too Large"), (414, "Request-URI Too Long"),
   (415, "Unsupported Media Type"), (416, "Requested Range Not Satisfiable"),
   (417, "Expectation Failed"), (418, "I'm a teapot"), (421, "Misdirected Request"),
   (422, "Unprocessable Entity"), (423, "Locked"), (424, "Failed Dependency"),
   (425, "Too Early"), (426, "Upgrade Required"), (428, "Precondition Required"),
   (429, "Too Many Requests"), (431, "Request Header Fields Too Large"),
   (451, "Unavailable For Legal Reasons"), (500, "Internal Server Error"),
   (501, "Not Implemented"), (502, "Bad Gateway"), (503, "Service Unavailable"),
   (504, "Gateway Timeout"), (505, "HTTP Version Not Supported"),
   (506, "Variant Also Negotiates"), (507, "Insufficient Storage"), (508, "Loop Detected"),
   (510, "Not Extended"), (511, "Network Authentication Required")]

/-- The kind of a status other than success. -/
def statusKind (status : Nat) : String :=
  match status / 100 with
  | 1 => "Informational response"
  | 3 => "Redirect response"
  | 4 => "Client error"
  | 5 => "Server error"
  | _ => "Invalid status code"

/-- The statuses that ask to go somewhere else. -/
def redirectStatuses : List Nat := [301, 302, 303, 307, 308]

namespace Response

/-- Whether the status is one of success. -/
def isSuccess (r : Response) : Bool := r.status / 100 == 2

/-- The location to go to instead, if the response asks for that. -/
def redirect? (r : Response) : Option String :=
  if redirectStatuses.contains r.status then r.location else none

/-- The wording for a status other than success. -/
def statusMessage (r : Response) (url : String) : String :=
  statusKind r.status ++ " '" ++ r.status.repr ++ " " ++ (reasons.lookup r.status).getD "" ++
    "' for url '" ++ url ++ "'\n" ++
    (match r.redirect? with
    | some location => "Redirect location: '" ++ location ++ "'\n"
    | none => "") ++
    "For more information check: https://developer.mozilla.org/en-US/docs/Web/HTTP/Status/" ++
    r.status.repr

/-! ## Text -/

/-- Why a response has no text that can be kept. -/
inductive TextFault where
  | contentType (fault : TypeFault)
  | charset (fault : Charset.Fault)
  /-- The text holds surrogates. -/
  | surrogates (fault : Text.Utf8.SurrogateFault)
deriving DecidableEq, Repr

/-- The wording of a fault. -/
def TextFault.message : TextFault → String
  | .contentType fault => fault.message
  | .charset fault => fault.message
  | .surrogates fault => fault.message

/-- The charset of a response: the announced one if it is known, UTF-8 otherwise. -/
def charset (r : Response) : Except TypeFault Charset :=
  match r.contentType with
  | none => .ok .utf8
  | some field => (announced? field).map fun known => known.getD .utf8

/-- The body of a response as a text. An empty body has the empty text, whatever is announced. -/
def text (r : Response) : Except TextFault String :=
  if r.body.isEmpty then .ok ""
  else do
    let charset ← r.charset.mapError .contentType
    let points ← (charset.decode r.body).mapError .charset
    match Text.Utf8.surrogates? points with
    | some fault => .error (.surrogates fault)
    | none => return points.lossy

end Response

end ParseBench.Http
