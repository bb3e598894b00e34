import CollectionRunner.Json.Codec
import CollectionRunner.Number.Power

/-!
# Requests, responses and failures to send

The messages a run exchanges with servers, as values and as documents.
-/

namespace CollectionRunner

/-- Exclusive bound of the integers of 64 bits without sign. -/
def wordBound : Nat := Number.twoTo 64

/-- One header of a message. -/
structure Header where
  name : String
  value : String
  deriving DecidableEq, Repr, Inhabited

namespace Header

/-- Whether the header has this name, ignoring the case of ASCII letters. -/
def named (name : String) (h : Header) : Bool :=
  h.name.toList.map Char.toLower == name.toList.map Char.toLower

/-- Value of the first header of this name. -/
def find? (headers : List Header) (name : String) : Option String :=
  (headers.find? (named name)).map Header.value

/-- Headers as documents. -/
def record : Record Header :=
  (Record.cons (.required "name" .string) (.cons (.required "value" .string) .nil)).map
    (fun (name, value, _) => ⟨name, value⟩) (fun h => (h.name, h.value, ())) |>.titled "Header"

end Header

/-- A request as it is sent. -/
structure Request where
  method : String
  url : String
  headers : List Header
  body : Option String
  deriving DecidableEq, Repr, Inhabited

namespace Request

/-- Requests as documents. -/
def record : Record Request :=
  (Record.cons (.defaulted "method" .string "GET") (.cons (.required "url" .string)
    (.cons (.defaulted "headers" Header.record.codec.list []) (.cons (.optional "body" .string)
      .nil)))).map
    (fun (method, url, headers, body, _) => ⟨method, url, headers, body⟩)
    (fun r => (r.method, r.url, r.headers, r.body, ()))

/-- A request without headers and body. -/
def plain (method url : String) : Request := ⟨method, url, [], none⟩

end Request

/-- An answer to a request. -/
structure Response where
  status : Nat
  statusText : String
  headers : List Header
  body : String
  elapsedMs : Float
  deriving Repr, Inhabited

namespace Response

/-- Responses as documents. -/
def record : Record Response :=
  (Record.cons (.required "status" (.natural 16)) (.cons (.required "statusText" .string)
    (.cons (.required "headers" Header.record.codec.list) (.cons (.required "body" .string)
      (.cons (.required "elapsedMs" .double) .nil))))).map
    (fun (status, statusText, headers, body, elapsedMs, _) =>
      ⟨status, statusText, headers, body, elapsedMs⟩)
    (fun r => (r.status, r.statusText, r.headers, r.body, r.elapsedMs, ()))

end Response

/-- Usual reasons of the status codes. -/
def statusReasons : List (Nat × String) :=
  [(100, "Continue"), (101, "Switching Protocols"), (102, "Processing"), (103, "Early Hints"),
   (200, "OK"), (201, "Created"), (202, "Accepted"), (203, "Non Authoritative Information"),
   (204, "No Content"), (205, "Reset Content"), (206, "Partial Content"), (207, "Multi-Status"),
   (208, "Already Reported"), (226, "IM Used"), (300, "Multiple Choices"),
   (301, "Moved Permanently"), (302, "Found"), (303, "See Other"), (304, "Not Modified"),
   (305, "Use Proxy"), (307, "Temporary Redirect"), (308, "Permanent Redirect"),
   (400, "Bad Request"), (401, "Unauthorized"), (402, "Payment Required"), (403, "Forbidden"),
   (404, "Not Found"), (405, "Method Not Allowed"), (406, "Not Acceptable"),
   (407, "Proxy Authentication Required"), (408, "Request Timeout"), (409, "Conflict"),
   (410, "Gone"), (411, "Length Required"), (412, "Precondition Failed"),
   (413, "Payload Too Large"), (414, "URI Too Long"), (415, "Unsupported Media Type"),
   (416, "Range Not Satisfiable"), (417, "Expectation Failed"), (418, "I'm a teapot"),
   (421, "Misdirected Request"), (422, "Unprocessable Entity"), (423, "Locked"),
   (424, "Failed Dependency"), (425, "Too Early"), (426, "Upgrade Required"),
   (428, "Precondition Required"), (429, "Too Many Requests"),
   (431, "Request Header Fields Too Large"), (451, "Unavailable For Legal Reasons"),
   (500, "Internal Server Error"), (501, "Not Implemented"), (502, "Bad Gateway"),
   (503, "Service Unavailable"), (504, "Gateway Timeout"), (505, "HTTP Version Not Supported"),
   (506, "Variant Also Negotiates"), (507, "Insufficient Storage"), (508, "Loop Detected"),
   (510, "Not Extended"), (511, "Network Authentication Required")]

/-- Usual reason of a status code, empty when there is none. -/
def statusReason (status : Nat) : String := (statusReasons.lookup status).getD ""

/-- Why a request got no response. -/
inductive TransportError
  | timeout (milliseconds : Nat)
  | network (message : String)
  | invalidRequest (message : String)
  deriving DecidableEq, Repr, Inhabited

namespace TransportError

/-- The failure in words. -/
def text : TransportError → String
  | timeout ms => s!"request timed out after {ms} ms"
  | network message => "network error: " ++ message
  | invalidRequest message => "invalid request: " ++ message

/-- A record of one message. -/
def messageRecord : Record String :=
  (Record.cons (.required "message" .string) .nil).map (fun (m, _) => m) (fun m => (m, ()))

/-- Failures to send as documents. -/
def codec : Codec TransportError :=
  .tagged "type"
    [.ofRecord "timeout"
      ((Record.cons (.required "timeout_ms" (.natural 64)) .nil).map
        (fun (ms, _) => ms) (fun ms => (ms, ())))
      timeout (fun | timeout ms => some ms | _ => none),
     .ofRecord "network" messageRecord network (fun | network m => some m | _ => none),
     .ofRecord "invalidRequest" messageRecord invalidRequest
      (fun | invalidRequest m => some m | _ => none)]

end TransportError

/-- What a sender answers. -/
inductive Reply
  | response (response : Response)
  | failure (error : TransportError)
  /-- No answer ever comes. -/
  | silence
  deriving Repr, Inhabited

/-- What answers requests; the answer may depend on the requests sent before. -/
abbrev Sender := List Request → Request → Reply

end CollectionRunner
