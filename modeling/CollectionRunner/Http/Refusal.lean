import CollectionRunner.Http.Model
import CollectionRunner.Http.Url

/-!
# Requests that are never sent

A request is refused before a connection is opened when its method is no token or its address cannot
be read.
-/

namespace CollectionRunner

namespace Request

/-- Characters of tokens. -/
def tokenChar (c : Char) : Bool :=
  c.isAlphanum || "!#$%&'*+-.^_\x60|~".toList.contains c

/-- Whether a text is a token. -/
def isToken (s : String) : Bool := !s.isEmpty && s.toList.all tokenChar

/-- Why a request is not sent at all. -/
def refusal (r : Request) : Option TransportError :=
  if !isToken (Text.asciiUpper r.method) then
    some (.invalidRequest ("invalid HTTP method " ++ r.method))
  else
    match Url.fault? r.url with
    | some fault => some (.invalidRequest ("invalid URL " ++ r.url ++ ": " ++ fault.text))
    | none => none

end Request

end CollectionRunner
