import CollectionRunner.Env.Variables
import CollectionRunner.Http.Model
import CollectionRunner.Http.Query
import CollectionRunner.Script.Value

/-!
# Messages as scripts see them

A script works on a view of the outgoing request. A mutable view records whether anything was set;
a read-only one refuses. The received response can only be looked at.
-/

namespace CollectionRunner

/-- What a script sees of a request. -/
structure RequestView where
  request : Request
  mutable : Bool
  /-- Whether a setter was used. -/
  modified : Bool
  deriving DecidableEq, Repr, Inhabited

namespace RequestView

/-- A view that can be changed. -/
def editable (r : Request) : RequestView := ⟨r, true, false⟩

/-- A view that cannot be changed. -/
def readOnly (r : Request) : RequestView := ⟨r, false, false⟩

/-- What a script is told when it changes a view it may not change. -/
def readOnlyMessage : String := "request is read-only in post-response scripts"

/-- Change the request, unless the view is read-only. -/
def mutate (v : RequestView) (f : Request → Request) : Option RequestView :=
  if v.mutable then some { v with request := f v.request, modified := true } else none

/-- Value of a header. -/
def header (v : RequestView) (name : String) : Option String := Header.find? v.request.headers name

/-- Whether there is a header of this name. -/
def hasHeader (v : RequestView) (name : String) : Bool := (v.header name).isSome

/-- Headers with one set: the first of its name is replaced where it stands, else it is added. -/
def putHeader (name value : String) : List Header → List Header
  | [] => [⟨name, value⟩]
  | h :: rest => if h.named name then ⟨name, value⟩ :: rest else h :: putHeader name value rest

/-- Headers without those of a name. -/
def dropHeader (name : String) (headers : List Header) : List Header :=
  headers.filter fun h => !h.named name

/-- Set the address. -/
def setUrl (v : RequestView) (url : String) : Option RequestView :=
  v.mutate fun r => { r with url }

/-- Set a header. -/
def setHeader (v : RequestView) (name value : String) : Option RequestView :=
  v.mutate fun r => { r with headers := putHeader name value r.headers }

/-- Remove the headers of a name; also says whether there were any. -/
def removeHeader (v : RequestView) (name : String) : Option (RequestView × Bool) :=
  (v.mutate fun r => { r with headers := dropHeader name r.headers }).map fun w =>
    (w, w.request.headers.length != v.request.headers.length)

/-- Set the body. -/
def setBody (v : RequestView) (body : String) : Option RequestView :=
  v.mutate fun r => { r with body := some body }

/-- The body as a document, nothing when it is none. -/
def json (v : RequestView) : ScriptValue := ScriptValue.parse (v.request.body.getD "")

/-- The query parameters in order. -/
def query (v : RequestView) : List (String × String) := Query.ofUrl v.request.url

/-- The first query parameter of a name. -/
def param (v : RequestView) (name : String) : Option String := v.query.lookup name

/-- The query parameters by name, of parameters with one name the last. -/
def queryMap (v : RequestView) : Variables := Variables.ofList v.query

/-- Write address, headers and body over those of a request, if any was set. -/
def applyTo (v : RequestView) (target : Request) : Request :=
  if v.modified then
    { target with url := v.request.url, headers := v.request.headers, body := v.request.body }
  else target

end RequestView

/-- The headers by name as written, of headers with one name the last. -/
def Header.table (headers : List Header) : Variables :=
  Variables.ofList (headers.map fun h => (h.name, h.value))

namespace Response

/-- Value of a header. -/
def header (r : Response) (name : String) : Option String := Header.find? r.headers name

/-- Number of bytes of the body. -/
def size (r : Response) : Nat := r.body.utf8ByteSize

/-- The body as a document, nothing when it is none. -/
def json (r : Response) : ScriptValue := ScriptValue.parse r.body

end Response

end CollectionRunner
