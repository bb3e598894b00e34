import CollectionRunner.Script.Native

/-!
# Objects of the host

Properties and methods of the request, the response, their headers and bodies, the variables and the
console. The response can only be looked at: what is assigned to it is dropped without a word.
-/

namespace CollectionRunner.Native

/-- Change the request; a request that cannot be changed refuses. -/
def changeRequest (e : Effect) : Eval Unit := do
  if (← Eval.host).request.mutable then .perform e
  else .refuse RequestView.readOnlyMessage

/-- The text of a body that may be missing. -/
def bodyText (h : Host) : String := h.request.request.body.getD ""

/-! ## Properties -/

/-- Properties of the request. -/
def requestProperty (h : Host) : String → Option Datum
  | "method" => some (.text h.request.request.method)
  | "url" => some (.text h.request.request.url)
  | "headers" => some (.handle .requestHeaders)
  | "body" => some (.handle .requestBody)
  | _ => none

/-- Properties of a response. -/
def responseProperty (r : Response) : String → Option Datum
  | "code" => some (count r.status)
  | "status" => some (count r.status)
  | "statusText" => some (.text r.statusText)
  | "time" => some (.float r.elapsedMs)
  | "size" => some (count r.size)
  | "headers" => some (.handle (.responseHeaders r))
  | "body" => some (.handle (.responseBody r))
  | _ => none

/-- The value of a property, if the datum has it. -/
def property? (h : Host) (d : Datum) (name : String) : Option Datum :=
  match d, name with
  | .handle .request, name => requestProperty h name
  | .handle (.response r), name => responseProperty r name
  | .handle (.expectation e), "not" => some (.handle (.expectation e.not))
  | .handle (.failure f), "message" => some (.text f.message)
  | .text s, "len" => some (count s.length)
  | .list items, "len" => some (count items.length)
  | _, _ => none

/-- Assign to a property, if the datum has it. -/
def assignProperty? (d : Datum) (name : String) (value : Datum) : Option (Eval Unit) :=
  match d, name, value with
  | .handle .request, "url", .text url => some (changeRequest (.setUrl url))
  | .handle (.response _), _, _ => some (return ())
  | _, _, _ => none

/-- Assign to an index of an object, if it takes the index. -/
def assignIndex? (d key : Datum) : Option (Eval Unit) :=
  match d, key with
  | .handle (.response _), .text _ => some (return ())
  | .handle (.response _), .int _ => some (return ())
  | _, _ => none

/-! ## Methods -/

/-- Value of a header, and the headers by name, of the request or of a response. -/
def headersMethods : List (String × Native) :=
  [("get", fun _ => fun
    | [.handle .requestHeaders, .text name] => giveFrom do
      return .ofText? ((← Eval.host).request.header name)
    | [.handle (.responseHeaders r), .text name] => give (.ofText? (r.header name))
    | _ => none),
   ("has", fun _ => fun
    | [.handle .requestHeaders, .text name] => giveFrom do
      return .bool ((← Eval.host).request.hasHeader name)
    | [.handle (.responseHeaders r), .text name] => give (.bool (r.header name).isSome)
    | _ => none),
   ("all", fun _ => fun
    | [.handle .requestHeaders] => giveFrom do
      return .ofVariables (Header.table (← Eval.host).request.request.headers)
    | [.handle (.responseHeaders r)] => give (.ofVariables (Header.table r.headers))
    | _ => none),
   ("set", fun _ => fun
    | [.handle .requestHeaders, .text name, d] =>
      act (changeRequest (.setHeader name d.toValue.toVariable))
    | [.handle (.responseHeaders _), .text _, _] => give .unit
    | _ => none),
   ("remove", fun _ => fun
    | [.handle .requestHeaders, .text name] => giveFrom do
      let before := (← Eval.host).request
      changeRequest (.removeHeader name)
      return .bool (before.hasHeader name)
    | [.handle (.responseHeaders _), .text _] => give (.bool false)
    | _ => none)]

/-- Methods of the body of the request or of a response. -/
def bodyMethods : List (String × Native) :=
  [("raw", fun _ => fun
    | [.handle .requestBody] => giveFrom do return .text (bodyText (← Eval.host))
    | [.handle (.responseBody r)] => give (.text r.body)
    | _ => none),
   ("json", fun _ => fun
    | [.handle .requestBody] => giveFrom do return .ofValue (← Eval.host).request.json
    | [.handle (.responseBody r)] => give (.ofValue r.json)
    | _ => none),
   ("set", fun _ => fun
    | [.handle .requestBody, d] => act (changeRequest (.setBody d.toValue.toVariable))
    | [.handle (.responseBody _), _] => give .unit
    | _ => none)]

/-- Methods of the request and of a response. -/
def messageMethods : List (String × Native) :=
  [("setUrl", fun _ => fun
    | [.handle .request, .text url] => act (changeRequest (.setUrl url))
    | _ => none),
   ("json", fun _ => fun
    | [.handle .request] => giveFrom do return .ofValue (← Eval.host).request.json
    | [.handle (.response r)] => give (.ofValue r.json)
    | _ => none),
   ("text", fun _ => fun
    | [.handle (.response r)] => give (.text r.body)
    | _ => none),
   ("isModified", fun _ => fun
    | [.handle .request] => giveFrom do return .bool (← Eval.host).request.modified
    | _ => none),
   ("query", fun _ => fun
    | [.handle .request] => giveFrom do return .ofVariables (← Eval.host).request.queryMap
    | _ => none),
   ("param", fun _ => fun
    | [.handle .request, .text name] => giveFrom do
      return .ofText? ((← Eval.host).request.param name)
    | _ => none)]

/-- The set of variables that an object stands for. -/
def store? : Datum → Option Store
  | .handle .environment => some .environment
  | .handle .globals => some .globals
  | _ => none

/-- Methods of the variables. -/
def variablesMethods : List (String × Native) :=
  [("get", fun _ => fun
    | [d, .text name] =>
      (store? d).bind fun store => giveFrom do
        return .ofText? (((← Eval.host).tracker store).get? name)
    | _ => none),
   ("has", fun _ => fun
    | [d, .text name] =>
      (store? d).bind fun store => giveFrom do
        return .bool (((← Eval.host).tracker store).has name)
    | _ => none),
   ("set", fun _ => fun
    | [d, .text name, value] =>
      (store? d).bind fun store => act (.perform (.set store name value.toValue.toVariable))
    | _ => none),
   ("unset", fun _ => fun
    | [d, .text name] => (store? d).bind fun store => act (.perform (.unset store name))
    | _ => none)]

/-- Largest number of data that the console takes in one line. -/
def consoleArity : Nat := 6

/-- Write a line to the console. -/
def consoleMethod (level : ConsoleLevel) : Native := fun _ => fun
  | .handle .console :: data =>
    if consoleArity < data.length then none
    else act (.perform (.log ⟨level, ScriptValue.consoleText (data.map Datum.toValue)⟩))
  | _ => none

/-- Methods of the console. -/
def consoleMethods : List (String × Native) :=
  [ConsoleLevel.log, .info, .warn, .error, .debug].map fun level => (level.name, consoleMethod level)

/-- Functions on objects of the host. -/
def objects : List (String × Native) :=
  headersMethods ++ bodyMethods ++ messageMethods ++ variablesMethods ++ consoleMethods

end CollectionRunner.Native
