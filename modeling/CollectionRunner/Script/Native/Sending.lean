import CollectionRunner.Http.Expansion
import CollectionRunner.Script.Native
import CollectionRunner.Text.Letters

/-!
# Requests of scripts

`sendRequest` takes an address or a map that describes a request, and calls a function back with
what went wrong and with the response, one of them being nothing. Placeholders see the live
variables of the script.
-/

namespace CollectionRunner.Native

/-- The text of an entry of a map, if it is one. -/
def textEntry (entries : List (String × ScriptValue)) (name : String) : Option String :=
  match entries.lookup name with
  | some (.text s) => some s
  | _ => none

/-- The headers that a map describes. -/
def describedHeaders (entries : List (String × ScriptValue)) : List Header :=
  match (entries.lookup "headers").orElse fun _ => entries.lookup "header" with
  | some (.map headers) => headers.map fun (name, value) => ⟨name, value.toVariable⟩
  | _ => []

/-- The body that a map describes. -/
def describedBody (entries : List (String × ScriptValue)) : Option String :=
  match entries.lookup "body" with
  | none => none
  | some .null => none
  | some value => some value.toVariable

/-- The request that a script describes. -/
def describedRequest (target : ScriptValue) : Except String Request :=
  match target with
  | .text url => .ok (.plain "GET" url)
  | .map entries =>
    match textEntry entries "url" with
    | none => .error "sendRequest requires a url"
    | some url =>
      .ok {
        method := Text.asciiUpper ((textEntry entries "method").getD "GET")
        url := url
        headers := describedHeaders entries
        body := describedBody entries }
  | other => .error s!"sendRequest expects a url or a request map, got {other.typeName}"

/-- Send a request. When no answer comes, the script is cut off. -/
def sendOnce (sender : Option Sender) (request : Request) : Eval (Except String Response) :=
  match sender with
  | none => return .error "sendRequest is not available in this run"
  | some sender => do
    let reply := sender (← Eval.host).sent request
    Eval.perform (.send request)
    match reply with
    | .response r => return .ok r
    | .failure e => return .error e.text
    | .silence => Eval.fault .terminated none

/-- Send what a script describes. -/
def sendDescribed (sender : Option Sender) (target : ScriptValue) :
    Eval (Except String Response) := do
  match describedRequest target with
  | .error problem => return .error problem
  | .ok request => sendOnce sender (request.expandHead (← Eval.host).visible)

/-- What the function called back is given. -/
def outcome : Except String Response → List Datum
  | .ok r => [.unit, .handle (.response r)]
  | .error problem => [.text problem, .unit]

/-- Functions that send. -/
def sending : List (String × Native) :=
  [("sendRequest", fun caller => fun
    | [target, .function f captured] => act do
      let result ← sendDescribed caller.surroundings.sender target.toValue
      let _ ← caller.apply f captured none (outcome result)
    | _ => none)]

end CollectionRunner.Native
