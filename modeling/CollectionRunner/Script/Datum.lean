import CollectionRunner.Http.View
import CollectionRunner.Number.Layout
import CollectionRunner.Script.Expectation

/-!
# Data of scripts

A `Datum` is what a variable of a script holds. Its numbers are 64-bit integers or doubles, and it
may be an object of the host, a `Handle`, or a function. `toValue` and `ofValue` exchange data with
the host, which knows one kind of number only.
-/

namespace CollectionRunner

/-- Objects that the host hands to scripts. -/
inductive Handle
  | request
  | response (r : Response)
  | requestHeaders
  | responseHeaders (r : Response)
  | requestBody
  | responseBody (r : Response)
  | environment
  | globals
  | console
  | expectation (e : Expectation)
  | failure (f : MatcherFailure)
  deriving Repr, Inhabited

/-- Name of the type of a host object. -/
def Handle.typeName : Handle → String
  | request => "Request"
  | response _ => "Response"
  | requestHeaders => "Headers"
  | responseHeaders _ => "Headers"
  | requestBody => "Body"
  | responseBody _ => "Body"
  | environment => "Variables"
  | globals => "Variables"
  | console => "Console"
  | expectation _ => "Expectation"
  | failure _ => "MatcherFailure"

/-- How a function is found: by its name, or among the functions without one. -/
inductive FunctionName
  | named (name : String)
  | anonymous (index : Nat)
  deriving DecidableEq, Repr, Inhabited

/-- What a variable of a script holds. -/
inductive Datum
  | unit
  | bool (b : Bool)
  | int (i : Int64)
  | float (x : Float)
  | char (c : Char)
  | text (s : String)
  | list (items : List Datum)
  | map (entries : List (String × Datum))
  | range (first last : Int64) (inclusive : Bool)
  /-- Characters to be gone through one by one. -/
  | chars (cs : List Char)
  /-- A function with the cells of the variables it captured. -/
  | function (name : FunctionName) (captured : List Nat)
  | handle (h : Handle)
  deriving Repr, Inhabited

/-- The name of a function in messages. -/
def FunctionName.shown : FunctionName → String
  | named name => name
  | anonymous index => s!"anon${index}"

/-- The text of a function. -/
def FunctionName.text (name : FunctionName) : String := "Fn(" ++ name.shown ++ ")"

namespace Datum

/-! ## Types -/

/-- Name of the type of a datum. -/
def typeName : Datum → String
  | unit => "()"
  | bool _ => "bool"
  | int _ => "i64"
  | float _ => "f64"
  | char _ => "char"
  | text _ => "string"
  | list _ => "array"
  | map _ => "map"
  | range _ _ inclusive => if inclusive then "range=" else "range"
  | chars _ => "chars"
  | function _ _ => "Fn"
  | handle h => h.typeName

/-- Name of the type of an argument in the signature of a call. -/
def parameterType : Datum → String
  | text _ => "&str | ImmutableString | String"
  | d => d.typeName

/-- A call as messages name it. -/
def signature (name : String) (arguments : List Datum) : String :=
  name ++ " (" ++ String.intercalate ", " (arguments.map parameterType) ++ ")"

/-! ## Texts -/

/-- Items between brackets. -/
def bracketed (items : List String) : String := "[" ++ String.intercalate ", " items ++ "]"

/-- Entries between braces. -/
def braced (entries : List String) : String :=
  "#\x7b" ++ String.intercalate ", " entries ++ "\x7d"

/-- Text of a range. -/
def rangeText (first last : Int64) (inclusive : Bool) : String :=
  toString first.toInt ++ (if inclusive then "..=" else "..") ++ toString last.toInt

/-- Text of a truth value. -/
def boolText (b : Bool) : String := if b then "true" else "false"

mutual

/-- The datum as `debug` shows it, and as it stands inside a container. -/
def debugText : Datum → String
  | unit => "()"
  | bool b => boolText b
  | int i => toString i.toInt
  | float x => Number.scriptText x
  | char c => c.toString
  | text s => Text.quoted s
  | list items => bracketed (debugItems items)
  | map entries => braced (debugEntries entries)
  | range first last inclusive => rangeText first last inclusive
  | chars _ => "chars"
  | function name _ => name.text
  | handle h => h.typeName

/-- The items of a list as `debug` shows them. -/
def debugItems : List Datum → List String
  | [] => []
  | item :: rest => debugText item :: debugItems rest

/-- The entries of a map as `debug` shows them. -/
def debugEntries : List (String × Datum) → List String
  | [] => []
  | (name, value) :: rest => (Text.quoted name ++ ": " ++ debugText value) :: debugEntries rest

end

/-- The datum as a part of a text; `body` is the body of the request. -/
def printText (body : String) : Datum → String
  | unit => ""
  | text s => s
  | handle (.failure f) => f.message
  | handle .requestBody => body
  | handle (.responseBody r) => r.body
  | d => d.debugText

mutual

/-- The datum with all its marks: characters are quoted and doubles exact. -/
def exactText : Datum → String
  | float x => Number.exactText x
  | char c => Text.quotedSingle c
  | list items => bracketed (exactItems items)
  | map entries => braced (exactEntries entries)
  | d => d.debugText

/-- The items of a list with all their marks. -/
def exactItems : List Datum → List String
  | [] => []
  | item :: rest => exactText item :: exactItems rest

/-- The entries of a map with all their marks. -/
def exactEntries : List (String × Datum) → List String
  | [] => []
  | (name, value) :: rest => (Text.quoted name ++ ": " ++ exactText value) :: exactEntries rest

end

/-- The datum as reports of uncaught throws show it. -/
def reportText : Datum → String
  | unit => ""
  | char c => c.toString
  | text s => s
  | float x => Number.scriptText x
  | d => d.exactText

/-! ## Exchange with the host -/

mutual

/-- The datum as the host sees it. Characters are texts, and what the host does not know is seen by
its text. -/
def toValue : Datum → ScriptValue
  | unit => .null
  | bool b => .bool b
  | int i => .number (Number.ofInt i.toInt)
  | float x => .number x
  | char c => .text c.toString
  | text s => .text s
  | list items => .list (toItems items)
  | map entries => .map (toEntries entries)
  | range first last inclusive => .text (rangeText first last inclusive)
  | chars _ => .text "chars"
  | function name _ => .text name.text
  | handle h => .text h.typeName

/-- The items of a list as the host sees them. -/
def toItems : List Datum → List ScriptValue
  | [] => []
  | item :: rest => toValue item :: toItems rest

/-- The entries of a map as the host sees them. -/
def toEntries : List (String × Datum) → List (String × ScriptValue)
  | [] => []
  | (name, value) :: rest => (name, toValue value) :: toEntries rest

end

mutual

/-- The datum of a value of the host: numbers that are whole become integers. -/
def ofValue : ScriptValue → Datum
  | .null => unit
  | .bool b => bool b
  | .number x =>
    match ScriptValue.integral? x with
    | some i => int (Int64.ofInt i)
    | none => float x
  | .text s => text s
  | .list items => list (ofItems items)
  | .map entries => map (ofEntries entries)

/-- The items of a list of the host. -/
def ofItems : List ScriptValue → List Datum
  | [] => []
  | item :: rest => ofValue item :: ofItems rest

/-- The entries of a map of the host. -/
def ofEntries : List (String × ScriptValue) → List (String × Datum)
  | [] => []
  | (name, value) :: rest => (name, ofValue value) :: ofEntries rest

end

/-- A text that may be missing. -/
def ofText? : Option String → Datum
  | some s => text s
  | none => unit

/-- Named texts as a map. -/
def ofVariables (vars : Variables) : Datum := map (vars.entries.map fun (k, v) => (k, text v))

end Datum

end CollectionRunner
