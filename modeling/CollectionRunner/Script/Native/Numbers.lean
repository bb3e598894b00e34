import CollectionRunner.Number.Parse
import CollectionRunner.Script.Native

/-!
# Functions on numbers, and on any data

Numbers are read from texts with white space at the ends.
-/

namespace CollectionRunner.Native

/-- Read the digits of an integer; the first thing that is wrong counts. -/
def readDigits (negative : Bool) : Int → List Char → Except String Int64
  | n, [] => .ok (Int64.ofInt n)
  | n, c :: rest =>
    if !c.isDigit then .error "invalid digit found in string"
    else
      let digit : Int := c.toNat - '0'.toNat
      let n := if negative then n * 10 - digit else n * 10 + digit
      if Number.twoTo 63 ≤ n then .error "number too large to fit in target type"
      else if n < -(Number.twoTo 63) then .error "number too small to fit in target type"
      else readDigits negative n rest

/-- Read an integer. -/
def readInteger (cs : List Char) : Except String Int64 :=
  match cs with
  | [] => .error "cannot parse integer from empty string"
  | ['+'] => .error "invalid digit found in string"
  | ['-'] => .error "invalid digit found in string"
  | '+' :: digits => readDigits false 0 digits
  | '-' :: digits => readDigits true 0 digits
  | digits => readDigits false 0 digits

/-- The integer a text stands for. -/
def parseInteger (s : String) : Except ScriptFault Datum :=
  match readInteger (Text.trimmed s.toList) with
  | .ok i => .ok (.int i)
  | .error problem => .error (.arithmetic s!"Error parsing integer number '{s}': {problem}")

/-- The double a text stands for. -/
def parseDouble (s : String) : Except ScriptFault Datum :=
  let trimmed := Text.trim s
  match Number.parse trimmed with
  | some x => .ok (.float x)
  | none =>
    let problem :=
      if trimmed.isEmpty then "cannot parse float from empty string" else "invalid float literal"
    .error (.arithmetic s!"Error parsing floating-point number '{s}': {problem}")

/-- A double without its fraction. -/
def truncate (x : Float) : Except ScriptFault Datum :=
  if x > 9223372036854775807.0 || x < -9223372036854775808.0 then
    .error (.arithmetic ("Integer overflow: to_int(" ++ Number.plainText x ++ ")"))
  else if Number.notANumber x then .ok (.int 0)
  else .ok (.int (Int64.ofInt (min (Number.twoTo 63 - 1) (Number.truncated x))))

/-- Record a line that a script prints. -/
def printed (level : ConsoleLevel) (message : String) : Eval Unit := .perform (.log ⟨level, message⟩)

/-- Functions on numbers. -/
def numbers : List (String × Native) :=
  [("parse_int", fun _ => fun
    | [.text s] => giveFrom (orFault (parseInteger s))
    | _ => none),
   ("parse_float", fun _ => fun
    | [.text s] => giveFrom (orFault (parseDouble s))
    | _ => none),
   ("to_int", fun _ => fun
    | [.int i] => give (.int i)
    | [.float x] => giveFrom (orFault (truncate x))
    | _ => none),
   ("to_float", fun _ => fun
    | [.int i] => give (.float (Datum.double i))
    | [.float x] => give (.float x)
    | _ => none)]

/-- Functions on any data. -/
def general : List (String × Native) :=
  [("type_of", fun _ => fun
    | [d] => give (.text d.typeName)
    | _ => none),
   ("to_string", fun _ => fun
    | [d] => giveFrom do return .text (d.printText (((← Eval.host).request.request.body).getD ""))
    | _ => none),
   ("to_debug", fun _ => fun
    | [d] => give (.text d.debugText)
    | _ => none),
   ("print", fun _ => fun
    | [] => act (printed .log "")
    | [d] => act do
      printed .log (d.printText (((← Eval.host).request.request.body).getD ""))
    | _ => none),
   ("debug", fun _ => fun
    | [] => act (printed .debug "")
    | [d] => act (printed .debug d.debugText)
    | _ => none)]

end CollectionRunner.Native
