import CollectionRunner.Script.Call

/-!
# Chains of steps

A chain goes from a datum to parts of it, by properties, indices and methods. What a method or an
assignment changes deep inside is put back on the way out, up to the variable the chain starts from.
-/

namespace CollectionRunner

/-! ## Parts of data -/

namespace Datum

/-- Message of a property that cannot be read. -/
def noGetter (name : String) (d : Datum) : String :=
  "Unknown property '" ++ name ++ "' - a getter is not registered for type '" ++ d.typeName ++ "'"

/-- Message of a property that cannot be assigned to. -/
def noSetter (name : String) (d value : Datum) : String :=
  "No writable property '" ++ name ++ "' - a setter is not registered for type '" ++ d.typeName ++
    "' to handle '" ++ value.typeName ++ "'"

/-- The property of a datum; an entry that a map lacks is nothing. -/
def property (h : Host) (d : Datum) (name : String) (place : Position) : Eval Datum :=
  match d with
  | map entries => return (entries.lookup name).getD unit
  | d =>
    match Native.property? h d name with
    | some part => return part
    | none => Eval.fault (.noProperty (d.noGetter name)) place

/-- The place in a list that an index means. -/
def offset (size : Nat) (key : Datum) (bounds : Nat → Int64 → ScriptFault) (place : Position) :
    Eval Nat :=
  match key with
  | int i =>
    match Native.offset? size i with
    | some n => return n
    | none => Eval.fault (bounds size i) place
  | key => Eval.fault (.mismatch "i64" key.typeName) place

/-- A bit of an integer, the lowest one first. -/
def bitAt (i : Int64) (n : Nat) : Bool := i.toUInt64.toNat.testBit n

/-- What stands at an index of a datum. -/
def index (d key : Datum) (bracket keyPlace : Position) : Eval Datum :=
  match d, key with
  | list items, key => do
    let n ← offset items.length key .arrayBounds keyPlace
    return items.getD n unit
  | map entries, text name => return (entries.lookup name).getD unit
  | map _, key => Eval.fault (.mismatch "string" key.typeName) keyPlace
  | text s, range first last inclusive => return Native.excerptOf s first last inclusive
  | text s, key => do
    let cs := s.toList
    let n ← offset cs.length key .stringBounds keyPlace
    return char (cs.getD n default)
  | int i, key => do
    let n ← offset 64 key .bitBounds keyPlace
    return bool (bitAt i n)
  | d, key => Eval.fault (.noIndexer s!"{d.typeName} [{key.typeName}]") bracket

/-- The datum with another part at a property, if it holds its parts itself. -/
def putProperty (d : Datum) (name : String) (part : Datum) : Option Datum :=
  match d with
  | map entries => some (map (ScriptValue.insertEntry name part entries))
  | _ => none

/-- The datum with another part at an index, if it holds its parts itself. -/
def putIndex (d key part : Datum) : Option Datum :=
  match d, key with
  | list items, int i => (Native.offset? items.length i).map fun n => list (items.set n part)
  | map entries, text name => some (map (ScriptValue.insertEntry name part entries))
  | _, _ => none

end Datum

/-- Whether a step ends its chain where there is nothing. -/
def Step.isOptional : Step ε → Bool
  | property optional _ _ => optional
  | index optional _ _ _ => optional
  | method optional _ _ _ => optional

/-! ## Reading -/

namespace Evaluator

/-- Go along a chain from a datum, which may be `fixed`. The answer is the value at its end, and the
datum itself if it changed. -/
def walk (ev : Evaluator) (fixed : Bool) (target : Datum) : List (Step Datum) → Eval Given
  | [] => return (target, none)
  | step :: rest => do
    match step.isOptional, target with
    | true, .unit => return (.unit, none)
    | _, target =>
      match step with
      | .property _ name place =>
        let part ← target.property (← Eval.host) name place
        let (value, changed) ← ev.walk fixed part rest
        return (value, changed.bind (target.putProperty name))
      | .index _ key bracket keyPlace =>
        let part ← target.index key bracket keyPlace
        let (value, changed) ← ev.walk fixed part rest
        return (value, changed.bind (target.putIndex key))
      | .method _ name arguments place =>
        let (part, changed) ← ev.callMethod fixed target name arguments place
        let (value, _) ← ev.walk false part rest
        return (value, changed)

end Evaluator

/-! ## Assigning -/

/-- How a part changes. -/
inductive Update
  | replace (value : Datum)
  /-- Combine what is there with a value by an operator. -/
  | combine (op : Operator) (value : Datum)

/-- What a part becomes. -/
def Update.apply (u : Update) (old : Eval Datum) (place : Position) : Eval Datum :=
  match u with
  | .replace value => return value
  | .combine op value => do op.compute (← old) value place

namespace Datum

/-- Assign to a property of a datum. -/
def assignProperty (d : Datum) (name : String) (u : Update) (opPlace place : Position) :
    Eval (Option Datum) := do
  let value ← u.apply (do d.property (← Eval.host) name place) opPlace
  match d.putProperty name value with
  | some changed => return some changed
  | none =>
    match Native.assignProperty? d name value with
    | some x =>
      Evaluator.placed place x
      return none
    | none => Eval.fault (.noProperty (d.noSetter name value)) place

/-- Put a character into a text. -/
def assignChar (cs : List Char) (n : Nat) (value : Datum) (place : Position) :
    Eval (Option Datum) :=
  match value with
  | char c => return some (text (String.ofList (cs.set n c)))
  | value => Eval.fault (.mismatch "char" value.typeName) place

/-- Set or clear a bit of an integer. -/
def assignBit (i : Int64) (n : Nat) (value : Datum) (place : Position) : Eval (Option Datum) :=
  match value with
  | bool b =>
    let mask := UInt64.ofNat (Number.twoTo n)
    return some (int (if b then i.toUInt64 ||| mask else i.toUInt64 &&& ~~~mask).toInt64)
  | value => Eval.fault (.mismatch "bool" value.typeName) place

/-- Assign to an index of a datum. -/
def assignIndex (d key : Datum) (u : Update) (opPlace bracket keyPlace : Position) :
    Eval (Option Datum) := do
  match d, key with
  | list items, key =>
    let n ← offset items.length key .arrayBounds keyPlace
    let value ← u.apply (return items.getD n unit) opPlace
    return some (list (items.set n value))
  | text s, key =>
    let cs := s.toList
    let n ← offset cs.length key .stringBounds keyPlace
    let value ← u.apply (return char (cs.getD n default)) opPlace
    assignChar cs n value opPlace
  | int i, key =>
    let n ← offset 64 key .bitBounds keyPlace
    let value ← u.apply (return bool (bitAt i n)) opPlace
    assignBit i n value opPlace
  | map entries, .text name =>
    let value ← u.apply (return (entries.lookup name).getD unit) opPlace
    return some (map (ScriptValue.insertEntry name value entries))
  | map _, key => Eval.fault (.mismatch "string" key.typeName) keyPlace
  | d, key =>
    let value ← u.apply (d.index key bracket keyPlace) opPlace
    match Native.assignIndex? d key with
    | some x =>
      Evaluator.placed bracket x
      return none
    | none =>
      Eval.fault (.noIndexer s!"{d.typeName} [{key.typeName}] = {value.typeName}") bracket

/-- Put a changed part back at a property; properties that cannot be assigned to keep theirs. -/
def putBack (d : Datum) (name : String) (part : Datum) (place : Position) :
    Eval (Option Datum) := do
  match d.putProperty name part with
  | some changed => return some changed
  | none =>
    match Native.assignProperty? d name part with
    | some x =>
      Evaluator.placed place x
      return none
    | none => return none

end Datum

namespace Evaluator

/-- Assign at the end of a chain from a datum. The answer is the datum itself if it changed. -/
def assignAt (ev : Evaluator) (fixed : Bool) (u : Update) (opPlace : Position) (target : Datum) :
    List (Step Datum) → Eval (Option Datum)
  | [] => return none
  | step :: rest => do
    match step.isOptional, target with
    | true, .unit => return none
    | _, target =>
      match step, rest with
      | .property _ name place, [] => target.assignProperty name u opPlace place
      | .index _ key bracket keyPlace, [] => target.assignIndex key u opPlace bracket keyPlace
      | .property _ name place, rest =>
        let part ← target.property (← Eval.host) name place
        match ← ev.assignAt fixed u opPlace part rest with
        | some part => target.putBack name part place
        | none => return none
      | .index _ key bracket keyPlace, rest =>
        let part ← target.index key bracket keyPlace
        return (← ev.assignAt fixed u opPlace part rest).bind (target.putIndex key)
      | .method _ name arguments place, rest =>
        let (part, changed) ← ev.callMethod fixed target name arguments place
        let _ ← ev.assignAt false u opPlace part rest
        return changed

/-! ## Where chains start -/

/-- What a name stands for, and whether it is constant: a variable, or a function of the script. -/
def read (ev : Evaluator) (name : String) (place : Position) : Eval (Datum × Bool) := do
  let frame ← Eval.frame
  match frame.find? name with
  | some v => return (frame.content v.slot, frame.fixed v)
  | none =>
    if ev.program.mentions name then return (.function (.named name) [], true)
    else Eval.fault (.variableNotFound name) place

/-- The datum that `this` stands for. -/
def receiver (place : Position) : Eval Datum := do
  match (← Eval.frame).receiver with
  | some d => return d
  | none => Eval.fault .receiverMissing place

/-- Put a changed datum back where a chain started. -/
def putStart (start : Expr) (fixed : Bool) (changed : Option Datum) : Eval Unit :=
  match start, changed with
  | .variable name _, some d => if fixed then return () else Eval.modifyFrame (·.assign name d)
  | .receiver _, some d => Eval.modifyFrame fun frame => { frame with receiver := some d }
  | _, _ => return ()

/-- The datum a chain starts from, and whether it is constant. -/
def start (ev : Evaluator) : Expr → Eval (Datum × Bool)
  | .variable name place => ev.read name place
  | .receiver place => do return (← receiver place, false)
  | e => do return (← ev.evaluate e, false)

/-- The value at the end of a chain. What its steps depend on comes before what it starts from. -/
def chain (ev : Evaluator) (base : Expr) (steps : List (Step Expr)) : Eval Datum := do
  let steps ← ev.evaluateSteps steps
  let (target, fixed) ← ev.start base
  let (value, changed) ← ev.walk fixed target steps
  putStart base fixed changed
  return value

/-- Assign at the end of a chain. -/
def assignChain (ev : Evaluator) (u : Update) (opPlace : Position) (base : Expr)
    (steps : List (Step Expr)) : Eval Unit := do
  let steps ← ev.evaluateSteps steps
  let (target, fixed) ← ev.start base
  match base, fixed, ← ev.assignAt fixed u opPlace target steps with
  | .variable name place, true, some _ => Eval.fault (.constantAssigned name) place
  | base, fixed, changed => putStart base fixed changed

/-- Assign to a variable. -/
def assignName (u : Update) (opPlace : Position) (name : String) (place : Position) :
    Eval Unit := do
  let v ← Eval.lookUp name place
  if (← Eval.frame).fixed v then Eval.fault (.constantAssigned name) place
  else
    let value ← u.apply (Eval.content v) opPlace
    Eval.modifyFrame (·.assign name value)

/-- Assign to what an expression stands for. -/
def assign (ev : Evaluator) (u : Update) (opPlace : Position) : Expr → Eval Unit
  | .variable name place => assignName u opPlace name place
  | .receiver place => do
    let value ← u.apply (receiver place) opPlace
    Eval.modifyFrame fun frame => { frame with receiver := some value }
  | .chain base steps _ => ev.assignChain u opPlace base steps
  | _ => return ()

end Evaluator

end CollectionRunner
