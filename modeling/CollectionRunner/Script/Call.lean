import CollectionRunner.Script.Native.Lists
import CollectionRunner.Script.Native.Namespaces
import CollectionRunner.Script.Native.Numbers
import CollectionRunner.Script.Native.Objects
import CollectionRunner.Script.Native.Sending
import CollectionRunner.Script.Native.Testing
import CollectionRunner.Script.Native.Texts
import CollectionRunner.Script.Task

/-!
# Calls

A function of the script comes before a function of the host. A function of the script sees its
parameters, what it captured, and nothing else. Failures that leave it are wrapped, except those that
end the script.
-/

namespace CollectionRunner

namespace Program

/-- The function of a name that takes a number of arguments, what it captured included. -/
def function? (p : Program) (name : FunctionName) (arity : Nat) : Option Function :=
  match name with
  | .named _ => p.functions.find? fun f => f.name == name && f.parameters.length == arity
  | .anonymous i => p.anonymous[i]?.filter (·.parameters.length == arity)

/-- Number of parameters of the first function of a name. -/
def arity (p : Program) (name : FunctionName) : Option Nat :=
  match name with
  | .named _ => (p.functions.find? (·.name == name)).map (·.parameters.length)
  | .anonymous i => p.anonymous[i]?.map (·.parameters.length)

/-- Whether the script has a function of a name. -/
def mentions (p : Program) (name : String) : Bool := p.functions.any (·.name == .named name)

end Program

/-- All functions of the host that are called without a namespace. -/
def Native.all : List (String × Native) :=
  texts ++ lists ++ maps ++ numbers ++ general ++ objects ++ testing ++ sending

/-- Largest number of functions of the script that are entered and not yet left. -/
def maxNesting : Nat := 64

/-- What a failure becomes when it leaves a function that was called at a place. -/
def Failure.leaving (name : FunctionName) (place : Option Position) (f : Failure) : Failure :=
  if f.isFinal then f.placed place else .inFunction name.shown f place

/-- The variables of a function: its parameters with what it captured and its arguments. -/
def Function.bind (f : Function) (captured : List Nat) (arguments : List Datum) : List Variable :=
  (f.parameters.zip (captured.map Slot.shared ++ arguments.map Slot.own)).reverse.map
    fun (name, slot) => ⟨name, false, slot⟩

namespace Evaluator

/-! ## Functions of the script -/

/-- Run the body of a function. -/
def enter (ev : Evaluator) (f : Function) (captured : List Nat) (receiver : Option Datum)
    (arguments : List Datum) : Eval Given :=
  Eval.leaving
    (do
      Eval.modifyFrame fun frame =>
        { frame with
          bindings := f.bind captured arguments
          receiver := receiver
          nesting := frame.nesting + 1 }
      let value ← (ev.evaluate f.body).rescue fun
        | .returned value => some (return value)
        | _ => none
      return (value, (← Eval.frame).receiver))
    Frame.afterCall

/-- Call a function of the script at a place. -/
def callFunction (ev : Evaluator) (f : Function) (captured : List Nat) (receiver : Option Datum)
    (arguments : List Datum) (place : Option Position) : Eval Given := do
  if maxNesting ≤ (← Eval.frame).nesting then Eval.fault .nestedTooDeep place
  else
    (ev.enter f captured receiver arguments).rescue fun
      | .failed e => some (Eval.fail (e.leaving f.name place))
      | _ => none

/-! ## Functions of the host -/

/-- How functions of the host call back. -/
def caller (ev : Evaluator) : Caller where
  surroundings := ev.surroundings
  arity := ev.program.arity
  apply name captured receiver arguments :=
    Prod.fst <$> ev.run (.call name captured receiver arguments none)

/-- A computation whose failures have at least a place. -/
def placed (place : Position) (x : Eval α) : Eval α :=
  x.rescue fun
    | .failed f => some (Eval.fail (f.atLeast place))
    | _ => none

/-- Call a function of the host at a place, if there is one that takes the arguments. -/
def callNative? (ev : Evaluator) (name : String) (arguments : List Datum) (place : Position) :
    Option (Eval Given) :=
  (Native.call? Native.all ev.caller name arguments).map (placed place)

/-- Refuse a call for which there is no function. -/
def noFunction (name : String) (arguments : List Datum) (place : Option Position) : Eval α :=
  Eval.fault (.functionNotFound (Datum.signature name arguments)) place

/-! ## Calls of all kinds -/

/-- Call a function that is a datum. A name that the script does not have may be one of the host;
its function finds the receiver as its first argument. -/
def callDatum (ev : Evaluator) (name : FunctionName) (captured : List Nat)
    (receiver : Option Datum) (arguments : List Datum) (place : Option Position) : Eval Given :=
  match ev.program.function? name (captured.length + arguments.length) with
  | some f => ev.callFunction f captured receiver arguments place
  | none =>
    let arguments := receiver.toList ++ arguments
    match Native.call? Native.all ev.caller name.shown arguments, place with
    | some x, some place => do return ((← placed place x).1, receiver)
    | some x, none => do return ((← x).1, receiver)
    | none, place => noFunction name.shown arguments place

/-- Call what a name stands for with arguments, at a place. -/
def callName (ev : Evaluator) (name : String) (arguments : List Datum) (place : Position) :
    Eval Given :=
  match ev.program.function? (.named name) arguments.length with
  | some f => do return ((← ev.callFunction f [] none arguments place).1, none)
  | none =>
    match name, arguments with
    | "call", .function f captured :: arguments => do
      return ((← ev.callDatum f captured none arguments place).1, none)
    | name, arguments =>
      (ev.callNative? name arguments place).getD (noFunction name arguments place)

/-- Call a method of a datum at a place. It answers with its value and the changed datum. -/
def callMethod (ev : Evaluator) (fixed : Bool) (target : Datum) (name : String)
    (arguments : List Datum) (place : Position) : Eval Given :=
  match target, name with
  | .function f captured, "call" => do
    return ((← ev.callDatum f captured none arguments place).1, none)
  | target, name =>
    match entryFunction? target name with
    | some (f, captured) => ev.callDatum f captured (some target) arguments place
    | none =>
      match ev.program.function? (.named name) arguments.length with
      | some f => ev.callFunction f [] (some target) arguments place
      | none =>
        match ev.callNative? name (target :: arguments) place with
        | none => noFunction name (target :: arguments) place
        | some x => do
          let (value, changed) ← x
          if fixed && changed.isSome then Eval.fault (.constantChanged name) place
          else
            Eval.spend ((changed.map Datum.cost).getD 0)
            return (value, changed)
where
  /-- The function that a map holds under a name. -/
  entryFunction? (target : Datum) (name : String) : Option (FunctionName × List Nat) :=
    match target with
    | .map entries =>
      match entries.lookup name with
      | some (.function f captured) => some (f, captured)
      | _ => none
    | _ => none

/-- Call a function of a namespace. Its failures keep what place they have. -/
def callQualified (ev : Evaluator) (path : List String) (pathPlace : Position) (name : String)
    (arguments : List Datum) (place : Position) : Eval Datum :=
  let module := String.intercalate "::" path
  match Native.namespace? module with
  | none => Eval.fault (.moduleNotFound module) pathPlace
  | some table =>
    match Native.call? table ev.caller name arguments with
    | some x => Prod.fst <$> x
    | none => noFunction (module ++ "::" ++ name) arguments place

end Evaluator

end CollectionRunner
