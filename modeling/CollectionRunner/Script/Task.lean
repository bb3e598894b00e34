import CollectionRunner.Script.Native
import CollectionRunner.Script.Scope

/-!
# What running a script consists of

A `Task` is to evaluate an expression or to call a function. What the constructs of the language do
is said in terms of an `Evaluator`, which does the tasks that they consist of.
-/

namespace CollectionRunner

/-- A part of the work of running a script, and the type of what it answers. -/
inductive Task : Type → Type
  | evaluate (e : Expr) : Task Datum
  /-- Call a function with what it captured, the datum `this` stands for, and its arguments. It
  answers with its value and the datum that `this` stands for at its end. -/
  | call (name : FunctionName) (captured : List Nat) (receiver : Option Datum)
      (arguments : List Datum) (place : Option Position) : Task Given

/-- Does tasks. -/
structure Evaluator where
  /-- The script that runs. -/
  program : Program
  surroundings : Surroundings
  run : {α : Type} → Task α → Eval α

namespace Evaluator

/-- Evaluate an expression. -/
@[inline] def evaluate (ev : Evaluator) (e : Expr) : Eval Datum := ev.run (.evaluate e)

/-- Evaluate expressions, one after the other. -/
def evaluateAll (ev : Evaluator) : List Expr → Eval (List Datum)
  | [] => return []
  | e :: rest => do
    let d ← ev.evaluate e
    return d :: (← ev.evaluateAll rest)

/-- Evaluate the expressions of named entries, one after the other. -/
def evaluateEntries (ev : Evaluator) :
    List (String × Expr) → Eval (List (String × Datum))
  | [] => return []
  | (name, e) :: rest => do
    let d ← ev.evaluate e
    return (name, d) :: (← ev.evaluateEntries rest)

/-- Evaluate what the steps of a chain depend on, one step after the other. -/
def evaluateSteps (ev : Evaluator) : List (Step Expr) → Eval (List (Step Datum))
  | [] => return []
  | .property optional name place :: rest => do
    return .property optional name place :: (← ev.evaluateSteps rest)
  | .index optional key bracket keyPlace :: rest => do
    let key ← ev.evaluate key
    return .index optional key bracket keyPlace :: (← ev.evaluateSteps rest)
  | .method optional name arguments place :: rest => do
    let arguments ← ev.evaluateAll arguments
    return .method optional name arguments place :: (← ev.evaluateSteps rest)

/-- Evaluate a condition; what is no truth value is refused. -/
def holds (ev : Evaluator) (e : Expr) : Eval Bool := do
  match ← ev.evaluate e with
  | .bool b => return b
  | d => Eval.fault (.mismatch "bool" d.typeName) e.place

end Evaluator

/-- The body of the request, which the text of some data depends on. -/
def Eval.requestBody : Eval String := do return (← host).request.request.body.getD ""

/-- Answer, or fail by a fault at a place. -/
def Eval.orFault (place : Position) : Except ScriptFault α → Eval α
  | .ok a => return a
  | .error f => fault f place

/-- Number of steps that copying a datum is worth. -/
def Datum.cost : Datum → Nat
  | text s => s.utf8ByteSize / 1024
  | list items => items.length / 64
  | map entries => entries.length / 64
  | _ => 0

/-- What an operator gives, or its fault at a place. -/
def Operator.compute (op : Operator) (a b : Datum) (place : Position) : Eval Datum := do
  let d ← Eval.orFault place (op.apply (← Eval.requestBody) a b)
  Eval.spend d.cost
  return d

end CollectionRunner
