import CollectionRunner.Script.Eval
import CollectionRunner.Script.Operator
import CollectionRunner.Time

/-!
# Functions of the host

A `Native` is a function that scripts can call and that is not written in the language. It may call
back functions of the script through its `Caller`. It answers nothing for arguments that it does
not take; several functions may share a name.
-/

namespace CollectionRunner

/-- What is around a running script. -/
structure Surroundings where
  /-- What answers the requests of the script, if it may send any. -/
  sender : Option Sender
  now : Moment
  /-- Where its random values come from. -/
  seed : UInt64
  deriving Inhabited

/-- How functions of the host reach the script that calls them. -/
structure Caller where
  surroundings : Surroundings
  /-- Number of parameters of a function of the script. -/
  arity : FunctionName → Option Nat
  /-- Call a function with what it captured, the datum `this` stands for, and its arguments. -/
  apply : FunctionName → List Nat → Option Datum → List Datum → Eval Datum

/-- What a function of the host gives: its value, and its first argument if it changed that. -/
abbrev Given := Datum × Option Datum

/-- A function of the host. -/
abbrev Native := Caller → List Datum → Option (Eval Given)

namespace Native

/-- Give a value. -/
def give (d : Datum) : Option (Eval Given) := some (return (d, none))

/-- Give what a computation answers. -/
def giveFrom (x : Eval Datum) : Option (Eval Given) := some do return (← x, none)

/-- Do something and give nothing. -/
def act (x : Eval Unit) : Option (Eval Given) := some do
  x
  return (.unit, none)

/-- Answer, or fail by a fault. -/
def orFault : Except ScriptFault α → Eval α
  | .ok a => return a
  | .error f => Eval.fault f none

/-- A number of things as an integer. -/
def count (n : Nat) : Datum := .int (Int64.ofNat n)

/-- A place from the start of `size` things, negative places counting from the end. -/
def offset? (size : Nat) (i : Int64) : Option Nat :=
  let i := i.toInt
  let n := if i < 0 then i + size else i
  if 0 ≤ n && n < size then some n.toNat else none

/-- The functions of a name in a table, and what the first that takes the arguments gives. -/
def call? (table : List (String × Native)) (caller : Caller) (name : String)
    (arguments : List Datum) : Option (Eval Given) :=
  table.findSome? fun (n, native) => if n == name then native caller arguments else none

end Native

end CollectionRunner
