import CollectionRunner.Script.Eval
import CollectionRunner.Script.Syntax

/-!
# Variables of running scripts

The innermost variable of a name is the one that is meant. A function captures variables by sharing
their cells: from then on the variable and the function see each other's changes.
-/

namespace CollectionRunner

/-! ## Frames -/

namespace Frame

/-- The variable that a name means. -/
def find? (f : Frame) (name : String) : Option Variable :=
  f.bindings.find? (·.name == name)

/-- What a slot holds. -/
def content (f : Frame) : Slot → Datum
  | .own d => d
  | .shared cell => (f.cells.getD cell default).content

/-- Whether a variable cannot be assigned to. -/
def fixed (f : Frame) (v : Variable) : Bool :=
  v.constant ||
    match v.slot with
    | .own _ => false
    | .shared cell => (f.cells.getD cell default).constant

/-- Variables with another slot for the first of a name. -/
def replaceSlot (name : String) (slot : Slot) : List Variable → List Variable
  | [] => []
  | v :: rest =>
    if v.name == name then { v with slot } :: rest else v :: replaceSlot name slot rest

/-- The frame with another datum in a variable. -/
def assign (f : Frame) (name : String) (d : Datum) : Frame :=
  match (f.find? name).map Variable.slot with
  | some (.shared cell) =>
    { f with cells := f.cells.modify cell fun c => { c with content := d } }
  | _ => { f with bindings := replaceSlot name (.own d) f.bindings }

/-- The frame with a further variable. -/
def declare (f : Frame) (name : String) (constant : Bool) (slot : Slot) : Frame :=
  { f with bindings := ⟨name, constant, slot⟩ :: f.bindings }

/-- The cell of a variable, which may be a new one, and the frame that has it. -/
def share (f : Frame) (v : Variable) : Nat × Frame :=
  match v.slot with
  | .shared cell => (cell, f)
  | .own d =>
    (f.cells.size,
      { f with
        cells := f.cells.push ⟨d, v.constant⟩
        bindings := replaceSlot v.name (.shared f.cells.size) f.bindings })

/-- The frame after a block: the variables that were declared in it are gone. -/
def afterBlock (before after : Frame) : Frame :=
  { after with
    bindings := after.bindings.drop (after.bindings.length - before.bindings.length) }

/-- The frame after a function: what was around its call is back. -/
def afterCall (before after : Frame) : Frame :=
  { after with
    bindings := before.bindings
    receiver := before.receiver
    nesting := before.nesting }

end Frame

/-! ## Computations -/

namespace Eval

/-- Run a computation whose variables are its own. -/
@[inline] def scope (x : Eval α) : Eval α := x.leaving Frame.afterBlock

/-- Declare a variable. -/
def declare (name : String) (constant : Bool) (d : Datum) : Eval Unit :=
  modifyFrame (·.declare name constant (.own d))

/-- The variable that a name means. -/
def lookUp (name : String) (place : Position) : Eval Variable := do
  match (← frame).find? name with
  | some v => return v
  | none => fault (.variableNotFound name) place

/-- What a variable holds. -/
def content (v : Variable) : Eval Datum := do return (← frame).content v.slot

/-- Share the variables that a function captures. -/
def capture : List (String × Position) → Eval (List Nat)
  | [] => return []
  | (name, place) :: rest => do
    let v ← lookUp name place
    let (cell, f) := (← frame).share v
    modifyFrame fun _ => f
    return cell :: (← capture rest)

end Eval

end CollectionRunner
