import CollectionRunner.Script.Task

/-!
# Loops

A loop repeats its turn until the turn says that it is over. A turn ends early by `continue`, and the
loop by `break`, whose value is that of the loop.
-/

namespace CollectionRunner

/-- What a loop goes through. -/
inductive Items
  | data (ds : List Datum)
  /-- Integers from one on, a number of them. -/
  | integers (next : Int64) (left : Nat)

namespace Items

/-- The items of a datum, if it has any to go through. -/
def of? : Datum → Option Items
  | .list items => some (data items)
  | .text s => some (data (s.toList.map .char))
  | .chars cs => some (data (cs.map .char))
  | .range first last inclusive =>
    let beyond := if inclusive then last.toInt + 1 else last.toInt
    some (integers first (beyond - first.toInt).toNat)
  | _ => none

/-- The first item and the others. -/
def next? : Items → Option (Datum × Items)
  | data [] => none
  | data (d :: rest) => some (d, data rest)
  | integers _ 0 => none
  | integers i (n + 1) => some (.int i, integers (i + 1) n)

end Items

namespace Eval

/-- Run the body of a loop. It says whether the loop goes on, and answers its value if not. -/
def turn (body : Eval Datum) : Eval (Unit ⊕ Datum) := do
  tick
  rescue
    (do
      let _ ← body
      return .inl ())
    fun
      | .continued => some (return .inl ())
      | .broke value => some (return .inr value)
      | _ => none

/-- Repeat turns until one says that the loop is over. -/
def loop (x : σ → Eval (σ ⊕ Datum)) (s : σ) : Eval Datum := do
  repeated x ((← frame).steps + 1) s

end Eval

namespace Evaluator

/-- Repeat while a condition holds. -/
def repeatWhile (ev : Evaluator) (condition : Option Expr) (body : Expr) : Eval Datum :=
  Eval.loop
    (fun () => do
      let goesOn ←
        match condition with
        | some condition => ev.holds condition
        | none => pure true
      if goesOn then Eval.turn (ev.evaluate body) else return .inr .unit)
    ()

/-- Do once, and repeat while a condition has a value. -/
def repeatAgain (ev : Evaluator) (body condition : Expr) (value : Bool) : Eval Datum :=
  Eval.loop
    (fun () => do
      match ← Eval.turn (ev.evaluate body) with
      | .inr d => return .inr d
      | .inl () => if (← ev.holds condition) == value then return .inl () else return .inr .unit)
    ()

/-- Put the counter of a loop into its variable. -/
def count (counter : Option String) (n : Nat) : Eval Unit :=
  match counter with
  | some name => Eval.modifyFrame (·.assign name (.int (Int64.ofNat n)))
  | none => return ()

/-- Go through items. The variables of the loop are declared once and assigned for every item. -/
def goThrough (ev : Evaluator) (item : String) (counter : Option String) (items : Items)
    (body : Expr) : Eval Datum :=
  Eval.scope do
    match counter with
    | some name => Eval.declare name false (.int 0)
    | none => pure ()
    Eval.declare item false .unit
    Eval.loop
      (fun (items, n) => do
        match items.next? with
        | none => return .inr .unit
        | some (d, rest) =>
          count counter n
          Eval.modifyFrame (·.assign item d)
          match ← Eval.turn (ev.evaluate body) with
          | .inl () => return .inl (rest, n + 1)
          | .inr d => return .inr d)
      (items, 0)

end Evaluator

end CollectionRunner
