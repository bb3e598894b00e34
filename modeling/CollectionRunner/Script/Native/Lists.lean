import CollectionRunner.Script.Native

/-!
# Functions on lists, maps and ranges

Functions that go through a list call back with an item and, if the called function has a further
parameter, its place. A function without parameters finds the item as `this`.
-/

namespace CollectionRunner.Native

/-- Number of arguments that a function takes besides what it captured. -/
def Caller.taken (caller : Caller) (name : FunctionName) (captured : List Nat) : Option Nat :=
  (caller.arity name).map (· - captured.length)

/-- Wrap the failures of a function that was called back. -/
def within (name : String) (x : Eval α) : Eval α :=
  x.rescue fun
    | .failed f => some (.fail (.inFunction name f none))
    | _ => none

/-- Call a function with an item of a list and its place. -/
def callItem (caller : Caller) (name : FunctionName) (captured : List Nat) (item : Datum) (i : Nat) :
    Eval Datum :=
  match Caller.taken caller name captured with
  | some 1 => caller.apply name captured (some item) [item]
  | some 2 => caller.apply name captured (some item) [item, count i]
  | _ => caller.apply name captured (some item) []

/-- Call a function with what was gathered so far, an item of a list and its place. -/
def callFold (caller : Caller) (name : FunctionName) (captured : List Nat) (sofar item : Datum)
    (i : Nat) : Eval Datum :=
  match Caller.taken caller name captured with
  | some 2 => caller.apply name captured (some item) [sofar, item]
  | some 3 => caller.apply name captured (some item) [sofar, item, count i]
  | _ => caller.apply name captured (some item) [sofar]

/-- What a function gives for each item of a list, the first of which has place `i`. -/
def mapItems (call : Datum → Nat → Eval Datum) : Nat → List Datum → Eval (List Datum)
  | _, [] => return []
  | i, item :: rest => do
    let value ← call item i
    return value :: (← mapItems call (i + 1) rest)

/-- The items of a list for which a function says so. -/
def filterItems (call : Datum → Nat → Eval Datum) : Nat → List Datum → Eval (List Datum)
  | _, [] => return []
  | i, item :: rest => do
    match ← call item i with
    | .bool true => return item :: (← filterItems call (i + 1) rest)
    | _ => filterItems call (i + 1) rest

/-- Gather the items of a list, one after the other. -/
def foldItems (call : Datum → Datum → Nat → Eval Datum) : Datum → Nat → List Datum → Eval Datum
  | sofar, _, [] => return sofar
  | sofar, i, item :: rest => do foldItems call (← call sofar item i) (i + 1) rest

/-- Whether an item of a list equals a datum. -/
def anyEqual (d : Datum) : List Datum → Except ScriptFault Bool
  | [] => .ok false
  | item :: rest => do if ← Datum.equals .equal item d then return true else anyEqual d rest

/-- Place of the first item that equals a datum. -/
def placeOf (d : Datum) (i : Nat) : List Datum → Except ScriptFault (Option Nat)
  | [] => .ok none
  | item :: rest => do if ← Datum.equals .equal item d then return some i else placeOf d (i + 1) rest

/-- Whether an integer lies in a range. -/
def inRange (first last : Int64) (inclusive : Bool) (i : Int64) : Bool :=
  first ≤ i && (i < last || inclusive && i == last)

/-- Functions on lists. -/
def lists : List (String × Native) :=
  [("len", fun _ => fun
    | [.list items] => give (count items.length)
    | _ => none),
   ("push", fun _ => fun
    | [.list items, d] =>
      let longer := Datum.list (items ++ [d])
      match longer.excess with
      | some what => some (Eval.fault (.tooLarge what) none)
      | none => some (return (.unit, some longer))
    | _ => none),
   ("pop", fun _ => fun
    | [.list items] => some (return (items.getLast?.getD .unit, some (.list items.dropLast)))
    | _ => none),
   ("contains", fun _ => fun
    | [.list items, d] => giveFrom (.bool <$> orFault (anyEqual d items))
    | _ => none),
   ("index_of", fun _ => fun
    | [.list items, d] => giveFrom do
      match ← orFault (placeOf d 0 items) with
      | some i => return count i
      | none => return .int (-1)
    | _ => none),
   ("map", fun caller => fun
    | [.list items, .function name captured] =>
      giveFrom (.list <$> within "map" (mapItems (callItem caller name captured) 0 items))
    | _ => none),
   ("filter", fun caller => fun
    | [.list items, .function name captured] =>
      giveFrom (.list <$> within "filter" (filterItems (callItem caller name captured) 0 items))
    | _ => none),
   ("reduce", fun caller => fun
    | [.list items, .function name captured] =>
      giveFrom (within "reduce" (foldItems (callFold caller name captured) .unit 0 items))
    | [.list items, .function name captured, first] =>
      giveFrom (within "reduce" (foldItems (callFold caller name captured) first 0 items))
    | _ => none)]

/-- Functions on maps and ranges. -/
def maps : List (String × Native) :=
  [("len", fun _ => fun
    | [.map entries] => give (count entries.length)
    | _ => none),
   ("contains", fun _ => fun
    | [.map entries, .text name] => give (.bool (entries.any (·.1 == name)))
    | [.range first last inclusive, .int i] => give (.bool (inRange first last inclusive i))
    | _ => none),
   ("keys", fun _ => fun
    | [.map entries] => give (.list (entries.map fun e => .text e.1))
    | _ => none),
   ("values", fun _ => fun
    | [.map entries] => give (.list (entries.map Prod.snd))
    | _ => none)]

end CollectionRunner.Native
