import CollectionRunner.Number.Remainder
import CollectionRunner.Script.Syntax

/-!
# What operators do

Integers are computed exactly and refused when they do not fit 64 bits; an integer meeting a double
becomes one. Data of different types are unequal and in no order. A text takes up the text of
whatever is added to it.
-/

namespace CollectionRunner

namespace Datum

/-- Largest number of bytes of a text. -/
def maxBytes : Nat := 16 * 1024 * 1024

/-- Largest number of items of a list or a map. -/
def maxItems : Nat := 1000000

/-- What of a datum is larger than allowed. -/
def excess : Datum → Option String
  | text s => if maxBytes < s.utf8ByteSize then some "Length of string" else none
  | list items => if maxItems < items.length then some "Size of array" else none
  | map entries => if maxItems < entries.length then some "Size of object map" else none
  | _ => none

/-- The double that an integer stands for beside doubles. -/
def double (i : Int64) : Float := Number.ofInt i.toInt

/-- Two numbers of which at least one is a double. -/
def doubles? : Datum → Datum → Option (Float × Float)
  | float x, float y => some (x, y)
  | int i, float y => some (double i, y)
  | float x, int j => some (x, double j)
  | _, _ => none

/-- Two texts, of which one may be a character. -/
def texts? : Datum → Datum → Option (String × String)
  | text s, text t => some (s, t)
  | text s, char d => some (s, d.toString)
  | char c, text t => some (c.toString, t)
  | char c, char d => some (c.toString, d.toString)
  | _, _ => none

/-! ## Equality -/

/-- The fault of an operator that does not apply. -/
def notApplicable (op : Operator) (a b : Datum) : ScriptFault :=
  .functionNotFound (signature op.sign [a, b])

/-- Equality of data that are no containers, for an operator that asks for it. -/
def equalsPlain (op : Operator) (a b : Datum) : Except ScriptFault Bool :=
  match doubles? a b, texts? a b with
  | some (x, y), _ => .ok (x == y)
  | _, some (s, t) => .ok (s == t)
  | none, none =>
    match a, b with
    | unit, unit => .ok true
    | bool b, bool c => .ok (b == c)
    | int i, int j => .ok (i == j)
    | range i j k, range l m n => .ok (i == l && j == m && k == n)
    | a, b =>
      if a.typeName == b.typeName then .error (notApplicable op a b) else .ok false

mutual

/-- Equality, for an operator that asks for it. Host objects and functions cannot be compared with
their like. -/
def equals (op : Operator) : Datum → Datum → Except ScriptFault Bool
  | list as, list bs => equalsItems as bs
  | map as, map bs => equalsEntries as bs
  | a, b => equalsPlain op a b

/-- Equality of lists. -/
def equalsItems : List Datum → List Datum → Except ScriptFault Bool
  | [], [] => .ok true
  | a :: as, b :: bs => do if ← equals .equal a b then equalsItems as bs else return false
  | _, _ => .ok false

/-- Equality of maps. -/
def equalsEntries : List (String × Datum) → List (String × Datum) → Except ScriptFault Bool
  | [], [] => .ok true
  | (k, a) :: as, (l, b) :: bs => do
    if k == l then
      if ← equals .equal a b then equalsEntries as bs else return false
    else return false
  | _, _ => .ok false

end

/-! ## Arithmetic -/

/-- An integer that was computed, or the fault that it does not fit. -/
def checked (value : Int) (problem : String) : Except ScriptFault Datum :=
  if -(Number.twoTo 63) ≤ value && value < Number.twoTo 63 then .ok (int (Int64.ofInt value))
  else .error (.arithmetic problem)

/-- Power of integers; large exponents are told apart only where the result fits. -/
def power (a b : Int) (shown : String) : Except ScriptFault Datum :=
  if b < 0 then .error (.arithmetic ("Integer raised to a negative power: " ++ shown))
  else if b.toNat < 64 then checked (Int.pow a b.toNat) ("Exponential overflow: " ++ shown)
  else if a == 0 || a == 1 then .ok (int (Int64.ofInt a))
  else if a == -1 && b < Number.twoTo 32 then .ok (int (if b % 2 == 0 then 1 else -1))
  else .error (.arithmetic ("Exponential overflow: " ++ shown))

/-- An integer shifted to the left, or to the right for negative amounts. What is shifted out is
lost. -/
def shift (a b : Int) : Datum :=
  if 64 ≤ b then int 0
  else if 0 ≤ b then int (Int64.ofInt (a * Number.twoTo b.toNat))
  else int (Int64.ofInt (Int.fdiv a (Number.twoTo (min 63 (-b).toNat))))

/-- Operators on two integers. -/
def integers (op : Operator) (i j : Int64) : Except ScriptFault Datum :=
  let a := i.toInt
  let b := j.toInt
  let shown := s!"{a} {op.sign} {b}"
  match op with
  | .add => checked (a + b) ("Addition overflow: " ++ shown)
  | .subtract => checked (a - b) ("Subtraction overflow: " ++ shown)
  | .multiply => checked (a * b) ("Multiplication overflow: " ++ shown)
  | .divide =>
    if b == 0 then .error (.arithmetic ("Division by zero: " ++ shown))
    else checked (Int.tdiv a b) ("Division overflow: " ++ shown)
  | .modulo =>
    if b == 0 || (b == -1 && i == Int64.minValue) then
      .error (.arithmetic ("Modulo division by zero or overflow: " ++ shown))
    else .ok (int (Int64.ofInt (Int.tmod a b)))
  | .power => power a b shown
  | .shiftLeft => .ok (shift a b)
  | .shiftRight => .ok (shift a (-b))
  | .bitAnd => .ok (int (i &&& j))
  | .bitOr => .ok (int (i ||| j))
  | .bitXor => .ok (int (i ^^^ j))
  | .equal => .ok (bool (a == b))
  | .unequal => .ok (bool (a != b))
  | .less => .ok (bool (a < b))
  | .lessOrEqual => .ok (bool (a ≤ b))
  | .greater => .ok (bool (a > b))
  | .greaterOrEqual => .ok (bool (a ≥ b))
  | .range => .ok (range i j false)
  | .rangeInclusive => .ok (range i j true)

/-- Operators on two doubles. -/
def floats (op : Operator) (x y : Float) : Option Datum :=
  match op with
  | .add => some (float (x + y))
  | .subtract => some (float (x - y))
  | .multiply => some (float (x * y))
  | .divide => some (float (x / y))
  | .modulo => some (float (Number.remainder x y))
  | .power => some (float (Float.pow x y))
  | .less => some (bool (x < y))
  | .lessOrEqual => some (bool (x ≤ y))
  | .greater => some (bool (x > y))
  | .greaterOrEqual => some (bool (x ≥ y))
  | _ => none

/-! ## Texts -/

/-- A list of characters without the occurrences of another. -/
def without (needle : List Char) : Nat → List Char → List Char
  | _, [] => []
  | skipped + 1, _ :: rest => without needle skipped rest
  | 0, c :: rest =>
    if !needle.isEmpty && needle.isPrefixOf (c :: rest) then
      without needle (needle.length - 1) rest
    else c :: without needle 0 rest

/-- Operators on two texts besides addition. -/
def onTexts (op : Operator) (s t : String) : Option Datum :=
  match op with
  | .subtract => some (text (String.ofList (without t.toList 0 s.toList)))
  | .less => some (bool (s < t))
  | .lessOrEqual => some (bool (!(t < s)))
  | .greater => some (bool (t < s))
  | .greaterOrEqual => some (bool (!(s < t)))
  | _ => none

/-- Operators on two truth values. -/
def onBools (op : Operator) (a b : Bool) : Option Datum :=
  match op with
  | .bitAnd => some (bool (a && b))
  | .bitOr => some (bool (a || b))
  | .bitXor => some (bool (a != b))
  | .less => some (bool (!a && b))
  | .lessOrEqual => some (bool (!a || b))
  | .greater => some (bool (a && !b))
  | .greaterOrEqual => some (bool (a || !b))
  | _ => none

/-- Whether one of two data is a text. -/
def eitherText : Datum → Datum → Bool
  | text _, _ => true
  | _, text _ => true
  | _, _ => false

/-- Operators on data that are not both numbers. -/
def others (body : String) (op : Operator) (a b : Datum) : Option Datum :=
  match op, a, b with
  | .add, char c, char d => some (text (String.ofList [c, d]))
  | .add, list as, list bs => some (list (as ++ bs))
  | .add, map as, map bs =>
    some (map (bs.foldl (fun m (name, value) => ScriptValue.insertEntry name value m) as))
  | .add, a, b => if eitherText a b then some (text (a.printText body ++ b.printText body)) else none
  | op, bool b, bool c => onBools op b c
  | op, a, b =>
    match texts? a b with
    | some (s, t) =>
      match op, a with
      | .subtract, char _ => none
      | op, _ => onTexts op s t
    | none => none

/-- What comparing data gives that have no order: those of different types are in none. -/
def unordered (op : Operator) (a b : Datum) : Option Datum :=
  if a.typeName == b.typeName then
    match a, op with
    | unit, .less => some (bool false)
    | unit, .lessOrEqual => some (bool false)
    | unit, .greater => some (bool false)
    | unit, .greaterOrEqual => some (bool false)
    | _, _ => none
  else
    match op with
    | .less => some (bool false)
    | .lessOrEqual => some (bool false)
    | .greater => some (bool false)
    | .greaterOrEqual => some (bool false)
    | _ => none

end Datum

/-- What an operator gives; `body` is the body of the request. -/
def Operator.apply (body : String) (op : Operator) (a b : Datum) : Except ScriptFault Datum := do
  let result ←
    match op with
    | .equal => Datum.bool <$> Datum.equals op a b
    | .unequal => (fun same => .bool !same) <$> Datum.equals op a b
    | op =>
      match a, b with
      | .int i, .int j => Datum.integers op i j
      | a, b =>
        let found := ((Datum.doubles? a b).bind fun (x, y) => Datum.floats op x y).orElse fun _ =>
          (Datum.others body op a b).orElse fun _ => Datum.unordered op a b
        match found with
        | some d => .ok d
        | none => .error (Datum.notApplicable op a b)
  match result.excess with
  | some what => .error (.tooLarge what)
  | none => return result

/-- What an operator with one operand gives. -/
def UnaryOperator.apply (op : UnaryOperator) (d : Datum) : Except ScriptFault Datum :=
  match op, d with
  | .minus, .int i => Datum.checked (-i.toInt) s!"Negation overflow: -{i.toInt}"
  | .minus, .float x => .ok (.float (-x))
  | .plus, .int i => .ok (.int i)
  | .plus, .float x => .ok (.float x)
  | .not, .bool b => .ok (.bool !b)
  | op, d => .error (.functionNotFound (Datum.signature op.sign [d]))

end CollectionRunner
