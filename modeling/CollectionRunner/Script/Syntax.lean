import CollectionRunner.Script.Token

/-!
# Scripts as trees

An `Expr` is a piece of a script; statements are expressions too, as every one of them has a value.
A `Program` holds the tree of a script, its functions, and its functions without names.
-/

namespace CollectionRunner

/-- Operators with two operands that are both evaluated first. -/
inductive Operator
  | add
  | subtract
  | multiply
  | divide
  | modulo
  | power
  | shiftLeft
  | shiftRight
  | bitAnd
  | bitOr
  | bitXor
  | equal
  | unequal
  | less
  | lessOrEqual
  | greater
  | greaterOrEqual
  | range
  | rangeInclusive
  deriving DecidableEq, Repr, Inhabited

/-- The sign of an operator. -/
def Operator.sign : Operator → String
  | add => "+"
  | subtract => "-"
  | multiply => "*"
  | divide => "/"
  | modulo => "%"
  | power => "**"
  | shiftLeft => "<<"
  | shiftRight => ">>"
  | bitAnd => "&"
  | bitOr => "|"
  | bitXor => "^"
  | equal => "=="
  | unequal => "!="
  | less => "<"
  | lessOrEqual => "<="
  | greater => ">"
  | greaterOrEqual => ">="
  | range => ".."
  | rangeInclusive => "..="

/-- Operators with one operand. -/
inductive UnaryOperator
  | minus
  | plus
  | not
  deriving DecidableEq, Repr, Inhabited

/-- The sign of an operator with one operand. -/
def UnaryOperator.sign : UnaryOperator → String
  | minus => "-"
  | plus => "+"
  | not => "!"

/-- A way from a datum to a part of it. A way that is `optional` ends where there is nothing. -/
inductive Step (ε : Type)
  | property (optional : Bool) (name : String) (place : Position)
  | index (optional : Bool) (key : ε) (bracket keyPlace : Position)
  | method (optional : Bool) (name : String) (arguments : List ε) (place : Position)
  deriving Inhabited

/-- What a case of a switch applies to. -/
inductive Label
  | literal (d : Datum)
  | range (first last : Int64) (inclusive : Bool)
  deriving Inhabited

/-- A case of a switch. -/
structure Case (ε : Type) where
  labels : List Label
  guard : Option ε
  action : ε
  deriving Inhabited

/-- A piece of a script. The last argument says where it is reported to be. -/
inductive Expr
  | constant (d : Datum) (place : Position)
  /-- A text with blocks in it. -/
  | template (parts : List Expr) (place : Position)
  | list (items : List Expr) (place : Position)
  | map (entries : List (String × Expr)) (place : Position)
  | variable (name : String) (place : Position)
  | receiver (place : Position)
  | chain (base : Expr) (steps : List (Step Expr)) (place : Position)
  | unary (op : UnaryOperator) (operand : Expr) (place : Position)
  | binary (op : Operator) (left right : Expr) (place : Position)
  | contains (negated : Bool) (item container : Expr) (place : Position)
  | both (left right : Expr) (place : Position)
  | either (left right : Expr) (place : Position)
  | orElse (left right : Expr) (place : Position)
  | call (name : String) (arguments : List Expr) (place : Position)
  | qualified (path : List String) (pathPlace : Position) (name : String) (arguments : List Expr)
      (place : Position)
  /-- A function without name, with the variables it captures and where it first mentions them. -/
  | function (index : Nat) (captured : List (String × Position)) (place : Position)
  | block (statements : List Expr) (place : Position)
  | declare (name : String) (constant : Bool) (value : Option Expr) (place : Position)
  | assign (op : Option Operator) (target value : Expr) (place : Position)
  | choose (condition consequence : Expr) (alternative : Option Expr) (place : Position)
  /-- Repeat while the condition holds, or without end. -/
  | loop (condition : Option Expr) (body : Expr) (place : Position)
  /-- Do once, then repeat while the condition has the value. -/
  | again (body condition : Expr) (value : Bool) (place : Position)
  | each (item : String) (counter : Option String) (source body : Expr) (place : Position)
  | switch (subject : Expr) (cases : List (Case Expr)) (fallback : Option Expr) (place : Position)
  | break (value : Option Expr) (place : Position)
  | continue (place : Position)
  | return (value : Option Expr) (place : Position)
  | throw (value : Option Expr) (place : Position)
  | attempt (body : Expr) (name : Option String) (handler : Expr) (place : Position)
  /-- Ask for a module by its path. -/
  | require (path : Expr) (place : Position)
  | nothing (place : Position)
  deriving Inhabited

/-- A function of a script. -/
structure Function where
  name : FunctionName
  parameters : List String
  body : Expr
  deriving Inhabited

/-- A script as a tree. -/
structure Program where
  functions : List Function
  /-- Functions without names; the captured variables are their first parameters. -/
  anonymous : Array Function
  body : Expr
  deriving Inhabited

namespace Expr

/-- Where the expression is reported to be. -/
def place : Expr → Position
  | constant _ p => p
  | template _ p => p
  | list _ p => p
  | map _ p => p
  | «variable» _ p => p
  | receiver p => p
  | chain _ _ p => p
  | unary _ _ p => p
  | binary _ _ _ p => p
  | contains _ _ _ p => p
  | both _ _ p => p
  | either _ _ p => p
  | orElse _ _ p => p
  | call _ _ p => p
  | qualified _ _ _ _ p => p
  | function _ _ p => p
  | block _ p => p
  | declare _ _ _ p => p
  | assign _ _ _ p => p
  | choose _ _ _ p => p
  | loop _ _ p => p
  | again _ _ _ p => p
  | each _ _ _ _ p => p
  | switch _ _ _ p => p
  | «break» _ p => p
  | «continue» p => p
  | «return» _ p => p
  | throw _ p => p
  | attempt _ _ _ p => p
  | require _ p => p
  | nothing p => p

/-- Where the expression starts. -/
def start : Expr → Position
  | chain base _ _ => base.start
  | binary _ left _ _ => left.start
  | contains _ item _ _ => item.start
  | both left _ _ => left.start
  | either left _ _ => left.start
  | orElse left _ _ => left.start
  | qualified _ p _ _ _ => p
  | e => e.place

mutual

/-- Whether the expression is a literal through and through. -/
def isConstant : Expr → Bool
  | constant _ _ => true
  | list items _ => areConstant items
  | map entries _ => entriesConstant entries
  | _ => false

/-- Whether all of some expressions are literals. -/
def areConstant : List Expr → Bool
  | [] => true
  | e :: rest => e.isConstant && areConstant rest

/-- Whether all entries of a map are literals. -/
def entriesConstant : List (String × Expr) → Bool
  | [] => true
  | (_, e) :: rest => e.isConstant && entriesConstant rest

end

mutual

/-- The datum that a literal stands for. -/
def literal? : Expr → Option Datum
  | constant d _ => some d
  | list items _ => (literals? items).map .list
  | map entries _ => (literalEntries? entries).map .map
  | binary .range (.constant (.int a) _) (.constant (.int b) _) _ => some (.range a b false)
  | binary .rangeInclusive (.constant (.int a) _) (.constant (.int b) _) _ =>
    some (.range a b true)
  | _ => none

/-- The data that literals stand for. -/
def literals? : List Expr → Option (List Datum)
  | [] => some []
  | e :: rest => do return (← e.literal?) :: (← literals? rest)

/-- The entries that a map of literals stands for. -/
def literalEntries? : List (String × Expr) → Option (List (String × Datum))
  | [] => some []
  | (name, e) :: rest => do
    return ScriptValue.insertEntry name (← e.literal?) (← literalEntries? rest)

end

end Expr

end CollectionRunner
