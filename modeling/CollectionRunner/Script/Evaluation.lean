import CollectionRunner.Script.Chain
import CollectionRunner.Script.Loop

/-!
# Running scripts

`Evaluator.perform` says what each kind of expression does. `Program.evaluator` ties it together; the
steps a script may take bound how deep its tasks go, as every task takes one.
-/

namespace CollectionRunner

namespace Evaluator

/-! ## Operators -/

/-- A text from the texts of expressions. -/
def template (ev : Evaluator) (place : Position) : String → List Expr → Eval Datum
  | text, [] => return .text text
  | text, e :: rest => do
    let d ← ev.evaluate e
    match ← Operator.compute .add (.text text) d place with
    | .text text => ev.template place text rest
    | d => return d

/-- A datum unless it is larger than allowed. -/
def within (d : Datum) (place : Position) : Eval Datum :=
  match d.excess with
  | some what => Eval.fault (.tooLarge what) place
  | none => return d

/-- Both of two truth values; the second counts only if the first is true. -/
def both (ev : Evaluator) (left right : Expr) : Eval Datum := do
  if ← ev.holds left then return .bool (← ev.holds right) else return .bool false

/-- One of two truth values; the second counts only if the first is false. -/
def either (ev : Evaluator) (left right : Expr) : Eval Datum := do
  if ← ev.holds left then return .bool true else return .bool (← ev.holds right)

/-- The second datum where the first is nothing. -/
def orElse (ev : Evaluator) (left right : Expr) : Eval Datum := do
  match ← ev.evaluate left with
  | .unit => ev.evaluate right
  | d => return d

/-! ## Calls -/

/-- The function that a text names. -/
def functionOf (argument : Expr) (d : Datum) : Eval Datum :=
  match d with
  | .text name =>
    if Token.isFunctionName name then return .function (.named name) []
    else Eval.fault (.functionNotFound name) argument.place
  | d => Eval.fault (.mismatch "string" d.typeName) argument.place

/-- Call what a name stands for. A variable as first argument comes last, and is changed by
functions of the host that change their first argument. -/
def call (ev : Evaluator) (name : String) (arguments : List Expr) (place : Position) :
    Eval Datum := do
  match name, arguments with
  | "Fn", [argument] => functionOf argument (← ev.evaluate argument)
  | name, .variable first firstPlace :: rest =>
    let rest ← ev.evaluateAll rest
    let (d, fixed) ← ev.read first firstPlace
    let (value, changed) ← ev.callName name (d :: rest) place
    match changed, (← Eval.frame).find? first with
    | some d, some ⟨_, _, .own _⟩ =>
      if fixed then pure () else Eval.modifyFrame (·.assign first d)
    | _, _ => pure ()
    return value
  | name, arguments => return (← ev.callName name (← ev.evaluateAll arguments) place).1

/-- Whether a container has an item. -/
def contains (ev : Evaluator) (negated : Bool) (item container : Expr) (place : Position) :
    Eval Datum := do
  let answer ← ev.call "contains" [container, item] place
  match answer, negated with
  | .bool b, true => return .bool !b
  | d, _ => return d

/-! ## Decisions -/

/-- Whether a literal is the datum, of the same type and equal. -/
def sameLiteral (a b : Datum) : Bool :=
  a.typeName == b.typeName &&
    match Datum.equals .equal a b with
    | .ok same => same
    | .error _ => false

/-- Whether a label is a literal equal to the datum. -/
def Label.isLiteral (d : Datum) : Label → Bool
  | .literal a => sameLiteral a d
  | .range .. => false

/-- Whether a label is a range with the datum in it. -/
def Label.hasInRange (d : Datum) : Label → Bool
  | .literal _ => false
  | .range first last inclusive =>
    match d with
    | .int i => Native.inRange first last inclusive i
    | _ => false

/-- The action of the first case whose guard holds. -/
def firstHolding (ev : Evaluator) : List (Case Expr) → Eval (Option Expr)
  | [] => return none
  | c :: rest => do
    match c.guard with
    | none => return some c.action
    | some guard => if ← ev.holds guard then return some c.action else ev.firstHolding rest

/-- Take the case of a datum. Cases with an equal literal come before those with a range. -/
def switch (ev : Evaluator) (subject : Expr) (cases : List (Case Expr)) (fallback : Option Expr) :
    Eval Datum := do
  let d ← ev.evaluate subject
  let equal := cases.filter fun c => c.labels.any (Label.isLiteral d)
  let fitting :=
    if equal.isEmpty then cases.filter fun c => c.labels.any (Label.hasInRange d) else equal
  match (← ev.firstHolding fitting).orElse fun _ => fallback with
  | some action => ev.evaluate action
  | none => return .unit

/-- The value of an expression that may be missing. -/
def optional (ev : Evaluator) : Option Expr → Eval Datum
  | some e => ev.evaluate e
  | none => return .unit

/-! ## Failing -/

/-- What a failure of a handler becomes: throwing nothing throws again what was caught. -/
def rethrown (caught : Failure) : Failure → Failure
  | .thrown .unit place => caught.placed place
  | f => f

/-- Run the handler of a failure. -/
def handle (ev : Evaluator) (caught : Failure) (name : Option String) (handler : Expr) :
    Eval Datum :=
  Eval.rescue
    (Eval.scope do
      match name with
      | some name => Eval.declare name false caught.caught
      | none => pure ()
      let _ ← ev.evaluate handler
      return .unit)
    fun
      | .failed f => some (Eval.fail (rethrown caught f))
      | _ => none

/-- Run a body, and a handler if it fails. -/
def attempt (ev : Evaluator) (body : Expr) (name : Option String) (handler : Expr) : Eval Datum :=
  (ev.evaluate body).rescue fun
    | .failed f => if f.isFinal then none else some (ev.handle f name handler)
    | _ => none

/-! ## Expressions -/

/-- Evaluate statements, one after the other. The value is that of the last. -/
def statements (ev : Evaluator) : List Expr → Eval Datum
  | [] => return .unit
  | [e] => ev.evaluate e
  | e :: rest => do
    let _ ← ev.evaluate e
    ev.statements rest

/-- Ask for a module: there is none. -/
def require (ev : Evaluator) (path : Expr) : Eval Datum := do
  match ← ev.evaluate path with
  | .text name => Eval.fault (.moduleNotFound name) path.start
  | d => Eval.fault (.mismatch "string" d.typeName) path.place

/-- What an assignment does with its value. -/
def updateBy (op : Option Operator) (value : Datum) : Update :=
  match op with
  | some op => .combine op value
  | none => .replace value

/-- Evaluate an expression. -/
def evaluateStep (ev : Evaluator) : Expr → Eval Datum
  | .constant d _ => return d
  | .template parts place => ev.template place "" parts
  | .list items place => do within (.list (← ev.evaluateAll items)) place
  | .map entries place => do
    let entries ← ev.evaluateEntries entries
    within (.map (entries.foldl (fun m (name, d) => ScriptValue.insertEntry name d m) [])) place
  | .variable name place => do return (← ev.read name place).1
  | .receiver place => receiver place
  | .chain base steps _ => ev.chain base steps
  | .unary op operand place => do Eval.orFault place (op.apply (← ev.evaluate operand))
  | .binary op left right place => do
    let a ← ev.evaluate left
    let b ← ev.evaluate right
    op.compute a b place
  | .contains negated item container place => ev.contains negated item container place
  | .both left right _ => ev.both left right
  | .either left right _ => ev.either left right
  | .orElse left right _ => ev.orElse left right
  | .call name arguments place => ev.call name arguments place
  | .qualified path pathPlace name arguments place => do
    ev.callQualified path pathPlace name (← ev.evaluateAll arguments) place
  | .function index captured _ => do
    return .function (.anonymous index) (← Eval.capture captured)
  | .block statements _ => Eval.scope (ev.statements statements)
  | .declare name constant value _ => do
    Eval.declare name constant (← ev.optional value)
    return .unit
  | .assign op target value place => do
    let value ← ev.evaluate value
    ev.assign (updateBy op value) place target
    return .unit
  | .choose condition consequence alternative _ => do
    if ← ev.holds condition then ev.evaluate consequence else ev.optional alternative
  | .loop condition body _ => ev.repeatWhile condition body
  | .again body condition value _ => ev.repeatAgain body condition value
  | .each item counter source body _ => do
    match Items.of? (← ev.evaluate source) with
    | some items => ev.goThrough item counter items body
    | none => Eval.fault .notIterable source.start
  | .switch subject cases fallback _ => ev.switch subject cases fallback
  | .break value _ => do Eval.stop (.broke (← ev.optional value))
  | .continue _ => Eval.stop .continued
  | .return value _ => do Eval.stop (.returned (← ev.optional value))
  | .throw value place => do Eval.fail (.thrown (← ev.optional value) place)
  | .attempt body name handler _ => ev.attempt body name handler
  | .require path _ => ev.require path
  | .nothing _ => return .unit

/-- Do a task. -/
def perform (ev : Evaluator) : Task α → Eval α
  | .evaluate e => do
    Eval.tick
    ev.evaluateStep e
  | .call name captured receiver arguments place => do
    Eval.tick
    ev.callDatum name captured receiver arguments place

end Evaluator

namespace Program

/-- Do a task of a script; tasks that go deeper than `depth` are cut off. -/
def perform (p : Program) (around : Surroundings) : Nat → {α : Type} → Task α → Eval α
  | 0, _, _ => Eval.fault .terminated none
  | depth + 1, _, task => Evaluator.perform ⟨p, around, p.perform around depth⟩ task

/-- Run a script. -/
def run (p : Program) (around : Surroundings) : Eval Unit := do
  let depth := (← Eval.frame).steps + 1
  (do
    let _ ← p.perform around depth (.evaluate p.body)).rescue fun
    | .returned _ => some (return ())
    | _ => none

end Program

end CollectionRunner
