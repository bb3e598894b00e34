import CollectionRunner.Script.Syntax

/-!
# Pieces that are not run

A statement that can have no effect and whose value nobody gets is not run, so it cannot fail
either: `x;` in the middle of a block is no mention of `x`. `Expr.prune` drops such statements, and
the operands of logical operators that are known.
-/

namespace CollectionRunner.Expr

mutual

/-- Whether running the expression can have no effect, failing left aside. -/
def isPure : Expr → Bool
  | constant _ _ => true
  | «variable» _ _ => true
  | template parts _ => arePure parts
  | list items _ => arePure items
  | map entries _ => entriesPure entries
  | both left right _ => left.isPure && right.isPure
  | either left right _ => left.isPure && right.isPure
  | orElse left right _ => left.isPure && right.isPure
  | block statements _ => arePure statements
  | choose condition consequence alternative _ =>
    condition.isPure && consequence.isPure && optionPure alternative
  | each _ _ source body _ => source.isPure && body.isPure
  | switch subject cases fallback _ => subject.isPure && casesPure cases && optionPure fallback
  | attempt body _ handler _ => body.isPure && handler.isPure
  | nothing _ => true
  | _ => false

/-- Whether all of some expressions are pure. -/
def arePure : List Expr → Bool
  | [] => true
  | e :: rest => e.isPure && arePure rest

/-- Whether all entries of a map are pure. -/
def entriesPure : List (String × Expr) → Bool
  | [] => true
  | (_, e) :: rest => e.isPure && entriesPure rest

/-- Whether an expression is pure or missing. -/
def optionPure : Option Expr → Bool
  | some e => e.isPure
  | none => true

/-- Whether all cases of a switch are pure. -/
def casesPure : List (Case Expr) → Bool
  | [] => true
  | ⟨_, guard, action⟩ :: rest => optionPure guard && action.isPure && casesPure rest

end

/-- Whether a statement is done with as soon as it is read: it is a literal, or it is pure and no
expression. -/
def isSettled (e : Expr) : Bool :=
  e.isPure &&
    match e with
    | «variable» _ _ => false
    | template _ _ => false
    | list _ _ => e.isConstant
    | map _ _ => e.isConstant
    | both _ _ _ => false
    | either _ _ _ => false
    | orElse _ _ _ => false
    | _ => true

/-- Drop the pure statements before the last one that is not settled. -/
def dropIdle : List Expr → List Expr
  | [] => []
  | e :: rest =>
    if e.isPure && rest.any (!·.isSettled) then dropIdle rest else e :: dropIdle rest

/-- The statements of a block that are run; `valued` says whether the value of the last one counts. -/
def keepEffects (valued : Bool) (statements : List Expr) : List Expr :=
  let kept := dropIdle statements
  if valued then kept else (kept.reverse.dropWhile isPure).reverse

/-- Both of two conditions, known ones left out. -/
def conjunction (left right : Expr) (place : Position) : Expr :=
  match left, right with
  | constant (.bool true) _, right => right
  | constant (.bool false) p, _ => constant (.bool false) p
  | left, constant (.bool true) _ => left
  | left, right => both left right place

/-- One of two conditions, known ones left out. -/
def disjunction (left right : Expr) (place : Position) : Expr :=
  match left, right with
  | constant (.bool false) _, right => right
  | constant (.bool true) p, _ => constant (.bool true) p
  | left, constant (.bool false) _ => left
  | left, right => either left right place

mutual

/-- The expression without what is not run; `valued` says whether its value counts. -/
def prune (valued : Bool) : Expr → Expr
  | template parts p => template (pruneAll true parts) p
  | list items p => list (pruneAll true items) p
  | map entries p => map (pruneEntries entries) p
  | chain base steps p => chain (base.prune true) (pruneSteps steps) p
  | unary op operand p => unary op (operand.prune true) p
  | binary op left right p => binary op (left.prune true) (right.prune true) p
  | contains negated item container p =>
    contains negated (item.prune true) (container.prune true) p
  | both left right p => conjunction (left.prune true) (right.prune true) p
  | either left right p => disjunction (left.prune true) (right.prune true) p
  | orElse left right p => orElse (left.prune true) (right.prune true) p
  | call name arguments p => call name (pruneAll true arguments) p
  | qualified path q name arguments p => qualified path q name (pruneAll true arguments) p
  | block statements p => block (keepEffects valued (pruneAll valued statements)) p
  | declare name fixed value p => declare name fixed (pruneOption true value) p
  | assign op target value p => assign op (target.prune true) (value.prune true) p
  | choose condition consequence alternative p =>
    choose (condition.prune true) (consequence.prune valued) (pruneOption valued alternative) p
  | loop condition body p => loop (pruneOption true condition) (body.prune false) p
  | again body condition value p => again (body.prune false) (condition.prune true) value p
  | each item counter source body p =>
    each item counter (source.prune true) (body.prune false) p
  | switch subject cases fallback p =>
    switch (subject.prune true) (pruneCases cases) (pruneOption true fallback) p
  | «break» value p => «break» (pruneOption true value) p
  | «return» value p => «return» (pruneOption true value) p
  | throw value p => throw (pruneOption true value) p
  | attempt body name handler p =>
    if body.isPure then body.prune false
    else attempt (body.prune false) name (handler.prune false) p
  | require path p => require (path.prune true) p
  | e => e

/-- Expressions without what is not run. -/
def pruneAll (valued : Bool) : List Expr → List Expr
  | [] => []
  | e :: rest => e.prune valued :: pruneAll valued rest

/-- The entries of a map without what is not run. -/
def pruneEntries : List (String × Expr) → List (String × Expr)
  | [] => []
  | (name, e) :: rest => (name, e.prune true) :: pruneEntries rest

/-- An expression that may be missing, without what is not run. -/
def pruneOption (valued : Bool) : Option Expr → Option Expr
  | some e => some (e.prune valued)
  | none => none

/-- Steps without what is not run. -/
def pruneSteps : List (Step Expr) → List (Step Expr)
  | [] => []
  | .property optional name p :: rest => .property optional name p :: pruneSteps rest
  | .index optional key q p :: rest => .index optional (key.prune true) q p :: pruneSteps rest
  | .method optional name arguments p :: rest =>
    .method optional name (pruneAll true arguments) p :: pruneSteps rest

/-- Cases of a switch without what is not run. -/
def pruneCases : List (Case Expr) → List (Case Expr)
  | [] => []
  | ⟨labels, guard, action⟩ :: rest =>
    ⟨labels, pruneOption true guard, action.prune true⟩ :: pruneCases rest

end

end CollectionRunner.Expr

namespace CollectionRunner.Program

/-- A function without what is not run. -/
def pruneFunction (f : Function) : Function := { f with body := f.body.prune true }

/-- A script without what is not run. -/
def prune (p : Program) : Program :=
  ⟨p.functions.map pruneFunction, p.anonymous.map pruneFunction, p.body.prune true⟩

end CollectionRunner.Program
