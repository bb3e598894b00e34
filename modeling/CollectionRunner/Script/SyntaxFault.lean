import CollectionRunner.Script.Syntax

/-!
# What is wrong with a script that cannot be read
-/

namespace CollectionRunner

/-- What is wrong with a script. -/
inductive SyntaxFault
  | token (fault : TokenFault)
  | missing (sign purpose : String)
  | reserved (word : String)
  | unknownOperator (sign : String)
  | incomplete
  | nameExpected
  | propertyExpected
  | functionNameExpected
  | parametersExpected (function : String)
  | bodyExpected (function : String)
  | duplicateParameter (function parameter : String)
  | duplicateFunction (function : String) (parameters : Nat)
  | duplicateProperty (name : String)
  | duplicateVariable (name : String)
  | wrongKind (expected actual : String)
  | expressionExpected (kind : String)
  /-- A constant of this name, or a literal when the name is empty. -/
  | constantAssigned (name : String)
  | notAssignable
  | assignmentForEquality
  | misplacedBreak
  | misplacedFunction
  | misplacedReceiver
  | badIndex (message : String)
  | fallbackNotLast
  | fallbackGuarded
  | numberAfterRange
  | tooComplex
  deriving DecidableEq, Repr, Inhabited

namespace SyntaxFault

/-- What is wrong, in words. -/
def text : SyntaxFault → String
  | token fault => fault.text
  | missing sign purpose => s!"Expecting '{sign}' {purpose}"
  | reserved word =>
    s!"'{word}' is a reserved " ++ if Token.properName word.toList then "keyword" else "symbol"
  | unknownOperator sign => s!"Unknown operator: '{sign}'"
  | incomplete => "Script is incomplete"
  | nameExpected => "Expecting name of a variable"
  | propertyExpected => "Expecting name of a property"
  | functionNameExpected => "Expecting function name"
  | parametersExpected function => s!"Expecting parameters for function {function}"
  | bodyExpected function =>
    "Expecting body statement block for " ++
      if function.isEmpty then "anonymous function" else s!"function {function}"
  | duplicateParameter function parameter =>
    s!"Duplicated parameter {parameter} for function {function}"
  | duplicateFunction function 0 => s!"Function {function} with no parameters already exists"
  | duplicateFunction function 1 => s!"Function {function} with 1 parameter already exists"
  | duplicateFunction function n => s!"Function {function} with {n} parameters already exists"
  | duplicateProperty name => s!"Duplicated property for object map literal: {name}"
  | duplicateVariable name => s!"Duplicated variable name: {name}"
  | wrongKind expected actual => s!"Expecting {expected}, not {actual}"
  | expressionExpected kind => s!"Expecting {kind} expression"
  | constantAssigned "" => "Cannot assign to a constant value"
  | constantAssigned name => s!"Cannot assign to constant {name}"
  | notAssignable => "Expression cannot be assigned to"
  | assignmentForEquality => "Possibly a typo of '=='?"
  | misplacedBreak => "Break statement should only be used inside a loop"
  | misplacedFunction =>
    "Function definitions must be at global level and cannot be inside a block or another function"
  | misplacedReceiver => "'this' can only be used in functions"
  | badIndex message => message
  | fallbackNotLast => "Default switch case must be the last"
  | fallbackGuarded => "This switch case cannot have a condition"
  | numberAfterRange => "Numeric switch case cannot follow a range case"
  | tooComplex => "Expression exceeds maximum complexity"

end SyntaxFault

end CollectionRunner
