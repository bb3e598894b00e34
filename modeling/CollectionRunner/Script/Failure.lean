import CollectionRunner.Script.Datum
import CollectionRunner.Script.Result

/-!
# Failures of scripts

A running script fails because it throws, or because of a fault of its own making. A failure that
leaves a function or a module is wrapped, so that every wrapper says where it passed. What is
reported of a failure is that of its root, the failure inside all wrappers.
-/

namespace CollectionRunner

/-- A place in the text of a script, both numbers from one. -/
structure Position where
  line : Nat
  column : Nat
  deriving DecidableEq, Repr, Inhabited

/-- What a script can do wrong while it runs. -/
inductive ScriptFault
  | variableNotFound (name : String)
  | functionNotFound (signature : String)
  | moduleNotFound (name : String)
  | noProperty (message : String)
  | noIndexer (type : String)
  | arrayBounds (length : Nat) (index : Int64)
  | stringBounds (length : Nat) (index : Int64)
  | bitBounds (length : Nat) (index : Int64)
  | arithmetic (message : String)
  | mismatch (expected actual : String)
  | notIterable
  | constantAssigned (name : String)
  | constantChanged (function : String)
  | receiverMissing
  | nestedTooDeep
  | tooLarge (what : String)
  | terminated
  deriving DecidableEq, Repr, Inhabited

namespace ScriptFault

/-- Name of the kind of fault. -/
def name : ScriptFault → String
  | variableNotFound _ => "ErrorVariableNotFound"
  | functionNotFound _ => "ErrorFunctionNotFound"
  | moduleNotFound _ => "ErrorModuleNotFound"
  | noProperty _ => "ErrorDotExpr"
  | noIndexer _ => "ErrorIndexingType"
  | arrayBounds _ _ => "ErrorArrayBounds"
  | stringBounds _ _ => "ErrorStringBounds"
  | bitBounds _ _ => "ErrorBitFieldBounds"
  | arithmetic _ => "ErrorArithmetic"
  | mismatch _ _ => "ErrorMismatchDataType"
  | notIterable => "ErrorFor"
  | constantAssigned _ => "ErrorAssignmentToConstant"
  | constantChanged _ => "ErrorNonPureMethodCallOnConstant"
  | receiverMissing => "ErrorUnboundThis"
  | nestedTooDeep => "ErrorStackOverflow"
  | tooLarge _ => "ErrorDataTooLarge"
  | terminated => "ErrorTerminated"

/-- Message of an index outside a container that holds `length` of the things named. -/
def boundsText (container one many : String) (length : Nat) (index : Int64) : String :=
  let start := s!"{container} index {index.toInt} out of bounds: "
  match length with
  | 0 => start ++ container.map Char.toLower ++ " is empty"
  | 1 => start ++ "only 1 " ++ one ++ " in " ++ container.map Char.toLower
  | n => start ++ s!"only {n} " ++ many ++ " in " ++ container.map Char.toLower

/-- The fault in words. -/
def text : ScriptFault → String
  | variableNotFound name => "Variable not found: " ++ name
  | functionNotFound signature => "Function not found: " ++ signature
  | moduleNotFound name => "Module not found: " ++ name
  | noProperty message => message
  | noIndexer type => "Indexer unavailable: " ++ type
  | arrayBounds length index => boundsText "Array" "element" "elements" length index
  | stringBounds length index => boundsText "String" "character" "characters" length index
  | bitBounds length index => boundsText "Bit-field" "bit" "bits" length index
  | arithmetic message => message
  | mismatch expected actual => s!"Data type incorrect: {actual} (expecting {expected})"
  | notIterable => "For loop expects iterable type"
  | constantAssigned name => "Cannot modify constant " ++ name
  | constantChanged function => s!"Non-pure method '{function}' cannot be called on constant"
  | receiverMissing => "'this' not bound"
  | nestedTooDeep => "Stack overflow"
  | tooLarge what => what ++ " too large"
  | terminated => "Script terminated"

/-- What a script that catches the fault learns besides its kind, message and place. -/
def details : ScriptFault → List (String × Datum)
  | variableNotFound name => [("variable", .text name)]
  | functionNotFound signature => [("function", .text signature)]
  | moduleNotFound name => [("module", .text name)]
  | noProperty message => [("property", .text message)]
  | noIndexer type => [("type", .text type)]
  | arrayBounds length index => [("length", .int (Int64.ofNat length)), ("index", .int index)]
  | stringBounds length index => [("length", .int (Int64.ofNat length)), ("index", .int index)]
  | bitBounds length index => [("length", .int (Int64.ofNat length)), ("index", .int index)]
  | mismatch expected actual => [("requested", .text expected), ("actual", .text actual)]
  | constantAssigned name => [("variable", .text name)]
  | constantChanged function => [("function", .text function)]
  | _ => []

/-- Whether the fault ends the script whatever it tries: its limits are reached. -/
def isFinal : ScriptFault → Bool
  | nestedTooDeep => true
  | tooLarge _ => true
  | terminated => true
  | _ => false

end ScriptFault

/-- Why a script failed. -/
inductive Failure
  | thrown (value : Datum) (place : Option Position)
  | fault (f : ScriptFault) (place : Option Position)
  | inFunction (name : String) (inner : Failure) (place : Option Position)
  | inModule (name : String) (inner : Failure) (place : Option Position)
  deriving Repr, Inhabited

namespace Failure

/-! ## Wrappers -/

/-- Where the failure says it happened. -/
def place : Failure → Option Position
  | thrown _ place => place
  | fault _ place => place
  | inFunction _ _ place => place
  | inModule _ _ place => place

/-- The failure at another place. -/
def placed (place : Option Position) : Failure → Failure
  | thrown value _ => thrown value place
  | fault f _ => fault f place
  | inFunction name inner _ => inFunction name inner place
  | inModule name inner _ => inModule name inner place

/-- The failure at a place, unless it already has one. -/
def atLeast (place : Position) (f : Failure) : Failure :=
  match f.place with
  | none => f.placed (some place)
  | some _ => f

/-- The failure inside all wrappers. -/
def root : Failure → Failure
  | inFunction _ inner _ => inner.root
  | inModule _ inner _ => inner.root
  | f => f

/-- Whether the script was stopped from outside. -/
def isTermination (f : Failure) : Bool :=
  match f.root with
  | fault .terminated _ => true
  | _ => false

/-- Whether the script cannot catch the failure. -/
def isFinal (f : Failure) : Bool :=
  match f.root with
  | fault f _ => f.isFinal
  | _ => false

/-- The matcher that failed, if that is why. -/
def matcherFailure? (f : Failure) : Option MatcherFailure :=
  match f.root with
  | thrown (.handle (.failure m)) _ => some m
  | _ => none

/-! ## Words -/

/-- A place as messages end with it. -/
def placeText : Option Position → String
  | some p => s!" (line {p.line}, position {p.column})"
  | none => ""

/-- The failure in words, with its place. -/
def text : Failure → String
  | thrown value place =>
    (match value with
      | .unit => "Runtime error"
      | .text "" => "Runtime error"
      | value => "Runtime error: " ++ value.reportText) ++ placeText place
  | fault f place => f.text ++ placeText place
  | inFunction name inner place =>
    s!"{inner.text} in call to function '{name}'" ++ placeText place
  | inModule name inner place =>
    (if name.isEmpty then "Error in module > " ++ inner.text
      else s!"Error in module '{name}' > {inner.text}") ++ placeText place

/-- Decimal digits of any script. -/
def isDigit (c : Char) : Bool := Text.category c == .Nd

/-- The decimal digits a text starts with, and what follows them. -/
def splitDigits (cs : List Char) : List Char × List Char :=
  (cs.takeWhile isDigit, cs.dropWhile isDigit)

/-- What follows a literal text that `cs` starts with. -/
def afterText : List Char → List Char → Option (List Char)
  | [], cs => some cs
  | _ :: _, [] => none
  | c :: expected, d :: cs => if c == d then afterText expected cs else none

/-- A place that a text starts with, after white space: the digits of its two numbers, and what
follows it. -/
def afterPlace (cs : List Char) : Option (List Char × List Char × List Char) := do
  let (line, cs) := splitDigits (← afterText "(line ".toList (cs.dropWhile Text.blank))
  let (column, cs) := splitDigits (← afterText ", position ".toList cs)
  let cs ← afterText ")".toList cs
  if line.isEmpty || column.isEmpty then none else some (line, column, cs)

theorem splitDigits_length (cs : List Char) : (splitDigits cs).2.length ≤ cs.length := by
  simpa [splitDigits] using (List.dropWhile_sublist _).length_le

/-- What follows an expected start is shorter by that start. -/
theorem afterText_length {expected cs rest : List Char} (h : afterText expected cs = some rest) :
    rest.length + expected.length = cs.length := by
  induction expected generalizing cs with
  | nil => simp_all [afterText]
  | cons c expected ih =>
    cases cs with
    | nil => simp [afterText] at h
    | cons d cs =>
      simp only [afterText] at h
      split at h
      · have := ih h
        simp only [List.length_cons]
        omega
      · simp at h

/-- What follows a place is shorter than the text before it, so leaving out places ends. -/
theorem afterPlace_length {cs line column rest : List Char}
    (h : afterPlace cs = some (line, column, rest)) : rest.length < cs.length := by
  simp only [afterPlace, Option.bind_eq_bind, Option.bind_eq_some_iff] at h
  obtain ⟨a, ha, b, hb, c, hc, h⟩ := h
  split at h
  · simp at h
  · simp only [Option.some.injEq, Prod.mk.injEq] at h
    obtain ⟨-, -, rfl⟩ := h
    have blanks := (List.dropWhile_sublist Text.blank (l := cs)).length_le
    have first := afterText_length ha
    have second := afterText_length hb
    have third := afterText_length hc
    have := splitDigits_length a
    have := splitDigits_length b
    have len : ")".toList.length = 1 := by decide
    omega

/-- A text without the places in it and the white space before them. -/
def withoutPlaces (cs : List Char) : List Char :=
  match found : afterPlace cs with
  | some (_, _, rest) =>
    have := afterPlace_length found
    withoutPlaces rest
  | none =>
    match cs with
    | [] => []
    | c :: rest => c :: withoutPlaces rest
termination_by cs.length

/-- The first place in a text. -/
def firstPlace : List Char → Option (List Char × List Char)
  | [] => none
  | c :: rest =>
    match afterPlace (c :: rest) with
    | some (line, column, _) => some (line, column)
    | none => firstPlace rest

/-- What is reported of the failure, without any place. -/
def message (f : Failure) : String :=
  match f.matcherFailure? with
  | some m => m.message
  | none =>
    let text := match f.root with
      | thrown (.text s) _ => s
      | thrown value _ => "Uncaught " ++ value.reportText
      | root => root.text
    Text.trim (String.ofList (withoutPlaces text.toList))

/-- A number of a place in a text. -/
def placeNumber (digits : List Char) : Option Nat :=
  if digits.all Char.isDigit then
    let n := Number.digitsValue digits
    if n < wordBound then some n else none
  else none

/-- Line and column that are reported: those of the root, else those of the outermost wrapper, else
those in the text. -/
def location (f : Failure) : Option Nat × Option Nat :=
  match f.root.place with
  | some p => (some p.line, some p.column)
  | none =>
    match f.place with
    | some p => (some p.line, some p.column)
    | none =>
      match firstPlace f.text.toList with
      | some (line, column) => (placeNumber line, placeNumber column)
      | none => (none, none)

/-- How the failure of a script is reported. -/
def report (f : Failure) (interrupted : Bool) (budgetMs : Nat) : ScriptError :=
  if interrupted && f.isTermination then .timeout budgetMs
  else .execution f.message f.location.1 f.location.2

/-- What a script that catches the failure gets: what was thrown, or a map that describes it. -/
def caught (f : Failure) : Datum :=
  match f.root with
  | thrown value _ => value
  | _ =>
    let (kind, details) := match f with
      | fault f _ => (f.name, f.details)
      | inFunction name _ _ =>
        ("ErrorInFunctionCall", [("function", .text name), ("source", .text "")])
      | inModule name _ _ => ("ErrorInModule", [("module", .text name)])
      | thrown _ _ => ("ErrorRuntime", [])
    let place := match f.place with
      | some p => [("line", .int (Int64.ofNat p.line)), ("position", .int (Int64.ofNat p.column))]
      | none => []
    let entries := ("error", .text kind) :: ("message", .text (f.placed none).text) :: place ++ details
    .map (entries.foldl (fun map (name, value) => ScriptValue.insertEntry name value map) [])

end Failure

end CollectionRunner
