import CollectionRunner.Script.Lexeme
import CollectionRunner.Script.Prune
import CollectionRunner.Script.SyntaxFault

/-!
# Reading scripts

`Program.parse` reads the tree of a script. What can stand at a place is a `Goal`; the rule of a goal
reads its parts through `self`, and `read` ties the rules together. Every goal reads a token or hands
on to a smaller goal, so the number of tokens bounds the depth of the reading.
-/

namespace CollectionRunner

namespace Parse

/-- What the reader knows. -/
structure State where
  lexemes : List Lexeme
  /-- Variables in sight in the function that is read, innermost first, and whether they are
  constant. -/
  bindings : List (String × Bool)
  /-- Names that the function mentions but does not have, and where it first does. -/
  captured : List (String × Position)
  functions : List Function
  anonymous : Array Function
  deriving Inhabited

/-- Where something is read. -/
structure Setting where
  /-- Not inside of a block. -/
  outermost : Bool
  /-- Inside of a loop. -/
  looping : Bool
  /-- Inside of a function. -/
  inFunction : Bool
  /-- Whether a bar ends an expression. -/
  barEnds : Bool
  deriving Inhabited

/-- The setting inside of a block. -/
def Setting.inner (s : Setting) : Setting := { s with outermost := false }

/-- The setting inside of a loop. -/
def Setting.loop (s : Setting) : Setting := { s.inner with looping := true }

/-- The setting in the body of a function. -/
def Setting.function : Setting := ⟨false, false, true, false⟩

end Parse

/-- A reader: reads from the state or says what is wrong and where. -/
abbrev Parse := StateT Parse.State (Except (SyntaxFault × Position))

namespace Parse

/-- What can stand at a place. -/
inductive Goal
  | statement
  | block
  | expression
  | operand
  | primary
  /-- What goes on after `left` with operators that bind tighter than `bound`. -/
  | operators (bound : Nat) (left : Expr)
  /-- What goes on after `base` with steps, those read so far being last first. -/
  | steps (base : Expr) (seen : List (Step Expr)) (place : Option Position)
  | alternative

/-- Reads what a goal stands for. -/
abbrev Self := Setting → Goal → Parse Expr

/-! ## Tokens -/

/-- Say what is wrong. -/
def wrong (fault : SyntaxFault) (place : Position) : Parse α := throw (fault, place)

/-- The next token. -/
def peek : Parse Lexeme := do
  match (← get).lexemes with
  | l :: _ => return l
  | [] => return ⟨.ending, ⟨1, 1⟩⟩

/-- Read the next token; the last one stays. -/
def next : Parse Lexeme := do
  let s ← get
  match s.lexemes with
  | l :: m :: rest =>
    set { s with lexemes := m :: rest }
    return l
  | [l] => return l
  | [] => return ⟨.ending, ⟨1, 1⟩⟩

/-- Number of tokens left. -/
def left : Parse Nat := return (← get).lexemes.length

/-- Whether a token is this sign. -/
def isSign (sign : String) : Token → Bool
  | .sign s => s == sign
  | _ => false

/-- Read this sign if it comes next. -/
def accept (sign : String) : Parse Bool := do
  if isSign sign (← peek).token then
    let _ ← next
    return true
  else return false

/-- The next token is not what was to come, which is said by `fault` unless it cannot be read. -/
def unlike (l : Lexeme) (fault : SyntaxFault) : Parse α :=
  match l.token with
  | .bad f => wrong (.token f) l.place
  | _ => wrong fault l.place

/-- Read this sign, which has a purpose. -/
def expect (sign purpose : String) : Parse Position := do
  let l ← peek
  if isSign sign l.token then return (← next).place
  else unlike l (.missing sign purpose)

/-- Read the name of a variable. -/
def variableName : Parse (String × Position) := do
  let l ← next
  match l.token with
  | .name s => return (s, l.place)
  | .reserved s =>
    if Token.properName s.toList then wrong (.reserved s) l.place
    else wrong .nameExpected l.place
  | .bad f => wrong (.token f) l.place
  | _ => wrong .nameExpected l.place

/-! ## Variables -/

/-- Bring a variable into sight. -/
def introduce (name : String) (fixed : Bool) : Parse Unit :=
  modify fun s => { s with bindings := (name, fixed) :: s.bindings }

/-- Read something whose variables go out of sight after it. -/
def locally (x : Parse α) : Parse α := do
  let before := (← get).bindings
  let a ← x
  modify fun s => { s with bindings := before }
  return a

/-- Note that a variable is mentioned; one that is not in sight is captured, unless it is a
function. -/
def mention (name : String) (place : Position) : Parse Unit :=
  modify fun s =>
    if s.bindings.any (·.1 == name) || s.captured.any (·.1 == name) ||
        s.functions.any (·.name == .named name) then s
    else { s with captured := s.captured ++ [(name, place)] }

/-! ## Kinds of expressions -/

/-- What an expression is when it cannot be a condition. -/
def unlikeCondition : Expr → Option String
  | .constant .unit _ => some "()"
  | .constant (.int _) _ => some "a number"
  | .constant (.float _) _ => some "a floating-point number"
  | .constant (.char _) _ => some "a character"
  | .constant (.text _) _ => some "a string"
  | .template _ _ => some "a string"
  | .list _ _ => some "an array"
  | .map _ _ => some "an object map"
  | _ => none

/-- What an expression is when it cannot be gone through. -/
def unlikeSequence : Expr → Option String
  | .constant .unit _ => some "()"
  | .constant (.bool _) _ => some "a boolean"
  | .constant (.int _) _ => some "a number"
  | .constant (.float _) _ => some "a floating-point number"
  | .constant (.char _) _ => some "a character"
  | .constant (.text _) _ => some "a string"
  | .map _ _ => some "an object-map"
  | _ => none

/-- Refuse an expression that can be no condition. -/
def ensureCondition (e : Expr) : Parse Unit :=
  match unlikeCondition e with
  | some kind => wrong (.wrongKind "a boolean expression" kind) e.start
  | none => return ()

/-- Refuse a block or the end of the script where a condition is to come. -/
def ensureExpression : Parse Unit := do
  let l ← peek
  match l.token with
  | .sign "\x7b" => wrong (.expressionExpected "a boolean") l.place
  | .ending => wrong (.expressionExpected "a boolean") l.place
  | _ => return ()

/-- Refuse an assignment where a condition was read. -/
def ensureNoAssignment : Parse Unit := do
  let l ← peek
  if isSign "=" l.token then wrong .assignmentForEquality l.place

/-- Read a condition. -/
def condition (self : Self) (s : Setting) : Parse Expr := do
  ensureExpression
  let e ← self s.inner .expression
  ensureCondition e
  ensureNoAssignment
  return e

/-! ## Operators -/

/-- How tightly a sign between two operands binds; zero when it is none. -/
def binding : String → Nat
  | "||" => 30
  | "|" => 30
  | "^" => 30
  | "&&" => 60
  | "&" => 60
  | "==" => 90
  | "!=" => 90
  | "in" => 110
  | "!in" => 110
  | "<" => 130
  | "<=" => 130
  | ">" => 130
  | ">=" => 130
  | "??" => 135
  | ".." => 140
  | "..=" => 140
  | "+" => 150
  | "-" => 150
  | "*" => 180
  | "/" => 180
  | "%" => 180
  | "**" => 190
  | "<<" => 210
  | ">>" => 210
  | _ => 0

/-- The operator of a sign. -/
def operator? : String → Option Operator
  | "+" => some .add
  | "-" => some .subtract
  | "*" => some .multiply
  | "/" => some .divide
  | "%" => some .modulo
  | "**" => some .power
  | "<<" => some .shiftLeft
  | ">>" => some .shiftRight
  | "&" => some .bitAnd
  | "|" => some .bitOr
  | "^" => some .bitXor
  | "==" => some .equal
  | "!=" => some .unequal
  | "<" => some .less
  | "<=" => some .lessOrEqual
  | ">" => some .greater
  | ">=" => some .greaterOrEqual
  | ".." => some .range
  | "..=" => some .rangeInclusive
  | _ => none

/-- The operator of a sign that assigns. -/
def assigning? (sign : String) : Option Operator :=
  ["+", "-", "*", "/", "%", "**", "<<", ">>", "&", "|", "^"].findSome? fun s =>
    if s ++ "=" == sign then operator? s else none

/-- How tightly the next token binds, with its sign. -/
def nextBinding (s : Setting) : Parse (Nat × String) := do
  let l ← peek
  match l.token with
  | .sign sign => return (if s.barEnds && sign == "|" then 0 else binding sign, sign)
  | .reserved word =>
    if Token.properName word.toList then return (0, "")
    else wrong (.unknownOperator word) l.place
  | _ => return (0, "")

/-- The expression of a sign between two operands. -/
def combine (sign : String) (left right : Expr) (place : Position) : Parse Expr :=
  match sign with
  | "&&" => do
    ensureCondition right
    ensureCondition left
    return .both left right place
  | "||" => do
    ensureCondition right
    ensureCondition left
    return .either left right place
  | "??" => return .orElse left right place
  | "in" => return .contains false left right place
  | "!in" => return .contains true left right place
  | sign =>
    match operator? sign with
    | some op => return .binary op left right place
    | none => wrong (.unknownOperator sign) place

/-- Operators after an expression. -/
def operators (self : Self) (s : Setting) (bound : Nat) (left : Expr) : Parse Expr := do
  let (tightness, sign) ← nextBinding s
  if tightness ≤ bound then return left
  else
    let l ← next
    let right ← self s .operand
    let (following, _) ← nextBinding s
    let right ←
      if sign == "**" && following == tightness then
        self s (.operators (tightness - 1) right)
      else if tightness < following then self s (.operators tightness right)
      else pure right
    let whole ← combine sign left right l.place
    self s (.operators bound whole)

/-! ## Lists of things -/

/-- Read the arguments of a call after its opening bracket. -/
def arguments (self : Self) (s : Setting) (name : String) :
    Nat → List Expr → Parse (List Expr)
  | 0, _ => do wrong .tooComplex (← peek).place
  | fuel + 1, seen => do
    let closing := s!"to close the arguments list of this function call '{name}'"
    let l ← peek
    match l.token with
    | .sign ")" =>
      let _ ← next
      return seen.reverse
    | .ending =>
      if seen.isEmpty then wrong (.missing ")" closing) l.place else wrong .incomplete l.place
    | _ =>
      let e ← self s.inner .expression
      let l ← peek
      match l.token with
      | .sign ")" => arguments self s name fuel (e :: seen)
      | .sign "," =>
        let _ ← next
        arguments self s name fuel (e :: seen)
      | .ending => wrong (.missing ")" closing) l.place
      | _ => unlike l (.missing "," s!"to separate the arguments to function call '{name}'")

/-- Read the items of a list after its opening bracket. -/
def listItems (self : Self) (s : Setting) : Nat → List Expr → Parse (List Expr)
  | 0, _ => do wrong .tooComplex (← peek).place
  | fuel + 1, seen => do
    let closing := "to end this array literal"
    let l ← peek
    match l.token with
    | .sign "]" =>
      let _ ← next
      return seen.reverse
    | .ending => wrong (.missing "]" closing) l.place
    | _ =>
      let e ← self s.inner .expression
      let l ← peek
      match l.token with
      | .sign "," =>
        let _ ← next
        listItems self s fuel (e :: seen)
      | .sign "]" => listItems self s fuel (e :: seen)
      | .ending => wrong (.missing "]" closing) l.place
      | _ => unlike l (.missing "," "to separate the items of this array literal")

/-- Read the name of an entry of a map that has the names `known` so far. -/
def entryName (known : List String) (closing : String) : Parse String := do
  let l ← next
  let fresh (name : String) : Parse String :=
    if known.contains name then wrong (.duplicateProperty name) l.place else return name
  match l.token with
  | .name name => fresh name
  | .text name => fresh name
  | .reserved word => wrong (.reserved word) l.place
  | .ending => wrong (.missing "\x7d" closing) l.place
  | _ => unlike l .propertyExpected

/-- Read the entries of a map after its opening brace. -/
def mapEntries (self : Self) (s : Setting) :
    Nat → List (String × Expr) → Parse (List (String × Expr))
  | 0, _ => do wrong .tooComplex (← peek).place
  | fuel + 1, seen => do
    let closing := "to end this object map literal"
    let l ← peek
    match l.token with
    | .sign "\x7d" =>
      let _ ← next
      return seen.reverse
    | _ =>
      let name ← entryName (seen.map Prod.fst) closing
      let _ ← expect ":" s!"to follow the property '{name}' in this object map literal"
      let e ← self s.inner .expression
      let seen := (name, e) :: seen
      let l ← peek
      match l.token with
      | .sign "," =>
        let _ ← next
        mapEntries self s fuel seen
      | .sign "\x7d" => mapEntries self s fuel seen
      | .name _ => wrong (.missing "," "to separate the items of this object map literal") l.place
      | _ => unlike l (.missing "\x7d" closing)

/-- Read what goes on after a block in a text: further texts and blocks. -/
def templateParts (self : Self) (s : Setting) : Nat → List Expr → Parse (List Expr)
  | 0, _ => do wrong .tooComplex (← peek).place
  | fuel + 1, seen => do
    let block ← self s.inner .block
    let seen := block :: seen
    let l ← next
    let extended (text : String) :=
      if text.isEmpty then seen else .constant (.text text) l.place :: seen
    match l.token with
    | .text text => return (extended text).reverse
    | .opened text => templateParts self s fuel (extended text)
    | _ => unlike l (.token .unterminated)

/-- Read the parameters of a function after its opening sign. -/
def parameters (function closingSign closing separating : String) :
    Nat → List String → Parse (List String)
  | 0, _ => do wrong .tooComplex (← peek).place
  | fuel + 1, seen => do
    let l ← next
    match l.token with
    | .name name =>
      if seen.contains name then wrong (.duplicateParameter function name) l.place
      else
        let m ← next
        match m.token with
        | .sign "," => parameters function closingSign closing separating fuel (name :: seen)
        | .sign sign =>
          if sign == closingSign then return (name :: seen).reverse
          else wrong (.missing "," separating) m.place
        | _ => unlike m (.missing "," separating)
    | .sign sign =>
      if sign == closingSign then return seen.reverse
      else wrong (.missing closingSign closing) l.place
    | _ => unlike l (.missing closingSign closing)

/-! ## Functions -/

/-- Read the body of a function, and find out what it captures. -/
def functionBody (names : List String) (body : Parse Expr) :
    Parse (Expr × List (String × Position)) := do
  let outer ← get
  set { outer with bindings := (names.map fun n => (n, false)).reverse, captured := [] }
  let e ← body
  let captured := (← get).captured
  modify fun s => { s with bindings := outer.bindings, captured := outer.captured }
  return (e, captured)

/-- Read a function without a name. -/
def anonymous (self : Self) (place : Position) (empty : Bool) : Parse Expr := do
  let names ←
    if empty then pure []
    else
      parameters "" "|" "to close the parameters list of anonymous function or closure"
        "to separate the parameters of anonymous function" (← left) []
  let (body, captured) ← functionBody names (self .function .statement)
  for (name, first) in captured do
    mention name first
  let s ← get
  let index := s.anonymous.size
  let function : Function := ⟨.anonymous index, captured.map Prod.fst ++ names, body⟩
  set { s with anonymous := s.anonymous.push function }
  return .function index captured place

/-- Read a function with a name, after its keyword. -/
def function (self : Self) (place : Position) : Parse Expr := do
  let l ← next
  let name ← match l.token with
    | .name name => pure name
    | .reserved word => wrong (.reserved word) l.place
    | _ => unlike l .functionNameExpected
  let l ← next
  let names ← match l.token with
    | .sign "()" => pure []
    | .sign "(" =>
      parameters name ")" s!"to close the parameters list of function '{name}'"
        s!"to separate the parameters of function '{name}'" (← left) []
    | _ => wrong (.parametersExpected name) l.place
  let l ← peek
  if !isSign "\x7b" l.token then wrong (.bodyExpected name) l.place
  let (body, _) ← functionBody names (self .function .block)
  let same (f : Function) := f.name == .named name && f.parameters.length == names.length
  if (← get).functions.any same then wrong (.duplicateFunction name names.length) l.place
  modify fun s => { s with functions := s.functions ++ [⟨.named name, names, body⟩] }
  return .nothing place

/-! ## Statements -/

/-- Whether a statement ends by itself, without a semicolon. -/
def endsItself : Expr → Bool
  | .choose .. => true
  | .switch .. => true
  | .block .. => true
  | .loop .. => true
  | .each .. => true
  | .attempt .. => true
  | _ => false

/-- Read statements up to a closing brace, or up to the end of the script outside of blocks. -/
def statements (self : Self) (s : Setting) : Nat → List Expr → Parse (List Expr)
  | 0, _ => do wrong .tooComplex (← peek).place
  | fuel + 1, seen => do
    let l ← peek
    match l.token, s.outermost with
    | .ending, true => return seen.reverse
    | .ending, false => wrong (.missing "\x7d" "to terminate this block") l.place
    | .sign "\x7d", false =>
      let _ ← next
      return seen.reverse
    | _, _ =>
      let e ← self s .statement
      match e with
      | .nothing _ => statements self s fuel seen
      | e =>
        let l ← peek
        match l.token with
        | .sign ";" =>
          let _ ← next
          statements self s fuel (e :: seen)
        | .ending =>
          if s.outermost || endsItself e then statements self s fuel (e :: seen)
          else wrong (.missing ";" "to terminate this statement") l.place
        | .sign "\x7d" =>
          if !s.outermost || endsItself e then statements self s fuel (e :: seen)
          else wrong (.missing ";" "to terminate this statement") l.place
        | _ =>
          if endsItself e then statements self s fuel (e :: seen)
          else unlike l (.missing ";" "to terminate this statement")

/-- Read a block. -/
def block (self : Self) (s : Setting) : Parse Expr := do
  let p ← expect "\x7b" "to start a statement block"
  locally do
    return .block (← statements self s.inner (← left) []) p

/-- Read a condition and what depends on it, after the keyword. -/
def choose (self : Self) (s : Setting) (place : Position) : Parse Expr := do
  let guard ← condition self s
  let consequence ← self s.inner .block
  if ← accept "else" then
    return .choose guard consequence (some (← self s.inner .alternative)) place
  else return .choose guard consequence none place

/-- Read what comes after `else`. -/
def alternative (self : Self) (s : Setting) : Parse Expr := do
  let l ← peek
  if isSign "if" l.token then
    let _ ← next
    choose self s l.place
  else self s .block

/-- Read a loop that does its body first, after the keyword. -/
def again (self : Self) (s : Setting) (place : Position) : Parse Expr := do
  let body ← self s.loop .block
  let l ← next
  let value ← match l.token with
    | .sign "while" => pure true
    | .sign "until" => pure false
    | _ => wrong (.missing "while" "for the do statement") l.place
  return .again body (← condition self s) value place

/-- Read a loop over the items of something, after the keyword. -/
def each (self : Self) (s : Setting) (place : Position) : Parse Expr := do
  let (item, counter) ←
    if ← accept "(" then do
      let (item, _) ← variableName
      let l ← next
      if !isSign "," l.token then
        wrong (.missing "," "after the iteration variable name") l.place
      let (counter, p) ← variableName
      if counter == item then wrong (.duplicateVariable counter) p
      let l ← next
      if !isSign ")" l.token then wrong (.missing ")" "to close the iteration variable") l.place
      pure (item, some counter)
    else do
      let (item, _) ← variableName
      pure (item, none)
  let _ ← expect "in" "after the iteration variable"
  ensureExpression
  let source ← self s.inner .expression
  if let some kind := unlikeSequence source then
    wrong (.wrongKind "an iterable value" kind) source.start
  locally do
    if let some counter := counter then introduce counter false
    introduce item false
    return .each item counter source (← self s.loop .block) place

/-- The labels of a case, of which `ranged` says whether a range came before. -/
def labels : Bool → List Expr → Parse (List Label)
  | _, [] => return []
  | ranged, e :: rest =>
    match e.literal? with
    | some (.range a b inclusive) => do
      return .range a b inclusive :: (← labels true rest)
    | some d => do
      if let .int _ := d then
        if ranged then wrong .numberAfterRange e.start
      return .literal d :: (← labels ranged rest)
    | none => wrong (.expressionExpected "a literal") e.start

/-- Read the expressions of a case, separated by bars. -/
def caseItems (self : Self) (s : Setting) : Nat → List Expr → Parse (List Expr)
  | 0, _ => do wrong .tooComplex (← peek).place
  | fuel + 1, seen => do
    let e ← tryCatchThe (SyntaxFault × Position) (self { s.inner with barEnds := true } .expression)
      fun (_, place) => wrong (.expressionExpected "literal") place
    if ← accept "|" then caseItems self s fuel (e :: seen) else return (e :: seen).reverse

/-- Whether a label of a case is a range. -/
def Label.isRange : Label → Bool
  | .range .. => true
  | .literal _ => false

/-- Read the cases of a switch after its opening brace. -/
def cases (self : Self) (s : Setting) :
    Nat → List (Case Expr) → Option (Expr × Position) → Parse (List (Case Expr) × Option Expr)
  | 0, _, _ => do wrong .tooComplex (← peek).place
  | fuel + 1, seen, fallback => do
    let closing := "to end this switch block"
    let l ← peek
    let action : Parse Expr := do
      let _ ← expect "=>" "in this switch case"
      let e ← self s.inner .statement
      let l ← peek
      match l.token with
      | .sign "," =>
        let _ ← next
        return e
      | .sign "\x7d" => return e
      | .ending => wrong (.missing "\x7d" closing) l.place
      | _ =>
        if endsItself e then return e
        else unlike l (.missing "," "to separate the items in this switch block")
    match l.token, fallback with
    | .sign "\x7d", _ =>
      let _ ← next
      return (seen.reverse, fallback.map Prod.fst)
    | .ending, _ => wrong (.missing "\x7d" closing) l.place
    | .sign "_", none =>
      let _ ← next
      let m ← peek
      if isSign "if" m.token then wrong .fallbackGuarded m.place
      cases self s fuel seen (some (← action, l.place))
    | _, some (_, place) => wrong .fallbackNotLast place
    | _, none =>
      let items ← caseItems self s (← left) []
      let guard ← if ← accept "if" then some <$> condition self s else pure none
      let ranged := seen.any fun c => c.labels.any Label.isRange
      let labels ← labels ranged items
      let e ← action
      cases self s fuel (⟨labels, guard, e⟩ :: seen) none

/-- Read a switch after its keyword. -/
def switch (self : Self) (s : Setting) (place : Position) : Parse Expr := do
  let subject ← self s.inner .expression
  let _ ← expect "\x7b" "to start a switch block"
  let (cases, fallback) ← cases self s (← left) [] none
  return .switch subject cases fallback place

/-- Read the rest of a `try`, after its keyword. -/
def attempt (self : Self) (s : Setting) (place : Position) : Parse Expr := do
  let body ← self s.inner .block
  let l ← peek
  if !isSign "catch" l.token then wrong (.missing "catch" "for the 'try' statement") l.place
  let _ ← next
  if ← accept "(" then
    let (name, _) ← variableName
    let l ← next
    if !isSign ")" l.token then wrong (.missing ")" "to enclose the catch variable") l.place
    locally do
      introduce name false
      return .attempt body (some name) (← self s.inner .block) place
  else return .attempt body none (← self s.inner .block) place

/-- Read the declaration of a variable, after its keyword. -/
def declare (self : Self) (s : Setting) (fixed : Bool) (place : Position) : Parse Expr := do
  let (name, _) ← variableName
  let value ← if ← accept "=" then some <$> self s.inner .expression else pure none
  introduce name fixed
  return .declare name fixed value place

/-- Read the path of a module, after its keyword, and the name that the module may be given. -/
def require (self : Self) (s : Setting) (place : Position) : Parse Expr := do
  let path ← self s.inner .expression
  if ← accept "as" then
    let _ ← variableName
  return .require path place

/-- Read an expression that may be missing at the end of a statement. -/
def optional (self : Self) (s : Setting) (beforeBrace : Bool) : Parse (Option Expr) := do
  match (← peek).token with
  | .ending => return none
  | .sign ";" => return none
  | .sign "\x7d" => if beforeBrace then return none else some <$> self s.inner .expression
  | _ => some <$> self s.inner .expression

/-- Where a chain of steps cannot be assigned to: at the last of its steps that is a call. -/
def calledStep : List (Step Expr) → Option Position
  | [] => none
  | .method _ _ _ p :: _ => some p
  | _ :: rest => calledStep rest

/-- Whether a chain of steps ends where there is nothing. -/
def hasOptional : List (Step Expr) → Bool
  | [] => false
  | .property optional _ _ :: rest => optional || hasOptional rest
  | .index optional _ _ _ :: rest => optional || hasOptional rest
  | .method optional _ _ _ :: rest => optional || hasOptional rest

/-- Refuse what cannot be assigned to. -/
def ensureAssignable (target : Expr) (place : Position) : Parse Unit := do
  match target with
  | .variable name p =>
    if (← get).bindings.lookup name == some true then wrong (.constantAssigned name) p
  | .chain base steps _ =>
    match calledStep steps with
    | some p => wrong .notAssignable p
    | none =>
      match base with
      | .variable _ _ => return ()
      | .receiver _ => return ()
      | base => wrong .notAssignable base.place
  | .both _ _ _ => wrong .assignmentForEquality place
  | .either _ _ _ => wrong .assignmentForEquality place
  | .orElse _ _ _ => wrong .assignmentForEquality place
  | .receiver _ => return ()
  | e => if e.isConstant then wrong (.constantAssigned "") e.start else wrong .notAssignable e.place

/-- Read an expression as a statement, and the assignment it may be. -/
def expressionStatement (self : Self) (s : Setting) : Parse Expr := do
  let target ← self s .expression
  let l ← peek
  match l.token with
  | .sign sign =>
    if sign == "=" || (assigning? sign).isSome then
      let _ ← next
      let value ← self s.inner .expression
      ensureAssignable target l.place
      return .assign (assigning? sign) target value l.place
    else return target
  | _ => return target

/-- Read a statement. -/
def statement (self : Self) (s : Setting) : Parse Expr := do
  let l ← peek
  let p := l.place
  match l.token with
  | .ending => return .nothing p
  | .sign ";" =>
    let _ ← next
    return .nothing p
  | .sign "\x7b" => self s .block
  | .sign "fn" =>
    if s.outermost then
      let _ ← next
      function self p
    else wrong .misplacedFunction p
  | .sign "if" =>
    let _ ← next
    choose self s p
  | .sign "switch" =>
    let _ ← next
    switch self s p
  | .sign "while" =>
    let _ ← next
    let guard ← condition self s
    return .loop (some guard) (← self s.loop .block) p
  | .sign "loop" =>
    let _ ← next
    return .loop none (← self s.loop .block) p
  | .sign "do" =>
    let _ ← next
    again self s p
  | .sign "for" =>
    let _ ← next
    each self s p
  | .sign "break" =>
    if s.looping then
      let _ ← next
      return .break (← optional self s true) p
    else wrong .misplacedBreak p
  | .sign "continue" =>
    if s.looping then
      let _ ← next
      return .continue p
    else wrong .misplacedBreak p
  | .sign "return" =>
    let _ ← next
    return .return (← optional self s (!s.outermost)) p
  | .sign "throw" =>
    let _ ← next
    return .throw (← optional self s (!s.outermost)) p
  | .sign "try" =>
    let _ ← next
    attempt self s p
  | .sign "let" =>
    let _ ← next
    declare self s false p
  | .sign "const" =>
    let _ ← next
    declare self s true p
  | .sign "import" =>
    let _ ← next
    require self s p
  | _ => expressionStatement self s

/-! ## Expressions -/

/-- Refuse an index that cannot be one of what it is applied to. -/
def ensureIndex (base key : Expr) : Parse Unit :=
  let notIndexable := "Only arrays, object maps and strings can be indexed"
  let scalar := match base with
    | .constant (.float _) _ => true
    | .constant (.char _) _ => true
    | .constant (.bool _) _ => true
    | .constant .unit _ => true
    | .both _ _ _ => true
    | .either _ _ _ => true
    | _ => false
  let numbered := match base with
    | .list _ _ => true
    | .constant (.text _) _ => true
    | .template _ _ => true
    | _ => false
  match key with
  | .constant (.int _) _ =>
    match base with
    | .map _ _ => wrong (.badIndex "Object map expects string index, not a number") key.start
    | _ => if scalar then wrong (.badIndex notIndexable) base.start else return ()
  | .constant (.text _) _ =>
    if numbered then
      wrong (.badIndex "Array or string expects numeric index, not a string") key.start
    else if scalar then wrong (.badIndex notIndexable) base.start
    else return ()
  | .constant (.float _) _ =>
    wrong (.badIndex "Array access expects integer index, not a float") key.start
  | .constant (.char _) _ =>
    wrong (.badIndex "Array access expects integer index, not a character") key.start
  | .constant .unit _ =>
    wrong (.badIndex "Array access expects integer index, not ()") key.start
  | .constant (.bool _) _ =>
    wrong (.badIndex "Array access expects integer index, not a boolean") key.start
  | _ => return ()

/-- Read what follows a dot: a property or a method. -/
def member (self : Self) (s : Setting) (optional : Bool) : Parse (Step Expr) := do
  let l ← next
  let called (name : String) : Parse (Option (List Expr)) := do
    let m ← peek
    match m.token with
    | .sign "()" =>
      let _ ← next
      return some []
    | .sign "(" =>
      let _ ← next
      return some (← arguments self s name (← left) [])
    | _ => return none
  match l.token with
  | .name name =>
    match ← called name with
    | some arguments => return .method optional name arguments l.place
    | none => return .property optional name l.place
  | .reserved word =>
    if Token.methodWords.contains word then
      match ← called word with
      | some arguments => return .method optional word arguments l.place
      | none => wrong (.reserved word) l.place
    else wrong (.reserved word) l.place
  | _ => unlike l .propertyExpected

/-- Steps after an expression. -/
def steps (self : Self) (s : Setting) (base : Expr) (seen : List (Step Expr))
    (place : Option Position) : Parse Expr := do
  let l ← peek
  let extended (step : Step Expr) : Parse Expr :=
    self s (.steps base (step :: seen) (some (place.getD l.place)))
  let index (optional : Bool) : Parse Expr := do
    let _ ← next
    let key ← self s.inner .expression
    if seen.isEmpty then ensureIndex base key
    let _ ← expect "]" "for a matching [ in this index expression"
    extended (.index optional key l.place key.start)
  match l.token with
  | .sign "." =>
    let _ ← next
    extended (← member self s false)
  | .sign "?." =>
    let _ ← next
    extended (← member self s true)
  | .sign "[" => index false
  | .sign "?[" => index true
  | _ =>
    match place with
    | some p => return .chain base seen.reverse p
    | none => return base

/-- Read the rest of a name with a path, after its first part. -/
def qualified (self : Self) (s : Setting) (pathPlace : Position) :
    Nat → List String → Parse Expr
  | 0, _ => do wrong .tooComplex pathPlace
  | fuel + 1, path => do
    let l ← next
    match l.token with
    | .name name =>
      let m ← peek
      match m.token with
      | .sign "::" =>
        let _ ← next
        qualified self s pathPlace fuel (path ++ [name])
      | .sign "()" =>
        let _ ← next
        return .qualified path pathPlace name [] l.place
      | .sign "(" =>
        let _ ← next
        return .qualified path pathPlace name (← arguments self s name (← left) []) l.place
      | _ => return .variable (String.intercalate "::" (path ++ [name])) pathPlace
    | .reserved word => wrong (.reserved word) l.place
    | _ => unlike l .nameExpected

/-- Read what starts with a name. -/
def named (self : Self) (s : Setting) (name : String) (place : Position) : Parse Expr := do
  let l ← peek
  match l.token with
  | .sign "()" =>
    let _ ← next
    return .call name [] place
  | .sign "(" =>
    let _ ← next
    return .call name (← arguments self s name (← left) []) place
  | .sign "::" =>
    let _ ← next
    qualified self s place (← left) [name]
  | _ =>
    mention name place
    return .variable name place

/-- Read an operand without the steps after it. -/
def atom (self : Self) (s : Setting) : Parse Expr := do
  let l ← peek
  let p := l.place
  let constant (d : Datum) : Parse Expr := do
    let _ ← next
    return .constant d p
  match l.token with
  | .int i => constant (.int i)
  | .float x => constant (.float x)
  | .char c => constant (.char c)
  | .text text => constant (.text text)
  | .sign "true" => constant (.bool true)
  | .sign "false" => constant (.bool false)
  | .sign "()" => constant .unit
  | .opened text =>
    let _ ← next
    let first := if text.isEmpty then [] else [.constant (.text text) p]
    return .template (← templateParts self s (← left) first) p
  | .sign "(" =>
    let _ ← next
    if ← accept ")" then return .constant .unit p
    else
      let e ← self s.inner .expression
      let _ ← expect ")" "for a matching ( in this expression"
      return e
  | .sign "[" =>
    let _ ← next
    return .list (← listItems self s (← left) []) p
  | .sign "#\x7b" =>
    let _ ← next
    return .map (← mapEntries self s (← left) []) p
  | .sign "\x7b" => self s.inner .block
  | .sign "if" => self s.inner .statement
  | .sign "switch" => self s.inner .statement
  | .sign "while" => self s.inner .statement
  | .sign "loop" => self s.inner .statement
  | .sign "do" => self s.inner .statement
  | .sign "for" => self s.inner .statement
  | .name name =>
    let _ ← next
    named self s name p
  | .reserved word =>
    let _ ← next
    let m ← peek
    if Token.functionWords.contains word && (isSign "(" m.token || isSign "()" m.token) then
      named self s word p
    else if word == "this" then
      if s.inFunction then return .receiver p else wrong .misplacedReceiver p
    else wrong (.reserved word) p
  | .bad f => wrong (.token f) p
  | .ending => wrong .incomplete p
  | .sign sign => wrong (.token (.unexpected sign)) p

/-- The opposite of an expression. -/
def negated (operand : Expr) (place : Position) : Expr :=
  match operand with
  | .constant (.int i) _ =>
    if i == Int64.minValue then .constant (.float (-(Number.ofInt i.toInt))) place
    else .constant (.int (-i)) place
  | .constant (.float x) _ => .constant (.float (-x)) place
  | operand => .unary .minus operand place

/-- Read an operand with the signs before it. -/
def operand (self : Self) (s : Setting) : Parse Expr := do
  let l ← peek
  let p := l.place
  match l.token with
  | .sign "-" =>
    let _ ← next
    return negated (← self s .operand) p
  | .sign "+" =>
    let _ ← next
    match ← self s .operand with
    | .constant (.int i) q => return .constant (.int i) q
    | .constant (.float x) q => return .constant (.float x) q
    | e => return .unary .plus e p
  | .sign "!" =>
    let _ ← next
    return .unary .not (← self s .operand) p
  | .sign "|" =>
    let _ ← next
    anonymous self p false
  | .sign "||" =>
    let _ ← next
    anonymous self p true
  | .ending => wrong .incomplete p
  | _ => self s .primary

/-- Read what a goal stands for, its parts through `self`. -/
def rule (self : Self) (s : Setting) : Goal → Parse Expr
  | .statement => statement self s
  | .block => block self s
  | .expression => do
    let e ← self s .operand
    self s (.operators 0 e)
  | .operand => operand self s
  | .primary => do
    let e ← atom self s
    self s (.steps e [] none)
  | .operators bound e => operators self s bound e
  | .steps base seen place => steps self s base seen place
  | .alternative => alternative self s

/-- Read what a goal stands for, with goals nested at most as deep as the number says. -/
def read : Nat → Self
  | 0, _, _ => do wrong .tooComplex (← peek).place
  | fuel + 1, s, goal => rule (read fuel) s goal

end Parse

/-- Read a script. -/
def Program.parse (text : String) : Except (SyntaxFault × Position) Program := do
  let lexemes := Lexeme.scan text
  let self := Parse.read (10 * lexemes.length + 10)
  let script : Parse Expr := do
    let statements ← Parse.statements self ⟨true, false, false, false⟩ (lexemes.length + 1) []
    return .block statements ⟨1, 1⟩
  let (body, s) ← script.run ⟨lexemes, [], [], [], #[]⟩
  return Program.prune ⟨s.functions, s.anonymous, body⟩

end CollectionRunner
