import CollectionRunner.Files
import CollectionRunner.Env.Variables
import CollectionRunner.Text.Blank
import CollectionRunner.Text.Category

/-!
# Variables written as lines

A file of variables has one `NAME=value` a line. Quoted values may span lines and `#` starts a
comment after white space. A value may use the variables of earlier lines.
-/

namespace CollectionRunner

namespace Dotenv

/-! ## Lines -/

/-- What is open at a place of the text. -/
inductive LineState
  | plain
  | escape
  | single
  | singleEscape
  | double
  | doubleEscape
  | comment
  | space
  deriving DecidableEq, Repr

/-- State after a character. -/
def LineState.next (state : LineState) (c : Char) : LineState :=
  match state with
  | .space =>
    if c == '#' then .comment
    else if c == '\\' then .escape
    else if c == '"' then .double
    else if c == '\'' then .single
    else .plain
  | .escape => .plain
  | .plain =>
    if Text.blank c && c != '\n' && c != '\r' then .space
    else if c == '\\' then .escape
    else if c == '"' then .double
    else if c == '\'' then .single
    else .plain
  | .double => if c == '\\' then .doubleEscape else if c == '"' then .plain else .double
  | .doubleEscape => .double
  | .single => if c == '\\' then .singleEscape else if c == '\'' then .plain else .single
  | .singleEscape => .single
  | .comment => .comment

/-- State at the end of a line, and the line up to a comment that starts in it. -/
def scanLine : LineState → List Char → LineState × List Char
  | state, [] => (state, [])
  | state, c :: rest =>
    match state.next c with
    | .comment => (.comment, [])
    | next =>
      let (final, kept) := scanLine next rest
      (final, c :: kept)

/-- A text split after each line break. -/
def rawLines : List Char → List (List Char)
  | [] => []
  | c :: rest =>
    if c = '\n' then [c] :: rawLines rest
    else
      match rawLines rest with
      | [] => [[c]]
      | line :: lines => (c :: line) :: lines

/-- A line without its break. -/
def dropBreak (line : List Char) : List Char :=
  match line.reverse with
  | '\n' :: '\r' :: rest => rest.reverse
  | '\n' :: rest => rest.reverse
  | _ => line

/-- Join the lines that belong together; a text that ends inside one is an error. `pending` is what
was read of an unfinished line. -/
def logicalLines (pending : List Char) (state : LineState) :
    List (List Char) → List (Except (List Char) (List Char))
  | [] => if state = .plain then [] else [.error pending]
  | line :: rest =>
    let text := pending ++ line
    if (text.dropWhile Text.blank).head? = some '#' then
      .ok [] :: logicalLines [] .plain rest
    else
      match scanLine state line with
      | (.plain, _) => .ok (dropBreak text) :: logicalLines [] .plain rest
      | (.comment, kept) => .ok (pending ++ kept) :: logicalLines [] .plain rest
      | (state, _) => logicalLines text state rest

/-! ## Values -/

/-- How much of a substituted name was read. -/
inductive Substitution
  | none
  /-- After the dollar sign. -/
  | bare
  /-- Inside braces. -/
  | braced
  deriving DecidableEq, Repr

/-- State of reading a value. -/
structure ValueState where
  single : Bool
  double : Bool
  escaped : Bool
  expectingEnd : Bool
  substitution : Substitution
  /-- Substituted name, last character first. -/
  name : List Char
  /-- The value so far, last character first. -/
  output : List Char

/-- Nothing read yet. -/
def ValueState.initial : ValueState := ⟨false, false, false, false, .none, [], []⟩

/-- Put the value of the substituted name into the output. -/
def ValueState.substitute (earlier : Variables) (s : ValueState) : ValueState :=
  let value := (earlier.get? (String.ofList s.name.reverse)).getD ""
  { s with name := [], output := value.toList.reverse ++ s.output }

/-- Add a character to the output. -/
def ValueState.push (s : ValueState) (c : Char) : ValueState := { s with output := c :: s.output }

/-- Whether a character can be part of a name after a dollar sign. -/
def nameChar (c : Char) : Bool :=
  match Text.category c with
  | .Lu | .Ll | .Lt | .Lm | .Lo | .Nl | .Nd | .No => true
  | _ => Text.inRanges Text.alphabeticRanges c.toNat

/-- Read one character of a value: the next state, nothing when a comment starts, or an error. -/
def ValueState.step (earlier : Variables) (s : ValueState) (c : Char) :
    Except Unit (Option ValueState) :=
  if s.expectingEnd then
    if c == ' ' || c == '\t' then .ok (some s)
    else if c == '#' then .ok none
    else .error ()
  else if s.escaped then
    if c == '\\' || c == '\'' || c == '"' || c == '$' || c == ' ' then
      .ok (some { s.push c with escaped := false })
    else if c == 'n' then .ok (some { s.push '\n' with escaped := false })
    else .error ()
  else if s.single then
    .ok (some (if c == '\'' then { s with single := false } else s.push c))
  else if s.substitution = .bare then
    if nameChar c then .ok (some { s with name := c :: s.name })
    else if c == '\x7b' && s.name.isEmpty then .ok (some { s with substitution := .braced })
    else
      let s := s.substitute earlier
      if c == '$' then .ok (some s)
      else .ok (some { s.push c with substitution := .none })
  else if s.substitution = .braced then
    if nameChar c then .ok (some { s with name := c :: s.name })
    else if c == '\x7d' then .ok (some { s.substitute earlier with substitution := .none })
    else .ok (some { s with name := c :: s.name })
  else if c == '$' then .ok (some { s with substitution := .bare })
  else if s.double then
    if c == '"' then .ok (some { s with double := false })
    else if c == '\\' then .ok (some { s with escaped := true })
    else .ok (some (s.push c))
  else if c == '\'' then .ok (some { s with single := true })
  else if c == '"' then .ok (some { s with double := true })
  else if c == '\\' then .ok (some { s with escaped := true })
  else if c == ' ' || c == '\t' then .ok (some { s with expectingEnd := true })
  else .ok (some (s.push c))

/-- Read a value, `input` being the whole of it for messages. -/
def readValue (earlier : Variables) (input : String) :
    Nat → ValueState → List Char → Except LoadCause String
  | _, s, [] =>
    if s.substitution = .braced || s.single || s.double then
      .error (.line input (input.utf8ByteSize - 1))
    else .ok (String.ofList (s.substitute earlier).output.reverse)
  | index, s, c :: rest =>
    match s.step earlier c with
    | .error _ => .error (.line input index)
    | .ok (some s) => readValue earlier input (index + 1) s rest
    | .ok none => readValue earlier input index s []

/-! ## Assignments -/

/-- A place in a line: the number of bytes before it and what follows. -/
structure Place where
  offset : Nat
  rest : List Char

/-- Bytes of a list of characters. -/
def byteCount (cs : List Char) : Nat := cs.foldl (fun n c => n + c.utf8Size) 0

/-- Go past characters of a kind; also answers them. -/
def Place.span (p : Place) (kind : Char → Bool) : List Char × Place :=
  let taken := p.rest.takeWhile kind
  (taken, ⟨p.offset + byteCount taken, p.rest.dropWhile kind⟩)

/-- Go past white space. -/
def Place.skipBlank (p : Place) : Place := (p.span Text.blank).2

/-- Read the name of a variable. -/
def Place.key (p : Place) : Option (String × Place) :=
  match p.rest with
  | [] => none
  | c :: _ =>
    if c.isAlpha || c == '_' then
      let (name, p) := p.span fun c => c.isAlphanum || c == '_' || c == '.'
      some (String.ofList name, p)
    else none

/-- Go past an equals sign. -/
def Place.equals (p : Place) : Option Place :=
  match p.rest with
  | '=' :: rest => some ⟨p.offset + 1, rest⟩
  | _ => none

/-- Whether nothing but a comment follows. -/
def Place.done (p : Place) : Bool := p.rest.isEmpty || p.rest.head? == some '#'

/-- Read the name and the equals sign of an assignment, which the word `export` may precede. The error
is the offset at which the line cannot be read. -/
def Place.target (p : Place) : Except Nat (String × Place) :=
  match p.key with
  | none => .error p.offset
  | some (key, p) =>
    let p := p.skipBlank
    match p.equals with
    | some p => .ok (key, p)
    | none =>
      if key == "export" then
        match p.key with
        | none => .error p.offset
        | some (key, p) =>
          let p := p.skipBlank
          match p.equals with
          | some p => .ok (key, p)
          | none => .error p.offset
      else .error p.offset

/-- Read an assignment; blank lines and comments hold none. -/
def readLine (earlier : Variables) (line : List Char) :
    Except LoadCause (Option (String × String)) :=
  let stripped := (line.reverse.dropWhile Text.blank).reverse
  let p := Place.skipBlank ⟨0, stripped⟩
  if p.done then .ok none
  else
    match p.target with
    | .error offset => .error (.line (String.ofList line) offset)
    | .ok (key, p) =>
      let p := p.skipBlank
      if p.done then .ok (some (key, ""))
      else do
        let value ← readValue earlier (String.ofList p.rest) 0 .initial p.rest
        return some (key, value)

/-- Make the assignments of lines one after the other. -/
def readLines (vars : Variables) :
    List (Except (List Char) (List Char)) → Except LoadCause Variables
  | [] => .ok vars
  | .error pending :: _ => .error (.line (String.ofList pending) (byteCount pending))
  | .ok line :: rest => do
    match ← readLine vars line with
    | some (key, value) => readLines (vars.set key value) rest
    | none => readLines vars rest

/-- Read a text of variables. -/
def read (text : String) : Except LoadCause Variables :=
  readLines .empty (logicalLines [] .plain (rawLines text.toList))

end Dotenv

end CollectionRunner
