import CollectionRunner.Http.Model

/-!
# Options of the command line

Arguments are taken one at a time. An option is long, with its value behind an equals sign or in the
next argument, or short, several of which may share one argument. What does not start with a hyphen,
or follows two hyphens alone, is the collection.
-/

namespace CollectionRunner

/-- What the command line asks for. -/
structure Options where
  collection : String
  folder : Option String
  environment : Option String
  config : Option String
  stopOnFailure : Bool
  delayMs : Option Nat
  timeoutMs : Option Nat
  scriptTimeoutMs : Option Nat
  reportDirectory : Option String
  verbosity : Nat
  deriving DecidableEq, Repr

/-- Why a command line has no options: it is wrong, or asks for help. -/
inductive Usage
  | wrong
  | help
  deriving DecidableEq, Repr

namespace Options

/-- The options given so far. -/
structure Given where
  collection : Option String := none
  folder : Option String := none
  environment : Option String := none
  config : Option String := none
  stopOnFailure : Bool := false
  delayMs : Option Nat := none
  timeoutMs : Option Nat := none
  scriptTimeoutMs : Option Nat := none
  reportDirectory : Option String := none
  verbosity : Nat := 0
  deriving DecidableEq, Repr

/-- What an option does. -/
inductive Effect
  | mark (f : Given → Option Given)
  | take (f : Given → String → Option Given)
  | help

/-- Give what was not given yet. -/
def once (old : Option α) (new : Option α) (f : α → Given) : Option Given :=
  match old, new with
  | none, some a => some (f a)
  | _, _ => none

/-- A number of milliseconds. -/
def milliseconds (s : String) : Option Nat :=
  let digits := match s.toList with
    | '+' :: rest => rest
    | cs => cs
  if digits.isEmpty || !digits.all Char.isDigit then none
  else
    let n := digits.foldl (fun n c => n * 10 + (c.toNat - '0'.toNat)) 0
    if n < wordBound then some n else none

/-- A path, which is never empty. -/
def path (s : String) : Option String := if s.isEmpty then none else some s

/-- The options by their letters, if they have one, and their names. -/
def table : List (Option Char × String × Effect) :=
  [(some 'f', "folder", .take fun g s => once g.folder (some s) fun s => { g with folder := some s }),
   (some 'e', "env", .take fun g s =>
    once g.environment (path s) fun s => { g with environment := some s }),
   (some 'c', "config", .take fun g s => once g.config (path s) fun s => { g with config := some s }),
   (none, "stop-on-failure", .mark fun g =>
    if g.stopOnFailure then none else some { g with stopOnFailure := true }),
   (none, "delay", .take fun g s =>
    once g.delayMs (milliseconds s) fun n => { g with delayMs := some n }),
   (none, "timeout", .take fun g s =>
    once g.timeoutMs (milliseconds s) fun n => { g with timeoutMs := some n }),
   (none, "script-timeout", .take fun g s =>
    once g.scriptTimeoutMs (milliseconds s) fun n => { g with scriptTimeoutMs := some n }),
   (none, "report-dir", .take fun g s =>
    once g.reportDirectory (path s) fun s => { g with reportDirectory := some s }),
   (some 'v', "verbose", .mark fun g => some { g with verbosity := g.verbosity + 1 }),
   (some 'h', "help", .help),
   (some 'V', "version", .help)]

/-- What the option of a name does. -/
def byName (name : String) : Option Effect :=
  (table.find? fun (_, n, _) => n == name).map fun (_, _, e) => e

/-- What the option of a letter does. -/
def byLetter (letter : Char) : Option Effect :=
  (table.find? fun (c, _, _) => c == some letter).map fun (_, _, e) => e

/-- What one argument comes to. -/
inductive Reading
  | done (g : Given)
  /-- The next argument is a value. -/
  | pending (f : String → Option Given)
  | ended (u : Usage)

/-- What an option does that may have a value. -/
def Reading.ofOption : Option Given → Reading
  | some g => done g
  | none => ended .wrong

/-- Read a long option without its hyphens. -/
def readLong (g : Given) (cs : List Char) : Reading :=
  let name := String.ofList (cs.takeWhile (· != '='))
  match byName name, cs.dropWhile (· != '=') with
  | some (.mark f), [] => .ofOption (f g)
  | some (.take f), [] => .pending (f g)
  | some (.take f), _ :: value => .ofOption (f g (String.ofList value))
  | some .help, [] => .ended .help
  | _, _ => .ended .wrong

/-- Read letters of short options. -/
def readShort (g : Given) : List Char → Reading
  | [] => .done g
  | letter :: rest =>
    match byLetter letter, rest with
    | some (.mark f), rest =>
      match f g with
      | some g => readShort g rest
      | none => .ended .wrong
    | some (.take f), [] => .pending (f g)
    | some (.take f), '=' :: value => .ofOption (f g (String.ofList value))
    | some (.take f), value => .ofOption (f g (String.ofList value))
    | some .help, _ => .ended .help
    | none, _ => .ended .wrong

/-- Read what is no option. -/
def readPlain (g : Given) (s : String) : Reading :=
  .ofOption (once g.collection (path s) fun s => { g with collection := some s })

/-- Read an argument. -/
def readArgument (g : Given) (argument : String) : Reading :=
  match argument.toList with
  | '-' :: '-' :: cs => readLong g cs
  | ['-'] => readPlain g argument
  | '-' :: cs => readShort g cs
  | _ => readPlain g argument

/-- Whether an argument can be the value of an option. -/
def isValue (argument : String) : Bool :=
  argument == "-" || argument.toList.head? != some '-'

/-- Read arguments that are no options. -/
def readRest (g : Given) : List String → Except Usage Given
  | [] => .ok g
  | argument :: rest =>
    match readPlain g argument with
    | .done g => readRest g rest
    | _ => .error .wrong

/-- Read arguments. -/
def readAll (g : Given) : List String → Except Usage Given
  | [] => .ok g
  | argument :: rest =>
    if argument == "--" then readRest g rest
    else
      match readArgument g argument, rest with
      | .done g, rest => readAll g rest
      | .pending f, value :: rest =>
        match isValue value, f value with
        | true, some g => readAll g rest
        | _, _ => .error .wrong
      | .pending _, [] => .error .wrong
      | .ended u, _ => .error u

/-- The options of a command line. -/
def read (arguments : List String) : Except Usage Options := do
  let g ← readAll {} arguments
  match g.collection with
  | none => .error .wrong
  | some collection =>
    return ⟨collection, g.folder, g.environment, g.config, g.stopOnFailure, g.delayMs, g.timeoutMs,
      g.scriptTimeoutMs, g.reportDirectory, g.verbosity⟩

end Options

end CollectionRunner
