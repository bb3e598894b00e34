import CollectionRunner.Env.Globals
import CollectionRunner.Script.Evaluation
import CollectionRunner.Script.Parse

/-!
# Executing scripts

`Scripting` is any way of running scripts that moves hosts on by effects and tests only; the one of
the script language is `Script.conduct`. `execute` runs a script on an occasion and collects what it
left behind, however it ended: its log of global variables is committed, that of the environment is
only reported.
-/

namespace CollectionRunner

/-- What a script did to its host, and the error that ended it, if any. -/
structure Conduct (start : Host) where
  host : Host
  error : Option ScriptError
  evolves : start.Evolves host

/-- A way of running scripts: what a script does to a host within a budget of time. -/
abbrev Scripting := (script : String) → Surroundings → (budget : Duration) → (start : Host) →
  Conduct start

namespace Script

/-- Number of steps a script may take in a millisecond. -/
def stepsPerMillisecond : Nat := 1000

/-- The variables that a script finds. -/
def bindings (h : Host) : List Variable :=
  let response := h.response.map fun r => ("response", Handle.response r)
  let objects := [("request", .request)] ++ response.toList ++
    [("env", .environment), ("globals", .globals), ("console", .console)]
  objects.reverse.map fun (name, object) => ⟨name, false, .own (.handle object)⟩

/-- A script that is about to run. -/
def machine (around : Surroundings) (budget : Duration) (h : Host) : Machine where
  host := h
  frame := {
    bindings := bindings h
    receiver := none
    cells := #[]
    nesting := 0
    steps := budget.milliseconds * stepsPerMillisecond
    seed := around.seed }

/-- How the end of a script is reported. -/
def errorOf (budget : Duration) : Except Stop Unit → Option ScriptError
  | .error (.failed f) => some (f.report true budget.wordMilliseconds)
  | _ => none

/-- Run a script. One that cannot be read is not begun. -/
def conduct : Scripting := fun script around budget start =>
  match Program.parse script with
  | .error (fault, place) =>
    ⟨start, some (.badSyntax fault.text place.line place.column), .refl start⟩
  | .ok program =>
    let begun := machine around budget start
    let ending := (program.run around).run begun
    ⟨ending.2.host, errorOf budget ending.1, (program.run around).evolves begun⟩

end Script

/-- What a script is executed on. -/
structure Occasion where
  request : RequestView
  response : Option Response
  environment : Variables
  globals : Globals
  /-- The requests sent so far. -/
  sent : List Request
  deriving Inhabited

/-- The host of a script at its beginning. -/
def Occasion.host (o : Occasion) : Host where
  request := o.request
  response := o.response
  environment := .ofBacking (some o.environment)
  globals := .ofBacking (some o.globals.values)
  console := []
  assertions := []
  begun := 0
  marks := []
  sent := o.sent

/-- What is there after a script was executed. -/
structure Aftermath where
  result : ScriptResult
  request : RequestView
  globals : Globals
  sent : List Request
  deriving Inhabited

/-- What a script left behind. -/
def Conduct.result {start : Host} (c : Conduct start) : ScriptResult where
  success := c.error.isNone
  duration := .zero
  error := c.error
  console := c.host.console
  assertions := c.host.assertions
  envChanges := c.host.environment.log
  globalChanges := c.host.globals.log
  requestModified := c.host.request.modified

/-- Execute a script. A blank one does nothing. -/
def Scripting.execute (scripting : Scripting) (around : Surroundings) (budget : Duration)
    (script : String) (o : Occasion) : Aftermath :=
  if Text.isBlank script then ⟨.empty, o.request, o.globals, o.sent⟩
  else
    let c := scripting script around budget o.host
    ⟨c.result, c.host.request, o.globals.commit c.host.globals.log, c.host.sent⟩

end CollectionRunner
