import CollectionRunner.Json.Codec
import CollectionRunner.Json.Place

/-!
# Files that are read

What the program reads is described by the state of the paths it asks for. A failure to read or to
understand a file keeps what was being done, the way a person is told about it.
-/

namespace CollectionRunner

/-- What is found at a path. -/
inductive FileState
  | missing
  /-- A file stands where the path goes through a directory. -/
  | blocked
  | directory
  | contents (bytes : ByteArray)
  deriving Inhabited

namespace FileState

/-- A file with a text. -/
def text (s : String) : FileState := .contents s.toUTF8

/-- Whether there is anything at the path. -/
def present : FileState → Bool
  | .missing => false
  | .blocked => false
  | _ => true

end FileState

/-- Why a file could not be used. -/
inductive LoadCause
  | missing
  | blocked
  | occupied
  | directory
  | encoding
  /-- What is wrong with a document, and where. -/
  | document (fault : Fault) (place : Json.Place)
  /-- A line of variables that cannot be read, and where. -/
  | line (text : String) (index : Nat)
  deriving DecidableEq, Repr

namespace LoadCause

/-- The cause in words. -/
def text : LoadCause → String
  | missing => "No such file or directory (os error 2)"
  | blocked => "Not a directory (os error 20)"
  | occupied => "File exists (os error 17)"
  | directory => "Is a directory (os error 21)"
  | encoding => "stream did not contain valid UTF-8"
  | document fault place => s!"{fault.message} at line {place.line} column {place.column}"
  | line text index => s!"Error parsing line: '{text}', error at line index: {index}"

end LoadCause

/-- A file that could not be used, with what was being done. -/
structure LoadFailure where
  doing : String
  cause : LoadCause
  deriving DecidableEq, Repr

/-- The text of a file. -/
def FileState.read : FileState → Except LoadCause String
  | .missing => .error .missing
  | .blocked => .error .blocked
  | .directory => .error .directory
  | .contents bytes =>
    match String.fromUTF8? bytes with
    | some s => .ok s
    | none => .error .encoding

/-- Say what was being done when something failed. -/
def LoadCause.during (doing : String) : Except LoadCause α → Except LoadFailure α
  | .ok a => .ok a
  | .error cause => .error ⟨doing, cause⟩

/-- Read a text as a document of a type. -/
def Codec.parse (c : Codec α) (text : String) : Except LoadCause α :=
  let document := Json.read text
  let refuse (fault : Fault) : Except LoadCause α :=
    .error (.document fault (fault.place text.toList))
  match c.decode document.json with
  | .error fault => refuse fault
  | .ok a =>
    match document.trailing with
    | some fault => refuse fault
    | none => .ok a

end CollectionRunner
