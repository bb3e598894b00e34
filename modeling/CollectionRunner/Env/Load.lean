import CollectionRunner.Env.Dotenv

/-!
# Loading environments

An environment is a JSON document when its file is named so, else a file of lines. It is named after
the file unless the document has a name of its own.
-/

namespace CollectionRunner

namespace Environment

/-- Last component of a path. -/
def fileName (path : String) : List Char :=
  (path.toList.reverse.takeWhile (· != '/')).reverse

/-- Stem and extension of a file name. A dot at the start belongs to the stem. -/
def splitName (name : List Char) : List Char × Option (List Char) :=
  let backwards := name.reverse
  let extension := backwards.takeWhile (· != '.')
  match backwards.dropWhile (· != '.') with
  | [] => (name, none)
  | [_] => (name, none)
  | _ :: stem => if name == ['.', '.'] then (name, none) else (stem.reverse, some extension.reverse)

/-- Environments as they are written in files. -/
def fileRecord : Record (Option String × Variables) :=
  (Record.cons (.optionalNamed "name" .string)
    (.cons (Field.alsoNamed (.defaulted "values" Variables.codec .empty) "variables") .nil)).map
    (fun (name, values, _) => (name, values)) (fun (name, values) => (name, values, ())) |>.titled
      "EnvironmentFile"

/-- Load the environment at a path. -/
def load (path : String) (file : FileState) : Except LoadFailure Environment := do
  let content ← LoadCause.during ("reading environment " ++ path) file.read
  let (stem, extension) := splitName (fileName path)
  match extension with
  | some extension =>
    if extension.map Char.toLower = ['j', 's', 'o', 'n'] then
      let (name, values) ←
        LoadCause.during ("parsing environment " ++ path) (fileRecord.codec.parse content)
      return ⟨name.getD (String.ofList stem), values⟩
    else
      let values ← LoadCause.during ("parsing env file " ++ path) (Dotenv.read content)
      return ⟨String.ofList stem, values⟩
  | none =>
    let values ← LoadCause.during ("parsing env file " ++ path) (Dotenv.read content)
    return ⟨String.ofList stem, values⟩

end Environment

end CollectionRunner
