/-!
# Paths

Paths are texts whose components slashes separate.
-/

namespace CollectionRunner.Path

/-- Whether a path starts from the root. -/
def absolute (path : String) : Bool := path.toList.head? = some '/'

/-- Where a path leads from a directory. -/
def join (directory path : String) : String :=
  if absolute path then path
  else if directory.toList.getLast? = some '/' then directory ++ path
  else directory ++ "/" ++ path

/-- A path written backwards without the slashes and the lone dots it ends with. -/
def trimBack : List Char → List Char
  | '/' :: rest => trimBack rest
  | '.' :: '/' :: rest => trimBack ('/' :: rest)
  | cs => cs

/-- The directory that a path is in. -/
def parent (path : String) : String :=
  let before := (trimBack path.toList.reverse).dropWhile (· != '/')
  match trimBack before with
  | [] => if before.isEmpty then "" else "/"
  | cs => String.ofList cs.reverse

end CollectionRunner.Path
