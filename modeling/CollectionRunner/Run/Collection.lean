import CollectionRunner.Files
import CollectionRunner.Http.Model
import CollectionRunner.Text.Blank
import CollectionRunner.Text.Letters

/-!
# Collections of requests

A collection is a tree of folders with requests in them. `flatten` lists the requests in the order
in which they run, and `folder?` finds the folder at a path.
-/

namespace CollectionRunner

/-- A saved request and its scripts. -/
structure RequestItem where
  id : String
  name : String
  method : String
  url : String
  headers : List Header
  body : Option String
  preRequestScript : Option String
  postResponseScript : Option String
  deriving DecidableEq, Repr, Inhabited

namespace RequestItem

/-- Saved requests as documents. -/
def record : Record RequestItem :=
  (Record.cons (.defaulted "id" .string "") (.cons (.required "name" .string)
    (.cons (.defaulted "method" .string "GET") (.cons (.required "url" .string)
      (.cons (.defaulted "headers" Header.record.codec.list []) (.cons (.optional "body" .string)
        (.cons (.optional "preRequestScript" .string)
          (.cons (.optional "postResponseScript" .string) .nil)))))))).map
    (fun (id, name, method, url, headers, body, pre, post, _) =>
      ⟨id, name, method, url, headers, body, pre, post⟩)
    (fun r => (r.id, r.name, r.method, r.url, r.headers, r.body, r.preRequestScript,
      r.postResponseScript, ())) |>.titled "RequestItem"

/-- The request that is sent, its placeholders not yet expanded. -/
def request (item : RequestItem) : Request :=
  ⟨Text.asciiUpper item.method, item.url, item.headers, item.body⟩

end RequestItem

/-- Requests and folders under one name. -/
structure Folder where
  name : String
  requests : List RequestItem
  folders : List Folder
  deriving Repr, Inhabited

namespace Folder

mutual

/-- The requests of a folder: its own, then those of each subfolder. -/
def flatten : Folder → List RequestItem
  | ⟨_, requests, folders⟩ => requests ++ flattenAll folders

/-- The requests of folders one after the other. -/
def flattenAll : List Folder → List RequestItem
  | [] => []
  | folder :: rest => flatten folder ++ flattenAll rest

end

/-- Go down a path of names, taking the first folder of each name. -/
def descend (folder : Folder) : List String → Option Folder
  | [] => some folder
  | name :: rest =>
    match folder.folders.find? (·.name == name) with
    | some next => next.descend rest
    | none => none

mutual

/-- Number of folders nested in one another. -/
def depth : Folder → Nat
  | ⟨_, _, folders⟩ => depthAll folders + 1

/-- Largest depth of some folders. -/
def depthAll : List Folder → Nat
  | [] => 0
  | folder :: rest => max (depth folder) (depthAll rest)

end

/-- Folders as documents, given how subfolders are. -/
def record (sub : Codec Folder) : Record Folder :=
  (Record.cons (.required "name" .string)
    (.cons (.defaulted "requests" RequestItem.record.codec.list [])
      (.cons (.defaulted "folders" sub.list []) .nil))).map
    (fun (name, requests, folders, _) => ⟨name, requests, folders⟩)
    (fun f => (f.name, f.requests, f.folders, ())) |>.titled "Folder"

/-- Folders nested in less than a number of levels as documents. -/
def codecBelow : Nat → Codec Folder
  | 0 => ⟨fun _ => .null, Codec.mismatch "struct Folder"⟩
  | levels + 1 => (record (codecBelow levels)).codec

/-- Folders as documents. -/
def codec : Codec Folder where
  encode folder := (codecBelow folder.depth).encode folder
  decode json := (codecBelow json.height).decode json

end Folder

/-- A named collection. -/
structure Collection where
  name : String
  description : Option String
  requests : List RequestItem
  folders : List Folder
  deriving Repr, Inhabited

namespace Collection

/-- Collections as documents. -/
def record : Record Collection :=
  (Record.cons (.required "name" .string) (.cons (.optional "description" .string)
    (.cons (.defaulted "requests" RequestItem.record.codec.list [])
      (.cons (.defaulted "folders" Folder.codec.list []) .nil)))).map
    (fun (name, description, requests, folders, _) => ⟨name, description, requests, folders⟩)
    (fun c => (c.name, c.description, c.requests, c.folders, ())) |>.titled "Collection"

/-- The requests of a collection in the order they run. -/
def flatten (c : Collection) : List RequestItem := c.requests ++ Folder.flattenAll c.folders

/-- The names in a path: the parts between slashes without the white space around them, empty ones
left out. -/
def segments (path : String) : List String :=
  ((path.splitOn "/").map Text.trim).filter (! ·.isEmpty)

/-- The folder at a path; of folders with one name the first is taken. -/
def folder? (c : Collection) (path : String) : Option Folder :=
  match segments path with
  | [] => none
  | first :: rest =>
    match c.folders.find? (·.name == first) with
    | some folder => folder.descend rest
    | none => none

/-- Load the collection at a path. -/
def load (path : String) (file : FileState) : Except LoadFailure Collection := do
  let content ← LoadCause.during ("reading collection " ++ path) file.read
  LoadCause.during ("parsing collection " ++ path) (record.codec.parse content)

end Collection

end CollectionRunner
