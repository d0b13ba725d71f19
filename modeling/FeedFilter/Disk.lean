/-
**A tree of files and directories.**

* `Path`: the components of a path below the directory that a program works in.
* `Disk.content`, `Disk.writeFile`, `Disk.makeDirectories`: what can be done to a path, or why not.
-/

import FeedFilter.Text.Utf8

namespace FeedFilter

/-- The components of a path. -/
abbrev Path := List Text

/-- Why something cannot be done to a path. A tree of files and directories has no other causes than
the named ones; those of a real disk, such as rights and space, are known by their wording. -/
inductive DiskError where
  | missing
  | isDirectory
  | notDirectory
  | occupied
  | notEmpty
  | other (wording : String)
deriving DecidableEq, Repr

/-- The wording of an error. -/
def DiskError.message : DiskError → String
  | missing => "No such file or directory"
  | isDirectory => "Is a directory"
  | notDirectory => "Not a directory"
  | occupied => "File exists"
  | notEmpty => "Directory not empty"
  | other wording => wording

/-- What is at a path. -/
inductive Place where
  | directory
  | file (content : List UInt8)
deriving DecidableEq, Repr

/-- The files and directories, each once; the directory worked in is always there. -/
structure Disk where
  places : List (Path × Place)
deriving Repr

namespace Path

/-- The component `..`, which goes back. -/
def back : Text := ['.', '.']

/-- The path of a text with slashes between components; empty ones and dots do not count. -/
def ofText (text : Text) : Path :=
  let components := (text.foldr
    (fun c parts => if c = '/' then [] :: parts else
      match parts with
      | [] => [[c]]
      | part :: rest => (c :: part) :: rest) [[]])
  components.filter fun part => !part.isEmpty && part ≠ ['.']

/-- The path of the directory something is in. -/
def parent (path : Path) : Path := path.dropLast

/-- The last component. -/
def name (path : Path) : Text := path.getLast?.getD []

/-- A path as text. -/
def text (path : Path) : Text := if path.isEmpty then ['.'] else Text.join ['/'] path

/-- The way a path is written without what does not count; just two slashes in front stay as they
are. -/
def tidy (written : Text) : Text :=
  let components := ofText written
  match written with
  | '/' :: '/' :: '/' :: _ => '/' :: Text.join ['/'] components
  | '/' :: '/' :: _ => '/' :: '/' :: Text.join ['/'] components
  | '/' :: _ => '/' :: Text.join ['/'] components
  | _ => components.text

/-- Goes along the components of a path, back where they say so. -/
def follow (start : Path) (components : Path) : Path :=
  components.foldl (fun path part => if part = back then path.parent else path ++ [part]) start

/-- The path that is meant by what is written in a directory. -/
def resolve (directory : Path) (written : Text) : Path :=
  follow (if written.head? = some '/' then [] else directory) (ofText written)

end Path

namespace Disk

/-- Nothing but the directory worked in. -/
def empty : Disk := ⟨[]⟩

/-- What is at a path. -/
def place? (disk : Disk) (path : Path) : Option Place :=
  if path.isEmpty then some .directory else disk.places.lookup path

/-- Whether a path leads to a directory. -/
def isDirectory (disk : Disk) (path : Path) : Bool := disk.place? path == some .directory

/-- Puts something at a path, in the place of what is there. -/
def put (disk : Disk) (path : Path) (place : Place) : Disk :=
  ⟨(path, place) :: disk.places.filter fun entry => entry.1 ≠ path⟩

/-- Takes away what is at a path. -/
def remove (disk : Disk) (path : Path) : Disk :=
  ⟨disk.places.filter fun entry => entry.1 ≠ path⟩

/-- The ways to a path: each directory on it, the outermost first. -/
def ways (path : Path) : List Path := (List.range path.length).map path.take

/-- Why a path cannot be followed: a directory on the way is missing or is a file. -/
def obstacle? (disk : Disk) (path : Path) : Option DiskError :=
  (ways path).findSome? fun way =>
    match disk.place? way with
    | none => some .missing
    | some (.file _) => some .notDirectory
    | some .directory => none

/-- Whether anything is at a path. -/
def isPresent (disk : Disk) (path : Path) : Bool :=
  (disk.obstacle? path).isNone && (disk.place? path).isSome

/-- The content of a file. -/
def content (disk : Disk) (path : Path) : Except DiskError (List UInt8) :=
  match disk.obstacle? path with
  | some error => .error error
  | none =>
    match disk.place? path with
    | none => .error .missing
    | some .directory => .error .isDirectory
    | some (.file bytes) => .ok bytes

/-- Writes a file anew. -/
def writeFile (disk : Disk) (path : Path) (content : List UInt8) : Except DiskError Disk :=
  match disk.obstacle? path with
  | some error => .error error
  | none =>
    match disk.place? path with
    | some .directory => .error .isDirectory
    | _ => .ok (disk.put path (.file content))

/-- Makes one directory. -/
def makeDirectory (disk : Disk) (path : Path) : Except DiskError Disk :=
  match disk.obstacle? path with
  | some error => .error error
  | none =>
    match disk.place? path with
    | some _ => .error .occupied
    | none => .ok (disk.put path .directory)

/-- Makes a directory and those it is in, as far as they are missing; what has been made stays when
the rest cannot be. `depth` bounds how many are made; it is the number of components at least. -/
def makeDirectoriesFrom : Nat → Disk → Path → Disk × Except DiskError Unit
  | 0, disk, _ => (disk, .ok ())
  | depth + 1, disk, path =>
    match disk.makeDirectory path with
    | .ok made => (made, .ok ())
    | .error .missing =>
      match makeDirectoriesFrom depth disk path.parent with
      | (above, .error error) => (above, .error error)
      | (above, .ok ()) =>
        match above.makeDirectory path with
        | .ok made => (made, .ok ())
        | .error error => (above, .error error)
    | .error error => if disk.isDirectory path then (disk, .ok ()) else (disk, .error error)

/-- Makes a directory and those it is in, as far as they are missing. -/
def makeDirectories (disk : Disk) (path : Path) : Disk × Except DiskError Unit :=
  makeDirectoriesFrom path.length disk path

/-- Takes away a file. -/
def removeFile (disk : Disk) (path : Path) : Except DiskError Disk :=
  match disk.obstacle? path with
  | some error => .error error
  | none =>
    match disk.place? path with
    | none => .error .missing
    | some .directory => .error .isDirectory
    | some (.file _) => .ok (disk.remove path)

/-- Takes away a directory that nothing is in. -/
def removeDirectory (disk : Disk) (path : Path) : Except DiskError Disk :=
  match disk.obstacle? path with
  | some error => .error error
  | none =>
    match disk.place? path with
    | none => .error .missing
    | some (.file _) => .error .notDirectory
    | some .directory =>
      if disk.places.any fun entry => entry.1 ≠ path && path.isPrefixOf entry.1 then
        .error .notEmpty
      else .ok (disk.remove path)

end Disk

end FeedFilter
