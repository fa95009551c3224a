import GridWalk.Text.Utf8

/-!
# `GridWalk.Cli.Folder`: files in memory and why reading fails

A `Folder` is a tree of files that is held in memory. `Folder.ofFiles` puts files at paths, and
`Folder.readAt` finds a file by a path. Both walk the way a file system does: component by
component, with `.` and `..`. Reading also has limits on lengths. Whatever was not put into the
folder does not exist. `FileError` lists why an input file cannot be used.
-/

set_option autoImplicit false

namespace GridWalk.Cli

open GridWalk.Text (Utf8.DecodeError)

/-- Why an input file cannot be used. -/
inductive FileError
  | notFound
  | denied
  | badText (error : Utf8.DecodeError)
  /-- Any other failure, in the words of the system. -/
  | failed (reason : String)
deriving DecidableEq

/-- The error in words. `path` is the path as it was given. -/
def FileError.message (path : String) : FileError → String
  | notFound => "Error: File not found at path '" ++ path ++ "'."
  | denied => "Error: Access to the file at '" ++ path ++ "' is denied."
  | badText e => "Error: File at '" ++ path ++ "' is not valid UTF-8: " ++ e.reason
  | failed reason => "Error: An I/O error occurred while reading the file: " ++ reason

namespace FileError

/-- A path goes on after a file. -/
def notFolder : FileError := failed "Not a directory"

/-- A path leads to a folder where a file is needed. -/
def isFolder : FileError := failed "Is a directory"

/-- A path or one of its components is too long. -/
def nameTooLong : FileError := failed "File name too long"

end FileError

/-- The components of a path: the texts between slashes, without empty ones. -/
def components (path : String) : List String :=
  ((path.toList.splitOn '/').filter fun part => !part.isEmpty).map String.ofList

/-- The last component of a path that is a name, which is how messages call the file. -/
def fileName (path : String) : String :=
  ((components path).filter fun part => part != ".").getLastD ""

/-- Where a path begins. -/
inductive Origin
  /-- The top of the file system. -/
  | top
  /-- So many levels above the folder. Level 0 is the folder itself. -/
  | above (levels : Nat)
deriving DecidableEq

/-- The origin one level higher. Above the top there is only the top. -/
def Origin.parent : Origin → Origin
  | top => top
  | above levels => above (levels + 1)

/-- A place in the file system: an origin, and names that lead down from it. -/
structure Place where
  origin : Origin
  names : List String
deriving DecidableEq

namespace Place

/-- The place at which the walk along a path begins. -/
def beginning (path : String) : Place :=
  ⟨if path.toList.head? = some '/' then .top else .above 0, []⟩

/-- The place that one component leads to. -/
def step (p : Place) (component : String) : Place :=
  if component = "." then p
  else if component = ".." then
    if p.names.isEmpty then ⟨p.origin.parent, []⟩ else ⟨p.origin, p.names.dropLast⟩
  else ⟨p.origin, p.names ++ [component]⟩

/-- The places that components lead to, one after the other. -/
def visited (p : Place) : List String → List Place
  | [] => []
  | component :: rest => p.step component :: (p.step component).visited rest

end Place

/-- What stands at a place. -/
inductive Entry
  | file (bytes : List UInt8)
  | folder

/-- Files and folders by their places. Of two entries for one place the first counts. All places
without names are folders. -/
structure Folder where
  entries : List (Place × Entry)
  /-- The paths, as they may be given, at which nobody may read. -/
  denied : List String

/-- Where a walk along a path has come to. -/
inductive Location
  | folder (place : Place)
  | file (bytes : List UInt8)

namespace Folder

/-- The longest component that a path may have, in bytes. -/
def longestName : Nat := 255

/-- The first length in bytes that is too long for a path. -/
def pathLimit : Nat := 4096

/-- The entries that putting something at a path makes: all places on the way are folders. -/
def entriesAt (path : String) (entry : Entry) : List (Place × Entry) :=
  let places := (Place.beginning path).visited (components path)
  (places.getLast?.map fun place => (place, entry)).toList
    ++ places.dropLast.map fun place => (place, .folder)

/-- The folder with something more at a path. It replaces what stood at the same place. -/
def put (f : Folder) (path : String) (entry : Entry) : Folder :=
  { f with entries := entriesAt path entry ++ f.entries }

/-- The folder that putting entries at paths makes, one after the other. -/
def ofFiles (files : List (String × Entry)) (denied : List String) : Folder :=
  files.foldl (fun f file => f.put file.1 file.2) ⟨[], denied⟩

/-- What stands at the place, if anything does. -/
def find? (f : Folder) (place : Place) : Option Location :=
  if place.names.isEmpty then some (.folder place)
  else
    match f.entries.lookup place with
    | some (.file bytes) => some (.file bytes)
    | some .folder => some (.folder place)
    | none => none

/-- A walk takes one component. -/
def enter (f : Folder) (location : Location) (component : String) :
    Except FileError Location :=
  match location with
  | .file _ => .error .notFolder
  | .folder place =>
    if longestName < component.utf8ByteSize then .error .nameTooLong
    else
      match f.find? (place.step component) with
      | some next => .ok next
      | none => .error .notFound

/-- The bytes of the file at the path. -/
def readAt (f : Folder) (path : String) : Except FileError (List UInt8) :=
  if path ∈ f.denied then .error .denied
  else if path.isEmpty then .error .notFound
  else if pathLimit ≤ path.utf8ByteSize then .error .nameTooLong
  else do
    let beginning := Location.folder (Place.beginning path)
    match ← (components path).foldlM f.enter beginning with
    | .file bytes => if path.toList.getLast? = some '/' then throw .notFolder else return bytes
    | _ => throw .isFolder

end Folder

end GridWalk.Cli
