import Workbench.Disk.Folder
import Workbench.Disk.Path

/-!
# Disks

A disk is its topmost folder together with the folder that a program works in. Paths are followed
name by name, each of which must stand in a folder, also when a later `..` leaves it again.
-/

namespace Workbench

open Workbench.Text (Bytes)

/-- A disk. -/
structure Disk where
  /-- The topmost folder. -/
  top : Disk.Folder
  /-- The names that lead to the working folder. -/
  here : List String

namespace Disk

/-- A place: the names that lead to it from the topmost folder, the last one first. -/
abbrev Place := List String

/-- What stands at the end of a list of names. -/
def Folder.descend : Folder → List String → Option Node
  | folder, [] => some (.folder folder)
  | folder, name :: rest =>
    match folder.find? name, rest with
    | some node, [] => some node
    | some (.folder inner), rest => descend inner rest
    | _, _ => none

/-- Changes the folder at the end of a list of names. -/
def Folder.change (f : Folder → Folder) : Folder → List String → Folder
  | folder, [] => f folder
  | folder, name :: rest =>
    match folder.find? name with
    | some (.folder inner) => folder.put name (.folder (change f inner rest))
    | _ => folder

/-- Puts a node at the end of a list of names, and folders on the way to it. -/
def Folder.plant (node : Node) : List String → Folder → Folder
  | [], folder => folder
  | [name], folder => folder.put name node
  | name :: rest, folder =>
    let inner : Folder :=
      match folder.find? name with
      | some (.folder inner) => inner
      | _ => []
    folder.put name (.folder (plant node rest inner))

/-- What stands at a place. -/
def nodeAt (disk : Disk) (place : Place) : Option Node := disk.top.descend place.reverse

/-- Changes the folder at a place. -/
def changeAt (disk : Disk) (place : Place) (f : Folder → Folder) : Disk :=
  { disk with top := disk.top.change f place.reverse }

/-- Follows names from a place. -/
def walk (disk : Disk) : Place → List String → Except Failure Place
  | place, [] => .ok place
  | place, name :: rest =>
    match disk.nodeAt place with
    | none => .error .notFound
    | some (.file _) => .error .notFolder
    | some (.folder entries) =>
      if name = "." then disk.walk place rest
      else if name = ".." then disk.walk place.tail rest
      else
        match Folder.find? name entries with
        | none => .error .notFound
        | some _ => disk.walk (name :: place) rest

/-- Where a path starts. -/
def origin (disk : Disk) (path : String) : Place :=
  if Path.isAbsolute path then [] else disk.here.reverse

/-- The place that a path leads to. -/
def locate (disk : Disk) (path : String) : Except Failure Place :=
  if path.isEmpty then .error .notFound else disk.walk (disk.origin path) (Path.names path)

/-- The folder that a path leads to, with its place. -/
def folderAt (disk : Disk) (path : String) : Except Failure (Place × Folder) :=
  match disk.locate path with
  | .error e => .error e
  | .ok place =>
    match disk.nodeAt place with
    | some (.folder entries) => .ok (place, entries)
    | some (.file _) => .error .notFolder
    | none => .error .notFound

/-- Whether a path leads to a folder. -/
def isFolder (disk : Disk) (path : String) : Bool :=
  match disk.folderAt path with
  | .ok _ => true
  | .error _ => false

/-- The content of the file that a path leads to. -/
def fileAt (disk : Disk) (path : String) : Except Failure Bytes :=
  match disk.locate path with
  | .error e => .error e
  | .ok place =>
    match disk.nodeAt place with
    | some (.file data) =>
      if path.toList.getLast? = some '/' then .error .notFolder else .ok data
    | some (.folder _) => .error .isFolder
    | none => .error .notFound

/-- Makes a folder, in a folder that is already there. -/
def makeFolder (disk : Disk) (path : String) : Except Failure Disk :=
  match (Path.names path).getLast? with
  | none => .error (if path.isEmpty then .notFound else .alreadyExists)
  | some name =>
    match disk.walk (disk.origin path) (Path.names path).dropLast with
    | .error e => .error e
    | .ok place =>
      match disk.nodeAt place with
      | none => .error .notFound
      | some (.file _) => .error .notFolder
      | some (.folder entries) =>
        if name = "." ∨ name = ".." ∨ (Folder.find? name entries).isSome then
          .error .alreadyExists
        else .ok (disk.changeAt place (Folder.put name (.folder [])))

/-- Makes a folder unless it is there already. -/
def makeMissing (disk : Disk) (path : String) : Except Failure Disk :=
  match disk.makeFolder path with
  | .ok disk => .ok disk
  | .error e => if disk.isFolder path then .ok disk else .error e

/-- Makes the first folder of a list, and before it those of the rest that it stands in. -/
def makeChain (disk : Disk) : List String → Except Failure Disk
  | [] => .error .notFound
  | path :: outer =>
    if path.isEmpty then .ok disk
    else
      match disk.makeMissing path with
      | .ok disk => .ok disk
      | .error .notFound =>
        match disk.makeChain outer with
        | .error e => .error e
        | .ok disk => disk.makeMissing path
      | .error e => .error e

/-- Makes a folder and the folders around it, those of them that are missing. -/
def ensureFolder (disk : Disk) (path : String) : Except Failure Disk :=
  disk.makeChain (Path.ancestors path.length path)

end Disk

end Workbench
