import Workbench.Text.Utf8

/-!
# Files and folders

A folder is a list of names, each with a file or a folder under it. Operations on one folder:
looking a name up, putting something under it, removing it, and renaming.
-/

namespace Workbench.Disk

open Workbench.Text (Bytes)

/-- What a name in a folder can stand for. -/
inductive Node where
  /-- A file with its content. -/
  | file (data : Bytes)
  /-- A folder with its names. -/
  | folder (entries : List (String × Node))
  deriving Inhabited

/-- The names of a folder, each of which stands once. -/
abbrev Folder := List (String × Node)

/-- Why an operation on files fails. -/
inductive Failure where
  /-- There is nothing of this name. -/
  | notFound
  /-- There is something of this name already. -/
  | alreadyExists
  /-- A file stands where a folder is needed. -/
  | notFolder
  /-- A folder stands where a file is needed. -/
  | isFolder
  /-- The content of a file is not text. -/
  | notText
  deriving DecidableEq, Repr

/-- The words for a failure. -/
def Failure.message : Failure → String
  | .notFound => "No such file or directory (os error 2)"
  | .alreadyExists => "File exists (os error 17)"
  | .notFolder => "Not a directory (os error 20)"
  | .isFolder => "Is a directory (os error 21)"
  | .notText => "stream did not contain valid UTF-8"

namespace Folder

/-- What stands under a name. -/
def find? (name : String) : Folder → Option Node
  | [] => none
  | (n, node) :: rest => if n = name then some node else find? name rest

/-- Puts a node under a name, in place of what stood there. -/
def put (name : String) (node : Node) : Folder → Folder
  | [] => [(name, node)]
  | (n, old) :: rest => if n = name then (n, node) :: rest else (n, old) :: put name node rest

/-- Removes a name. -/
def erase (name : String) (folder : Folder) : Folder := folder.filter fun e => e.1 ≠ name

/-- The content of a file. -/
def read (name : String) (folder : Folder) : Except Failure Bytes :=
  match find? name folder with
  | none => .error .notFound
  | some (.folder _) => .error .isFolder
  | some (.file data) => .ok data

/-- The text of a file. -/
def readText (name : String) (folder : Folder) : Except Failure String :=
  match read name folder with
  | .error e => .error e
  | .ok data =>
    match Text.ofBytes? data with
    | some text => .ok text
    | none => .error .notText

/-- Writes a file, in place of the file that stood there. -/
def write (name : String) (data : Bytes) (folder : Folder) : Except Failure Folder :=
  match find? name folder with
  | some (.folder _) => .error .isFolder
  | _ => .ok (put name (.file data) folder)

/-- Removes a file. -/
def removeFile (name : String) (folder : Folder) : Except Failure Folder :=
  match find? name folder with
  | none => .error .notFound
  | some (.folder _) => .error .isFolder
  | some (.file _) => .ok (erase name folder)

/-- Gives a file a new name, in place of the file that stood under it. -/
def renameFile (name newName : String) (folder : Folder) : Except Failure Folder :=
  match find? name folder, find? newName folder with
  | none, _ => .error .notFound
  | _, some (.folder _) => .error .isFolder
  | some node, _ => .ok (put newName node (erase name folder))

end Folder

end Workbench.Disk
