import Workbench.Session.FileStore

/-!
# A session folder and its surroundings

What can happen to a session folder over time: a program opens it as a store and uses the store,
and others change the folder, or what stands in its place, behind the program's back.
-/

namespace Workbench.Session

open Workbench.Disk
open Workbench.Text (Bytes)

/-- What stands where the session folder belongs. -/
inductive Spot where
  /-- Nothing. -/
  | nothing
  /-- A file. -/
  | file
  /-- A folder. -/
  | folder (entries : Folder)

/-- How a program holds on to the folder. -/
inductive Handle where
  /-- It has not opened any. -/
  | closed
  /-- It holds the folder that stands at the spot. -/
  | attached
  /-- It holds a folder that was removed. -/
  | detached
  deriving DecidableEq, Repr

/-- A session folder and its surroundings. -/
structure Scene where
  /-- The path of the folder. -/
  path : String
  /-- What stands there. -/
  spot : Spot
  /-- How the program holds on to it. -/
  handle : Handle
  /-- What makes the name of the next staged file unique. -/
  tag : String

/-- One thing that happens. -/
inductive FolderStep where
  /-- The program opens the folder. -/
  | openStore
  /-- The program reads the session. -/
  | get
  /-- The program keeps a session. -/
  | set (session : Session)
  /-- The program removes the session. -/
  | clear
  /-- Someone writes a record, in a new folder if there is none. -/
  | seed (data : Bytes)
  /-- Someone puts a folder where the record belongs. -/
  | blockRecord
  /-- Someone takes that folder away. -/
  | unblockRecord
  /-- Someone puts a file where the session folder belongs. -/
  | blockFolder
  /-- Someone removes the session folder. -/
  | removeFolder

/-- What a step answers. -/
inductive FolderAnswer where
  /-- The folder was opened under this path. -/
  | opened (path : String)
  /-- The session that is kept. -/
  | session (session : Option Session)
  /-- It was done. -/
  | done
  /-- The store failed. -/
  | failed (e : StoreError)
  /-- There is no store. -/
  | noStore
  deriving DecidableEq

namespace Scene

/-- The store as the program holds it. -/
def store (s : Scene) : FileStore where
  path := s.path
  folder :=
    match s.handle, s.spot with
    | .attached, .folder entries => some entries
    | _, _ => none
  tag := s.tag

/-- The scene after the store has changed its folder. -/
def keep (s : Scene) (store : FileStore) : Scene :=
  match s.handle, store.folder with
  | .attached, some entries => { s with spot := .folder entries }
  | _, _ => s

/-- Whoever held the folder does not hold on to what stands there now. -/
def detach (s : Scene) : Scene :=
  { s with handle := if s.handle = .attached then .detached else s.handle }

/-- The program opens the folder, which is made if there is none. -/
def openStore (s : Scene) : FolderAnswer × Scene :=
  match s.spot with
  | .nothing => (.opened s.path, { s with spot := .folder [], handle := .attached })
  | .folder _ => (.opened s.path, { s with handle := .attached })
  | .file => (.failed (.unavailable (s.path ++ ": " ++ Failure.alreadyExists.message)), s)

/-- The folder at the spot, a new one if there is nothing. -/
def entries? (s : Scene) : Option Folder :=
  match s.spot with
  | .nothing => some []
  | .folder entries => some entries
  | .file => none

/-- The answer of an operation that changes the store. -/
def settle (s : Scene) (result : Except StoreError Unit × FileStore) : FolderAnswer × Scene :=
  match result.1 with
  | .ok () => (.done, s.keep result.2)
  | .error e => (.failed e, s.keep result.2)

/-- What the program does with its store. -/
def use (s : Scene) (answer : FolderAnswer × Scene) : FolderAnswer × Scene :=
  if s.handle = .closed then (.noStore, s) else answer

/-- One step. -/
def step (s : Scene) : FolderStep → FolderAnswer × Scene
  | .openStore => s.openStore
  | .get =>
    s.use (match s.store.get with
      | .ok session => (.session session, s)
      | .error e => (.failed e, s))
  | .set session => s.use (s.settle (s.store.set session))
  | .clear => s.use (s.settle s.store.clear)
  | .seed data =>
    match s.entries? with
    | none => (.done, s)
    | some entries =>
      match entries.write recordName data with
      | .ok entries => (.done, { s with spot := .folder entries })
      | .error _ => (.done, { s with spot := .folder entries })
  | .blockRecord =>
    match s.entries? with
    | none => (.done, s)
    | some entries => (.done, { s with spot := .folder (entries.put recordName (.folder [])) })
  | .unblockRecord =>
    match s.spot with
    | .folder entries =>
      match entries.find? recordName with
      | some (.folder _) => (.done, { s with spot := .folder (entries.erase recordName) })
      | _ => (.done, s)
    | _ => (.done, s)
  | .blockFolder => (.done, { s.detach with spot := .file })
  | .removeFolder =>
    match s.spot with
    | .folder _ => (.done, { s.detach with spot := .nothing })
    | _ => (.done, s)

/-- The answers of a sequence of steps, each with the scene after it. -/
def run (s : Scene) : List FolderStep → List (FolderAnswer × Scene)
  | [] => []
  | step :: rest => (s.step step) :: run (s.step step).2 rest

/-- The names in the folder, those of folders with a slash, in order. -/
def listing (s : Scene) : Option (List String) :=
  match s.spot with
  | .folder entries =>
    let names := entries.map fun e =>
      match e.2 with
      | .file _ => e.1
      | .folder _ => e.1 ++ "/"
    some (names.mergeSort (fun a b => !(b < a)))
  | _ => none

/-- The content of the record. -/
def record (s : Scene) : Option Bytes :=
  match s.spot with
  | .folder entries =>
    match entries.read recordName with
    | .ok data => some data
    | .error _ => none
  | _ => none

end Scene

end Workbench.Session
