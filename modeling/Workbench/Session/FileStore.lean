import Workbench.Disk.Basic
import Workbench.Session.Record

/-!
# Sessions in a file

A store that keeps its session in one file of a folder. A new session is first written to a file
of its own, which then takes the place of the old one in a single step, so that at no time is
there half a record. A store that was opened stays with its folder: when the folder is removed,
nothing can be found or written there any more, even if a new folder takes its place.
-/

namespace Workbench.Session

open Workbench.Disk
open Workbench.Text (Bytes)

/-- The name of the file. -/
def recordName : String := "session.json"

/-- A store in a folder. -/
structure FileStore where
  /-- The path of the folder. -/
  path : String
  /-- The folder, unless it was removed. -/
  folder : Option Folder
  /-- What makes the name of the next staged file unique. -/
  tag : String

namespace FileStore

/-- Opens the folder at a path as a store; it is made if there is none. The disk and the place of
the folder come with it. -/
def openAt (disk : Disk) (path tag : String) : Except StoreError (Disk × Place × FileStore) :=
  let failure (e : Failure) : StoreError := .unavailable (path ++ ": " ++ e.message)
  match disk.ensureFolder path with
  | .error e => .error (failure e)
  | .ok disk =>
    match disk.folderAt path with
    | .error e => .error (failure e)
    | .ok (place, folder) => .ok (disk, place, ⟨path, some folder, tag⟩)

/-- The disk after the store at a place has changed its folder. -/
def keepIn (s : FileStore) (disk : Disk) (place : Place) : Disk :=
  match s.folder with
  | some folder => disk.changeAt place fun _ => folder
  | none => disk

/-- The name of the staged file. -/
def stagedName (s : FileStore) : String := "." ++ recordName ++ "." ++ s.tag

/-- A failure at a name in the folder. -/
def failure (s : FileStore) (name : String) (e : Failure) : StoreError :=
  .unavailable (Path.join s.path name ++ ": " ++ e.message)

/-- The session that is kept. -/
def get (s : FileStore) : Except StoreError (Option Session) :=
  match s.folder with
  | none => .ok none
  | some folder =>
    match folder.read recordName with
    | .error .notFound => .ok none
    | .error e => .error (s.failure recordName e)
    | .ok data =>
      match Text.ofBytes? data with
      | none => .error (s.failure recordName .notText)
      | some _ => Session.read data

/-- Writes the record by way of a staged file. The staged file goes when it cannot take its
place. -/
def writeRecord (s : FileStore) (data : Bytes) : Except StoreError Unit × FileStore :=
  match s.folder with
  | none => (.error (s.failure s.stagedName .notFound), s)
  | some folder =>
    match folder.write s.stagedName data with
    | .error e => (.error (s.failure s.stagedName e), s)
    | .ok staged =>
      match staged.renameFile s.stagedName recordName with
      | .ok folder => (.ok (), { s with folder := some folder })
      | .error e =>
        (.error (s.failure recordName e), { s with folder := some (staged.erase s.stagedName) })

/-- Keeps a session in place of the one before. -/
def set (session : Session) (s : FileStore) : Except StoreError Unit × FileStore :=
  s.writeRecord session.write

/-- Keeps no session any more. -/
def clear (s : FileStore) : Except StoreError Unit × FileStore :=
  match s.folder with
  | none => (.ok (), s)
  | some folder =>
    match folder.removeFile recordName with
    | .ok folder => (.ok (), { s with folder := some folder })
    | .error .notFound => (.ok (), s)
    | .error e => (.error (s.failure recordName e), s)

instance : SessionStore FileStore := ⟨get, set, clear⟩

end FileStore

end Workbench.Session
