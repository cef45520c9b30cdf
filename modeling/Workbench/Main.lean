import Workbench.CommandLine.Program

/-!
# The command line

The outer layer of the program. It takes a picture of the files that a run can depend on, lets the
run happen, and carries over what has changed. No request leaves this machine: the network is
taken to be down.
-/

namespace Workbench.CommandLine

open Workbench.Text (Bytes)

/-- The names of the variables that matter. -/
def environmentNames : List String :=
  ["HOME", "XDG_CONFIG_HOME", "CODELAB_CONFIG_PATH", "CODELAB_BASE_URL", "CODELAB_SESSION_DIR",
    "CODELAB_REQUEST_TIMEOUT_SECS", "CODELAB_DISCARD_STALE_RESPONSES"]

/-- Their values. -/
def environment : IO (List (String × String)) :=
  environmentNames.filterMapM fun name => do
    return (← IO.getEnv name).map fun value => (name, value)

/-- The names on a path from the topmost folder, without dots. -/
def plainNames (here : List String) (path : String) : List String :=
  let start := if Disk.Path.isAbsolute path then [] else here.reverse
  ((Disk.Path.names path).foldl (fun names name =>
    if name = "." then names else if name = ".." then names.tail else name :: names) start).reverse

/-- Adds what stands at a path to the picture of the disk. -/
def addPath (disk : Disk) (path : String) : IO Disk := do
  let place := (← IO.currentDir) / path
  let names := plainNames disk.here path
  if (Disk.Folder.descend disk.top names).isSome then return disk
  if ← place.isDir then
    return { disk with top := disk.top.plant (.folder []) names }
  if ← place.pathExists then
    let data := (← IO.FS.readBinFile place).toList
    return { disk with top := disk.top.plant (.file data) names }
  return disk

/-- Adds a path and the paths of the folders around it, the outermost first. -/
def addChain (disk : Disk) (path : String) : IO Disk :=
  (Disk.Path.ancestors path.length path).reverse.foldlM addPath disk

/-- The file that a command reads its code from. -/
def codeFile? (arguments : List String) : Option String :=
  match read arguments with
  | .ok (.operate _ file) => file
  | _ => none

/-- Whether a command reads its code from the standard input. -/
def readsInput (arguments : List String) : Bool :=
  match read arguments with
  | .ok (.operate _ none) => true
  | _ => false

/-- The content of the record on a disk. -/
def record? (disk : Disk) (path : String) : Option Bytes :=
  match disk.fileAt path with
  | .ok data => some data
  | .error _ => none

/-- Carries over what a run has changed in the session folder. -/
def carryOver (before after : Disk) (folder : String) : IO Unit := do
  let place := (← IO.currentDir) / folder
  if after.isFolder folder then IO.FS.createDirAll place
  let path := Disk.Path.join folder Session.recordName
  match record? before path, record? after path with
  | old, some data =>
    if old ≠ some data then
      IO.FS.writeBinFile ((← IO.currentDir) / path) (ByteArray.mk data.toArray)
  | some _, none => IO.FS.removeFile ((← IO.currentDir) / path)
  | none, none => return ()

/-- The lines of a complaint. -/
def Complaint.lines : Complaint → List String
  | .usage line => [line]
  | .report causes =>
    "Error: " :: causes.mapIdx fun i cause => "   " ++ toString i ++ ": " ++ cause

end Workbench.CommandLine

open Workbench Workbench.CommandLine in
/-- Runs the program once. -/
def main (arguments : List String) : IO UInt32 := do
  let known ← environment
  let here := Disk.Path.names (← IO.currentDir).toString
  let empty : Disk := ⟨Disk.Folder.plant (.folder []) here [], here⟩
  let places := Settings.places ⟨known, empty, []⟩ []
  let disk ← places.foldlM addChain empty
  let disk ← (codeFile? arguments).toList.foldlM addChain disk
  let folder? : Option String :=
    match Settings.load ⟨known, disk, []⟩ with
    | .ok settings => some settings.folder
    | .error _ => none
  let disk ← folder?.toList.foldlM (fun disk folder =>
    addChain disk (Disk.Path.join folder Session.recordName)) disk
  let input ← if readsInput arguments then (← IO.getStdin).readBinToEnd else pure .empty
  let tag := toString (← IO.rand 0 (Nat.pow 10 30))
  let r := run .down ⟨known, disk, arguments, input.toList, tag⟩
  (folder?.toList).forM (carryOver disk r.disk)
  IO.print r.output
  match r.complaint with
  | some complaint => complaint.lines.forM fun line => IO.eprintln line
  | none => pure ()
  return UInt32.ofNat r.code
