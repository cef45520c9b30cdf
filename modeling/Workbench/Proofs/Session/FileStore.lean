import Mathlib.Data.List.Induction
import Workbench.Proofs.Disk.Folder
import Workbench.Proofs.Json.Texts
import Workbench.Session.Memory
import Workbench.Session.Scene

/-!
# A file as good as memory

A session folder that nobody else touches keeps a session as well as memory does. What is read is
what was last written, whoever the user is and whatever the file held before, and beside the
record nothing in the folder changes: the staged file of a write is gone when the write is over.

* `read_write` — the record of a session is read as this session.
* `Keeps.step` — one use of the store keeps what was last written in the record, and everything
  beside it.
* `folder_refines_memory` — every use of the store succeeds and answers what a store in memory
  answers.
-/

namespace Workbench

open Workbench.Disk (Folder Node Failure)

/-- The text of an identifier stands for this identifier. -/
theorem Identifier.ofText?_text (user : Identifier) : Identifier.ofText? user.text = some user := by
  have hne : Text.trimmed user.text ≠ "" := by
    rw [user.trimmed_eq]
    exact user.ne_empty
  rw [Identifier.ofText?, dif_neg hne, Option.some.injEq, Identifier.mk.injEq]
  exact user.trimmed_eq

namespace Session

/-! ### Records -/

/-- The record of a session is read as this session. -/
theorem read_write (session : Session) : read session.write = .ok (some session) := by
  have hmembers : Json.readWhole (Json.readTextMap Json.maxDepth) session.write =
      .ok [(storageKey, session.user.text)] := by
    have h := Json.readTextMap_prettyObject 126 [(storageKey, session.user.text)] []
    rw [List.append_nil] at h
    rw [Json.readWhole, write, Json.maxDepth, h]
    rfl
  have hlookup : Json.lookup storageKey [(storageKey, session.user.text)] =
      some session.user.text := by
    simp [Json.lookup]
  rw [read, hmembers]
  simp only [hlookup, Identifier.ofText?_text]

/-! ### One use of a store -/

namespace FileStore

variable {path tag : String} {folder : Folder}

/-- The name of a staged file. -/
def stagedAs (tag : String) : String := "." ++ recordName ++ "." ++ tag

theorem stagedAs_ne (tag : String) : stagedAs tag ≠ recordName := by
  intro h
  have hlength := congrArg String.length h
  have hdot : ".".length = 1 := rfl
  simp only [stagedAs, String.length_append, hdot] at hlength
  omega

/-- A session is kept in place of the record, if that can be a file. -/
theorem set_eq (path : String) (hfresh : folder.find? (stagedAs tag) = none)
    (hfile : ∀ entries, folder.find? recordName ≠ some (.folder entries)) (session : Session) :
    set session ⟨path, some folder, tag⟩ =
      (.ok (), ⟨path, some (folder.put recordName (.file session.write)), tag⟩) := by
  obtain ⟨staged, hwrite, hrename⟩ :=
    Folder.replaceFile session.write hfresh (stagedAs_ne tag) hfile
  have hstaged : stagedName ⟨path, some folder, tag⟩ = stagedAs tag := rfl
  simp only [set, writeRecord, hstaged, hwrite, hrename]

/-- After a session was removed there is no record, whether or not there was one. -/
theorem clear_eq (path tag : String)
    (hfile : ∀ entries, folder.find? recordName ≠ some (.folder entries)) :
    clear ⟨path, some folder, tag⟩ = (.ok (), ⟨path, some (folder.erase recordName), tag⟩) := by
  rcases Folder.removeFile_cases hfile with h | ⟨h, hsame⟩
  · simp only [clear, h]
  · simp only [clear, h, hsame]

theorem get_of_session {session : Session}
    (h : folder.find? recordName = some (.file session.write)) :
    get ⟨path, some folder, tag⟩ = .ok (some session) := by
  have htext : Text.ofBytes? session.write = some _ := Text.ofBytes?_toBytes _
  simp only [get, Folder.read, h, htext, read_write]

theorem get_of_none (h : folder.find? recordName = none) :
    get ⟨path, some folder, tag⟩ = .ok none := by
  simp only [get, Folder.read, h]

end FileStore

/-! ### Uses of a store -/

/-- What a program does with a store. -/
inductive Use where
  /-- It opens the store, or opens it again. -/
  | openStore
  /-- It reads the session. -/
  | get
  /-- It keeps a session. -/
  | set (session : Session)
  /-- It removes the session. -/
  | clear

namespace Use

/-- The step by which a folder is used. -/
def step : Use → FolderStep
  | .openStore => .openStore
  | .get => .get
  | .set session => .set session
  | .clear => .clear

/-- What a use writes: a session, or that there is none. -/
def write? : Use → Option (Option Session)
  | .set session => some (some session)
  | .clear => some none
  | _ => none

/-- What was written last. -/
def lastWrite? (uses : List Use) : Option (Option Session) := (uses.filterMap write?).getLast?

theorem lastWrite?_concat (uses : List Use) (u : Use) :
    lastWrite? (uses ++ [u]) = u.write?.or (lastWrite? uses) := by
  rw [lastWrite?, List.filterMap_append, List.getLast?_append]
  cases u <;> rfl

end Use

/-- What a store in memory answers to a use. Opening it again does nothing. -/
def Memory.use (path : String) (m : Memory) : Use → FolderAnswer × Memory
  | .openStore => (.opened path, m)
  | .get =>
    match m.get with
    | .ok session => (.session session, m)
    | .error e => (.failed e, m)
  | .set session =>
    match m.set session with
    | (.ok (), m) => (.done, m)
    | (.error e, m) => (.failed e, m)
  | .clear =>
    match m.clear with
    | (.ok (), m) => (.done, m)
    | (.error e, m) => (.failed e, m)

/-- A store in memory after some uses. -/
def Memory.afterUses (path : String) (m : Memory) (uses : List Use) : Memory :=
  uses.foldl (fun m u => (m.use path u).2) m

namespace Scene

/-- A use of the folder, with what makes the name of its staged file unique. -/
def useAs (s : Scene) (tag : String) (u : Use) : FolderAnswer × Scene :=
  ({ s with tag := tag } : Scene).step u.step

/-- The scene after some uses. -/
def afterUses (s : Scene) (uses : List (String × Use)) : Scene :=
  uses.foldl (fun s u => (s.useAs u.1 u.2).2) s

theorem afterUses_concat (s : Scene) (uses : List (String × Use)) (tag : String) (u : Use) :
    s.afterUses (uses ++ [(tag, u)]) = ((s.afterUses uses).useAs tag u).2 := by
  simp only [afterUses, List.foldl_append, List.foldl_cons, List.foldl_nil]

section Attached

variable {s : Scene} {folder : Folder} {tag : String} (hh : s.handle = .attached)
  (hs : s.spot = .folder folder)

include hh hs

theorem useAs_openStore : s.useAs tag .openStore = (.opened s.path, { s with tag := tag }) := by
  obtain ⟨path, spot, handle, oldTag⟩ := s
  subst hh hs
  rfl

/-- Reading changes nothing. -/
theorem useAs_get :
    s.useAs tag .get =
      (match FileStore.get ⟨s.path, some folder, tag⟩ with
        | .ok session => .session session
        | .error e => .failed e, { s with tag := tag }) := by
  obtain ⟨path, spot, handle, oldTag⟩ := s
  subst hh hs
  simp only [useAs, Use.step, Scene.step, store, Scene.use]
  cases FileStore.get ⟨path, some folder, tag⟩ <;> rfl

theorem useAs_set (hfresh : folder.find? (FileStore.stagedAs tag) = none)
    (hfile : ∀ entries, folder.find? recordName ≠ some (.folder entries)) (session : Session) :
    s.useAs tag (.set session) = (.done, { s with
      tag := tag, spot := .folder (folder.put recordName (.file session.write)) }) := by
  have hset := FileStore.set_eq s.path hfresh hfile session
  obtain ⟨path, spot, handle, oldTag⟩ := s
  subst hh hs
  exact congrArg (Scene.settle ⟨path, .folder folder, .attached, tag⟩) hset

theorem useAs_clear (hfile : ∀ entries, folder.find? recordName ≠ some (.folder entries)) :
    s.useAs tag .clear =
      (.done, { s with tag := tag, spot := .folder (folder.erase recordName) }) := by
  have hclear := FileStore.clear_eq s.path tag hfile
  obtain ⟨path, spot, handle, oldTag⟩ := s
  subst hh hs
  exact congrArg (Scene.settle ⟨path, .folder folder, .attached, tag⟩) hclear

end Attached

end Scene

/-- What stands at the place of the record, given what stood there in the beginning and what was
written last. -/
def recordAfter (origin : Folder) : Option (Option Session) → Option Node
  | none => origin.find? recordName
  | some written => written.map fun session => .file session.write

/-- A scene in which a program has used a folder and nobody else has. -/
structure Keeps (path : String) (origin : Folder) (written : Option (Option Session)) (s : Scene)
    (folder : Folder) : Prop where
  /-- The folder has its path. -/
  path_eq : s.path = path
  /-- The program holds on to it. -/
  attached : s.handle = .attached
  /-- The folder stands at its spot. -/
  spot : s.spot = .folder folder
  /-- Beside the record it is as it was. -/
  beside : folder.erase recordName = origin.erase recordName
  /-- The record is what was written last. -/
  record : folder.find? recordName = recordAfter origin written

namespace Keeps

variable {path tag : String} {origin folder : Folder} {written : Option (Option Session)}
  {w : Option Session} {s : Scene}

/-- Nothing but a file stands at the place of the record. -/
theorem isFile (k : Keeps path origin written s folder)
    (hfile : ∀ entries, origin.find? recordName ≠ some (.folder entries)) (entries : Folder) :
    folder.find? recordName ≠ some (.folder entries) := by
  rw [k.record]
  cases written with
  | none => exact hfile entries
  | some written => cases written <;> simp [recordAfter]

/-- Names that were free in the beginning are free. -/
theorem isFresh (k : Keeps path origin written s folder)
    (hfresh : origin.find? (FileStore.stagedAs tag) = none) :
    folder.find? (FileStore.stagedAs tag) = none :=
  (Folder.find?_of_erase_eq k.beside (FileStore.stagedAs_ne tag).symm).trans hfresh

/-- One use of the store keeps what was last written in the record, and everything beside it. -/
theorem step (k : Keeps path origin written s folder)
    (hfile : ∀ entries, origin.find? recordName ≠ some (.folder entries))
    (hfresh : origin.find? (FileStore.stagedAs tag) = none) (u : Use) :
    ∃ folder', Keeps path origin (u.write?.or written) (s.useAs tag u).2 folder' := by
  cases u with
  | openStore =>
    rw [Scene.useAs_openStore k.attached k.spot]
    exact ⟨folder, k.path_eq, k.attached, k.spot, k.beside, k.record⟩
  | get =>
    rw [Scene.useAs_get k.attached k.spot]
    exact ⟨folder, k.path_eq, k.attached, k.spot, k.beside, k.record⟩
  | set session =>
    rw [Scene.useAs_set k.attached k.spot (k.isFresh hfresh) (k.isFile hfile)]
    refine ⟨_, k.path_eq, k.attached, rfl, ?_, ?_⟩
    · rw [Folder.erase_put, k.beside]
    · rw [Folder.find?_put, if_pos rfl]
      rfl
  | clear =>
    rw [Scene.useAs_clear k.attached k.spot (k.isFile hfile)]
    refine ⟨_, k.path_eq, k.attached, rfl, ?_, ?_⟩
    · rw [Folder.erase_erase, k.beside]
    · rw [Folder.find?_erase, if_pos rfl]
      rfl

/-- What was written is read. -/
theorem get (k : Keeps path origin (some w) s folder) (tag : String) :
    (s.useAs tag .get).1 = .session w := by
  have hrecord := k.record
  rw [Scene.useAs_get k.attached k.spot]
  cases w with
  | none => rw [FileStore.get_of_none hrecord]
  | some session => rw [FileStore.get_of_session hrecord]

end Keeps

/-! ### Runs -/

section Runs

variable {s : Scene} {origin : Folder} {uses : List (String × Use)}

/-- Opening a folder holds on to it as it is. -/
theorem keeps_open (hspot : s.spot = .folder origin) :
    s.step .openStore = (.opened s.path, { s with handle := .attached }) ∧
      Keeps s.path origin none { s with handle := .attached } origin := by
  refine ⟨?_, rfl, rfl, hspot, rfl, rfl⟩
  rw [Scene.step, Scene.openStore, hspot]

theorem keeps_afterUses (hspot : s.spot = .folder origin)
    (hfile : ∀ entries, origin.find? recordName ≠ some (.folder entries))
    (hfresh : ∀ u ∈ uses, origin.find? (FileStore.stagedAs u.1) = none) :
    ∃ folder, Keeps s.path origin (Use.lastWrite? (uses.map (·.2)))
      ((s.step .openStore).2.afterUses uses) folder := by
  induction uses using List.reverseRecOn with
  | nil =>
    rw [(keeps_open hspot).1]
    exact ⟨origin, (keeps_open hspot).2⟩
  | append_singleton uses u ih =>
    obtain ⟨folder, k⟩ := ih fun u hu => hfresh u (List.mem_append_left _ hu)
    rw [Scene.afterUses_concat, List.map_append, List.map_singleton, Use.lastWrite?_concat]
    exact k.step hfile (hfresh u (by simp)) u.2

/-- A store in memory keeps what was written last. -/
theorem Memory.afterUses_holding (path : String) (initial : Option Session) (uses : List Use) :
    (Memory.holding initial).afterUses path uses =
      .holding ((Use.lastWrite? uses).getD initial) := by
  induction uses using List.reverseRecOn with
  | nil => rfl
  | append_singleton uses u ih =>
    have hafter : (Memory.holding initial).afterUses path (uses ++ [u]) =
        (((Memory.holding initial).afterUses path uses).use path u).2 := by
      simp only [afterUses, List.foldl_append, List.foldl_cons, List.foldl_nil]
    rw [hafter, ih, Use.lastWrite?_concat]
    cases u <;> rfl

/-- A folder in which the place of the record is free, or taken by any file, keeps a session as
memory does. It is opened, and opened again, without a change; whatever it was used for before,
keeping a session and removing it succeed; once either has happened, what is read is what was
written last, as it would be from memory; and beside the record everything in the folder stays as
it was, with no staged file left behind. -/
theorem folder_refines_memory (hspot : s.spot = .folder origin)
    (hfile : ∀ entries, origin.find? recordName ≠ some (.folder entries))
    (initial : Option Session) (uses : List (String × Use)) (tag : String)
    (hfresh : ∀ t ∈ tag :: uses.map (·.1), origin.find? (FileStore.stagedAs t) = none) :
    let now := (s.step .openStore).2.afterUses uses
    let memory := (Memory.holding initial).afterUses s.path (uses.map (·.2))
    (s.step .openStore).1 = .opened s.path ∧ now.step .openStore = (.opened s.path, now) ∧
      (∀ u, u ≠ .get → (now.useAs tag u).1 = (memory.use s.path u).1) ∧
      (∀ session, (now.useAs tag (.set session)).1 = .done) ∧ (now.useAs tag .clear).1 = .done ∧
      (∀ written, Use.lastWrite? (uses.map (·.2)) = some written →
        (now.useAs tag .get).1 = .session written ∧
          (now.useAs tag .get).1 = (memory.use s.path .get).1) ∧
      ∀ u, ∃ folder, (now.useAs tag u).2.spot = .folder folder ∧
        folder.erase recordName = origin.erase recordName ∧
        ∀ session, u = .set session → folder.read recordName = .ok session.write := by
  intro now memory
  have hfreshTag : origin.find? (FileStore.stagedAs tag) = none := hfresh tag (.head _)
  obtain ⟨folder, k⟩ : ∃ folder, Keeps s.path origin _ now folder :=
    keeps_afterUses hspot hfile fun u hu => hfresh u.1 (.tail _ (List.mem_map_of_mem hu))
  have hmemory : memory = .holding ((Use.lastWrite? (uses.map (·.2))).getD initial) :=
    Memory.afterUses_holding s.path initial _
  have hset (session : Session) : (now.useAs tag (.set session)).1 = .done := by
    rw [Scene.useAs_set k.attached k.spot (k.isFresh hfreshTag) (k.isFile hfile)]
  have hclear : (now.useAs tag .clear).1 = .done := by
    rw [Scene.useAs_clear k.attached k.spot (k.isFile hfile)]
  have hopen : now.step .openStore = (.opened s.path, now) := by
    have hsame : ({ now with handle := .attached } : Scene) = now := by rw [← k.attached]
    rw [(keeps_open k.spot).1, hsame, k.path_eq]
  refine ⟨congrArg Prod.fst (keeps_open hspot).1, hopen, ?_, hset, hclear, ?_, ?_⟩
  · intro u hu
    rw [hmemory]
    cases u with
    | openStore => rw [Scene.useAs_openStore k.attached k.spot, k.path_eq]; rfl
    | get => exact absurd rfl hu
    | set session => exact hset session
    | clear => exact hclear
  · intro written hw
    rw [hw] at k
    rw [hmemory, hw]
    exact ⟨k.get tag, k.get tag⟩
  · intro u
    obtain ⟨folder', k'⟩ := k.step hfile hfreshTag u
    refine ⟨folder', k'.spot, k'.beside, ?_⟩
    rintro session rfl
    have hrecord : folder'.find? recordName = some (.file session.write) := k'.record
    rw [Folder.read, hrecord]

/-- A record that is no text, beside another file: a user is kept, the folder opened again, and
the user read, while the other file is still there. -/
theorem folder_refines_memory_corrupt :
    let user : Identifier := ⟨"a\"\\b", by decide, by decide⟩
    let origin : Folder := [(recordName, .file [0xFF]), ("notes", .file [])]
    let s : Scene := ⟨"d", .folder origin, .closed, ""⟩
    let uses : List (String × Use) := [("t", .set ⟨user⟩), ("u", .openStore)]
    (((s.step .openStore).2.afterUses uses).useAs "v" .get).1 = .session (some ⟨user⟩) ∧
      ∃ folder, (((s.step .openStore).2.afterUses uses).useAs "v" .get).2.spot = .folder folder ∧
        folder.erase recordName = [("notes", .file [])] := by
  intro user origin s uses
  have hfile (entries : Folder) : origin.find? recordName ≠ some (.folder entries) := by
    simp [origin, Folder.find?]
  have hfresh : ∀ t ∈ "v" :: uses.map (·.1), origin.find? (FileStore.stagedAs t) = none := by
    have hnotes : ∀ t ∈ ["v", "t", "u"], "notes" ≠ FileStore.stagedAs t := by decide
    intro t ht
    simp only [origin, Folder.find?, if_neg (FileStore.stagedAs_ne t).symm, if_neg (hnotes t ht)]
  have herase : origin.erase recordName = [("notes", .file [])] := by
    have hne : "notes" ≠ recordName := by decide
    simp [origin, Folder.erase, hne]
  obtain ⟨-, -, -, -, -, hget, hfolder⟩ :=
    folder_refines_memory (s := s) rfl hfile none uses "v" hfresh
  obtain ⟨folder, hspot, hbeside, -⟩ := hfolder .get
  exact ⟨(hget (some ⟨user⟩) rfl).1, folder, hspot, hbeside.trans herase⟩

end Runs

end Session

end Workbench
