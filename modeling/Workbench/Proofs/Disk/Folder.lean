import Workbench.Disk.Basic

/-!
# Names in a folder

What stands under a name after something was put under a name or removed, and when a file can be
written and take the place of another one without leaving a trace of itself. And what stands at a
place of a disk after the folder there was changed.

* `replaceFile` — a file that is written under a fresh name and then renamed stands under its new
  name, and nothing else has changed.
* `folder?_changeAt` — a folder that was changed is found changed, whatever folders lead to it.
-/

namespace Workbench.Disk

namespace Folder

open Workbench.Text (Bytes)

variable {name other : String} {node : Node} {folder : Folder}

theorem find?_put (name other : String) (node : Node) (folder : Folder) :
    find? other (put name node folder) = if name = other then some node else find? other folder := by
  induction folder with
  | nil => rfl
  | cons e folder ih =>
    obtain ⟨n, old⟩ := e
    by_cases hn : n = name
    · subst hn
      simp only [put, if_true, find?]
      split <;> rfl
    · simp only [put, hn, if_false, find?, ih]
      by_cases hother : n = other
      · rw [if_pos hother, if_pos hother, if_neg (hother ▸ Ne.symm hn)]
      · rw [if_neg hother, if_neg hother]

theorem find?_erase (name other : String) (folder : Folder) :
    find? other (erase name folder) = if name = other then none else find? other folder := by
  induction folder with
  | nil => simp [erase, find?]
  | cons e folder ih =>
    obtain ⟨n, node⟩ := e
    by_cases hn : n = name
    · rw [erase, List.filter_cons_of_neg (by simpa using hn), ← erase, ih, find?]
      by_cases hother : name = other
      · rw [if_pos hother, if_pos hother]
      · rw [if_neg hother, if_neg hother, if_neg (hn ▸ hother)]
    · rw [erase, List.filter_cons_of_pos (by simpa using hn), ← erase, find?, ih, find?]
      by_cases hother : name = other
      · rw [if_pos hother, if_pos hother, if_neg (hother ▸ hn)]
      · rw [if_neg hother, if_neg hother]

theorem erase_of_find?_none (h : find? name folder = none) : erase name folder = folder := by
  induction folder with
  | nil => rfl
  | cons e folder ih =>
    obtain ⟨n, node⟩ := e
    by_cases hn : n = name
    · simp [find?, hn] at h
    · rw [find?, if_neg hn] at h
      rw [erase, List.filter_cons_of_pos (by simpa using hn), ← erase, ih h]

/-- Beside its own name, putting something changes nothing. -/
theorem erase_put (name : String) (node : Node) (folder : Folder) :
    erase name (put name node folder) = erase name folder := by
  induction folder with
  | nil => simp [put, erase]
  | cons e folder ih =>
    obtain ⟨n, old⟩ := e
    by_cases hn : n = name
    · simp [put, erase, hn]
    · rw [put, if_neg hn, erase, List.filter_cons_of_pos (by simpa using hn), ← erase, ih, erase,
        erase, List.filter_cons_of_pos (by simpa using hn)]

/-- Beside the file that is written, nothing changes. -/
theorem erase_write {data : Bytes} {folder' : Folder} (h : write name data folder = .ok folder') :
    erase name folder' = erase name folder := by
  unfold write at h
  split at h <;> cases h
  exact erase_put ..

theorem erase_erase (name : String) (folder : Folder) :
    erase name (erase name folder) = erase name folder := by
  simp only [erase, List.filter_filter, Bool.and_self]

/-- Folders that agree beside a name have the same under every other name. -/
theorem find?_of_erase_eq {folder' : Folder} (h : erase name folder = erase name folder')
    (hne : name ≠ other) : find? other folder = find? other folder' := by
  have hfind := congrArg (find? other) h
  rwa [find?_erase, find?_erase, if_neg hne, if_neg hne] at hfind

/-- A file that is written under a fresh name and then renamed stands under its new name, and
nothing else has changed. -/
theorem replaceFile (data : Bytes) (hfresh : find? name folder = none) (hne : name ≠ other)
    (hfile : ∀ entries, find? other folder ≠ some (.folder entries)) :
    ∃ staged, write name data folder = .ok staged ∧
      renameFile name other staged = .ok (put other (.file data) folder) := by
  refine ⟨put name (.file data) folder, by rw [write, hfresh], ?_⟩
  have hsource : find? name (put name (.file data) folder) = some (.file data) := by
    rw [find?_put, if_pos rfl]
  have htarget : find? other (put name (.file data) folder) = find? other folder := by
    rw [find?_put, if_neg hne]
  rw [renameFile, hsource, htarget, erase_put, erase_of_find?_none hfresh]
  cases h : find? other folder with
  | none => rfl
  | some node =>
    cases node with
    | file old => rfl
    | folder entries => exact absurd h (hfile entries)

/-- A file that can be removed is gone afterwards, and nothing else has changed. -/
theorem removeFile_cases (hfile : ∀ entries, find? name folder ≠ some (.folder entries)) :
    removeFile name folder = .ok (erase name folder) ∨
      removeFile name folder = .error .notFound ∧ erase name folder = folder := by
  rw [removeFile]
  cases h : find? name folder with
  | none => exact .inr ⟨rfl, erase_of_find?_none h⟩
  | some node =>
    cases node with
    | file data => exact .inl rfl
    | folder entries => exact absurd h (hfile entries)

/-! ### Folders at places -/

variable {names : List String} {entries inner : Folder}

/-- A name that a folder stands under leads into it. -/
theorem descend_of_folder (h : find? name folder = some (.folder inner)) (names : List String) :
    folder.descend (name :: names) = descend inner names := by
  cases names with
  | nil => exact descend.eq_2 folder name _ h
  | cons next names => exact descend.eq_3 folder name _ inner h nofun

/-- Only folders lead to a folder. -/
theorem exists_of_descend (h : folder.descend (name :: names) = some (.folder entries)) :
    ∃ inner, find? name folder = some (.folder inner) := by
  cases hfind : find? name folder with
  | none => simp [descend, hfind] at h
  | some node =>
    cases node with
    | folder inner => exact ⟨inner, rfl⟩
    | file data => cases names <;> simp [descend, hfind] at h

/-- A folder that was changed is found changed. -/
theorem descend_change (f : Folder → Folder) (h : folder.descend names = some (.folder entries)) :
    (folder.change f names).descend names = some (.folder (f entries)) := by
  induction names generalizing folder with
  | nil =>
    obtain rfl : folder = entries := Node.folder.inj (Option.some.inj h)
    rfl
  | cons name names ih =>
    obtain ⟨inner, hfind⟩ := exists_of_descend h
    rw [descend_of_folder hfind] at h
    have hput : find? name (folder.change f (name :: names)) =
        some (.folder (change f inner names)) := by
      rw [change, hfind]
      dsimp only
      rw [find?_put, if_pos rfl]
    rw [descend_of_folder hput]
    exact ih h

end Folder

/-- The folder that stands at a place. -/
def folder? (disk : Disk) (place : Place) : Option Folder :=
  match disk.nodeAt place with
  | some (.folder entries) => some entries
  | _ => none

theorem nodeAt_of_folder? {disk : Disk} {place : Place} {entries : Folder}
    (h : disk.folder? place = some entries) : disk.nodeAt place = some (.folder entries) := by
  unfold folder? at h
  split at h
  next hnode =>
    cases h
    exact hnode
  next => cases h

/-- A folder that was changed is found changed, whatever folders lead to it. -/
theorem folder?_changeAt {disk : Disk} {place : Place} {entries : Folder}
    (h : disk.folder? place = some entries) (f : Folder → Folder) :
    (disk.changeAt place f).folder? place = some (f entries) := by
  have hnode : (disk.changeAt place f).nodeAt place = some (.folder (f entries)) :=
    Folder.descend_change f (nodeAt_of_folder? h)
  rw [folder?, hnode]

end Workbench.Disk
