import Mathlib.Data.List.Induction
import Workbench.Proofs.Session.FileStore

/-!
# All or nothing

A use of a session folder that fails leaves no trace, whatever others have done to the folder
before: put a folder in the place of the record, removed the session folder, made it again behind
the back of the program, or put a file in its place. A session is written in two stages, and the
second one may fail; the staged file of the first one is gone even then.

* `Spares` — what no step ever does: change anything in a folder beside its record.
* `set_cases`, `clear_cases` — a use that is not done leaves the scene as it was.
* `failures_leave_folder` — after any sequence of steps, the next one leaves no staged file; if it
  fails it leaves everything as it was, and if it keeps a session it changes the record alone.
-/

namespace Workbench.Session

open Workbench.Disk (Folder Node Failure)

/-! ### One use of a folder -/

namespace FileStore

variable {folder : Folder} {tag : String}

/-- A folder in the place of the record is in the way of a session. The staged file goes. -/
theorem set_of_blocked (path : String) (hfresh : folder.find? (stagedAs tag) = none)
    {entries : Folder} (hblocked : folder.find? recordName = some (.folder entries))
    (session : Session) :
    ∃ e, set session ⟨path, some folder, tag⟩ = (.error e, ⟨path, some folder, tag⟩) := by
  have hstaged : stagedName ⟨path, some folder, tag⟩ = stagedAs tag := rfl
  have hwrite : folder.write (stagedAs tag) session.write =
      .ok (folder.put (stagedAs tag) (.file session.write)) := by
    rw [Folder.write, hfresh]
  have hrename : (folder.put (stagedAs tag) (.file session.write)).renameFile (stagedAs tag)
      recordName = .error .isFolder := by
    rw [Folder.renameFile, Folder.find?_put, if_pos rfl, Folder.find?_put,
      if_neg (stagedAs_ne tag), hblocked]
  have herase : (folder.put (stagedAs tag) (.file session.write)).erase (stagedAs tag) = folder := by
    rw [Folder.erase_put, Folder.erase_of_find?_none hfresh]
  simp only [set, writeRecord, hstaged, hwrite, hrename, herase]
  exact ⟨_, rfl⟩

/-- A folder in the place of the record is no session that could be removed. -/
theorem clear_of_blocked (path tag : String) {entries : Folder}
    (hblocked : folder.find? recordName = some (.folder entries)) :
    ∃ e, clear ⟨path, some folder, tag⟩ = (.error e, ⟨path, some folder, tag⟩) := by
  simp only [clear, Folder.removeFile, hblocked]
  exact ⟨_, rfl⟩

/-- Nothing can be kept in a folder that was removed. -/
theorem set_of_removed (path tag : String) (session : Session) :
    ∃ e, set session ⟨path, none, tag⟩ = (.error e, ⟨path, none, tag⟩) :=
  ⟨_, rfl⟩

theorem clear_of_removed (path tag : String) :
    clear ⟨path, none, tag⟩ = (.ok (), ⟨path, none, tag⟩) :=
  rfl

/-- Either a folder stands in the place of the record, or none does. -/
theorem blocked_or (folder : Folder) :
    (∃ entries, folder.find? recordName = some (.folder entries)) ∨
      ∀ entries, folder.find? recordName ≠ some (.folder entries) := by
  by_cases h : ∃ entries, folder.find? recordName = some (.folder entries)
  · exact .inl h
  · exact .inr fun entries he => h ⟨entries, he⟩

end FileStore

namespace Scene

/-- A step, with what makes the name of a staged file unique. -/
def stepAs (s : Scene) (tag : String) (st : FolderStep) : FolderAnswer × Scene :=
  ({ s with tag := tag } : Scene).step st

/-- The scene after some steps. -/
def after (s : Scene) (steps : List (String × FolderStep)) : Scene :=
  steps.foldl (fun s st => (s.stepAs st.1 st.2).2) s

theorem after_concat (s : Scene) (steps : List (String × FolderStep)) (tag : String)
    (st : FolderStep) : s.after (steps ++ [(tag, st)]) = ((s.after steps).stepAs tag st).2 := by
  simp only [after, List.foldl_append, List.foldl_cons, List.foldl_nil]

/-- Something stands in the folder under the name of a staged file. -/
def Stages (s : Scene) (tag : String) : Prop :=
  ∃ folder, s.spot = .folder folder ∧ folder.find? (FileStore.stagedAs tag) ≠ none

/-- In the folder that is there now, nothing has changed beside the record. A folder that was made
in the meantime was empty. -/
def Spares (s s' : Scene) : Prop :=
  ∀ folder', s'.spot = .folder folder' →
    ∃ folder, s.entries? = some folder ∧ folder'.erase recordName = folder.erase recordName

variable {s s' : Scene} {tag : String} {folder : Folder}

theorem spares_of_spot_eq (h : s'.spot = s.spot) : s.Spares s' := by
  intro folder' hfolder
  rw [h] at hfolder
  exact ⟨folder', by rw [entries?, hfolder], rfl⟩

theorem spares_of_entries (hentries : s.entries? = some folder) {folder' : Folder}
    (hspot : s'.spot = .folder folder')
    (hbeside : folder'.erase recordName = folder.erase recordName) : s.Spares s' := by
  intro found hfound
  rw [hspot] at hfound
  cases hfound
  exact ⟨folder, hentries, hbeside⟩

theorem spares_of_gone (h : ∀ folder, s'.spot ≠ .folder folder) : s.Spares s' :=
  fun folder hfolder => absurd hfolder (h folder)

/-- What is spared gets no staged files. -/
theorem Spares.stages (h : s.Spares s') (hs : s'.Stages tag) : s.Stages tag := by
  obtain ⟨folder', hspot', hstaged⟩ := hs
  obtain ⟨folder, hentries, hbeside⟩ := h folder' hspot'
  rw [Folder.find?_of_erase_eq hbeside (FileStore.stagedAs_ne tag).symm] at hstaged
  unfold entries? at hentries
  split at hentries
  next =>
    obtain rfl := Option.some.inj hentries
    exact absurd rfl hstaged
  next entries hspot =>
    obtain rfl := Option.some.inj hentries
    exact ⟨entries, hspot, hstaged⟩
  next => cases hentries

/-- A folder without a staged file of some name. -/
theorem find?_of_not_stages (h : ¬s.Stages tag) (hspot : s.spot = .folder folder) :
    folder.find? (FileStore.stagedAs tag) = none := by
  by_contra hstaged
  exact h ⟨folder, hspot, hstaged⟩

/-! ### What the program does -/

/-- The program works in the folder at the spot, or its store has no folder. -/
theorem attached_or (s : Scene) :
    (∃ folder, s.handle = .attached ∧ s.spot = .folder folder ∧
        s.store = ⟨s.path, some folder, s.tag⟩) ∨ s.store = ⟨s.path, none, s.tag⟩ := by
  unfold store
  split
  next hh hs => exact .inl ⟨_, hh, hs, rfl⟩
  next => exact .inr rfl

/-- Reading changes nothing. -/
theorem stepAs_get (s : Scene) (tag : String) : (s.stepAs tag .get).2 = { s with tag := tag } := by
  simp only [stepAs, step, use]
  split
  · rfl
  · split <;> rfl

theorem keep_store (s : Scene) : s.keep s.store = s := by
  obtain ⟨path, spot, handle, tag⟩ := s
  cases handle <;> cases spot <;> rfl

/-- A store that is as it was leaves the scene as it was. -/
theorem use_settle_store (s : Scene) (result : Except StoreError Unit) :
    (s.use (s.settle (result, s.store))).2 = s := by
  unfold use settle
  cases result <;> split <;> first | rfl | exact keep_store s

/-- A session is kept in the record, and nothing else changes; or it is not kept, and nothing
changes at all. -/
theorem set_cases (hfresh : ¬s.Stages tag) (session : Session) :
    (∃ folder, s.spot = .folder folder ∧ s.stepAs tag (.set session) = (.done, { s with
        tag := tag, spot := .folder (folder.put recordName (.file session.write)) })) ∨
      (s.stepAs tag (.set session)).1 ≠ .done ∧
        (s.stepAs tag (.set session)).2 = { s with tag := tag } := by
  let t : Scene := { s with tag := tag }
  have hfailed {e : StoreError} (h : t.store.set session = (.error e, t.store)) :
      (s.stepAs tag (.set session)).1 ≠ .done ∧ (s.stepAs tag (.set session)).2 = t := by
    have hstep : s.stepAs tag (.set session) = t.use (t.settle (.error e, t.store)) := by
      rw [← h]
      rfl
    rw [hstep, use_settle_store]
    refine ⟨?_, rfl⟩
    unfold use
    split <;> nofun
  rcases t.attached_or with ⟨folder, hh, hs, hstore⟩ | hstore
  · have hfree : folder.find? (FileStore.stagedAs tag) = none := find?_of_not_stages hfresh hs
    rcases FileStore.blocked_or folder with ⟨entries, hblocked⟩ | hfile
    · obtain ⟨e, h⟩ := FileStore.set_of_blocked s.path hfree hblocked session
      exact .inr (hfailed (hstore ▸ h))
    · exact .inl ⟨folder, hs, useAs_set hh hs hfree hfile session⟩
  · obtain ⟨e, h⟩ := FileStore.set_of_removed s.path tag session
    exact .inr (hfailed (hstore ▸ h))

/-- The record is removed, and nothing else changes; or nothing changes at all. -/
theorem clear_cases (s : Scene) (tag : String) :
    (∃ folder, s.spot = .folder folder ∧ s.stepAs tag .clear =
        (.done, { s with tag := tag, spot := .folder (folder.erase recordName) })) ∨
      (s.stepAs tag .clear).2 = { s with tag := tag } := by
  let t : Scene := { s with tag := tag }
  have hsame {result : Except StoreError Unit} (h : t.store.clear = (result, t.store)) :
      (s.stepAs tag .clear).2 = t := by
    have hstep : s.stepAs tag .clear = t.use (t.settle (result, t.store)) := by
      rw [← h]
      rfl
    rw [hstep, use_settle_store]
  rcases t.attached_or with ⟨folder, hh, hs, hstore⟩ | hstore
  · rcases FileStore.blocked_or folder with ⟨entries, hblocked⟩ | hfile
    · obtain ⟨e, h⟩ := FileStore.clear_of_blocked s.path tag hblocked
      exact .inr (hsame (hstore ▸ h))
    · exact .inl ⟨folder, hs, useAs_clear hh hs hfile⟩
  · exact .inr (hsame (hstore ▸ FileStore.clear_of_removed s.path tag))

/-! ### What others do -/

theorem entries?_of_folder (h : s.spot = .folder folder) : s.entries? = some folder := by
  rw [entries?, h]

/-- No step changes anything beside the record, unless the folder goes as a whole. -/
theorem spares_stepAs (hfresh : ¬s.Stages tag) (st : FolderStep) :
    s.Spares (s.stepAs tag st).2 := by
  cases st with
  | openStore =>
    simp only [stepAs, step, openStore]
    split
    next hs => exact spares_of_entries (by rw [entries?, hs]) rfl rfl
    next => exact spares_of_spot_eq rfl
    next => exact spares_of_spot_eq rfl
  | get => exact spares_of_spot_eq (by rw [stepAs_get])
  | set session =>
    rcases set_cases hfresh session with ⟨folder, hs, h⟩ | ⟨-, h⟩
    · rw [h]
      exact spares_of_entries (entries?_of_folder hs) rfl (Folder.erase_put ..)
    · exact spares_of_spot_eq (by rw [h])
  | clear =>
    rcases clear_cases s tag with ⟨folder, hs, h⟩ | h
    · rw [h]
      exact spares_of_entries (entries?_of_folder hs) rfl (Folder.erase_erase ..)
    · exact spares_of_spot_eq (by rw [h])
  | seed data =>
    simp only [stepAs, step]
    split
    next => exact spares_of_spot_eq rfl
    next entries hentries =>
      split
      next written hwrite =>
        exact spares_of_entries hentries rfl (Folder.erase_write hwrite)
      next => exact spares_of_entries hentries rfl rfl
  | blockRecord =>
    simp only [stepAs, step]
    split
    next => exact spares_of_spot_eq rfl
    next entries hentries => exact spares_of_entries hentries rfl (Folder.erase_put ..)
  | unblockRecord =>
    simp only [stepAs, step]
    split
    next entries hs =>
      split
      next => exact spares_of_entries (entries?_of_folder hs) rfl (Folder.erase_erase ..)
      next => exact spares_of_spot_eq rfl
    next => exact spares_of_spot_eq rfl
  | blockFolder => exact spares_of_gone fun _ => Spot.noConfusion
  | removeFolder =>
    simp only [stepAs, step]
    split
    next => exact spares_of_gone fun _ => Spot.noConfusion
    next => exact spares_of_spot_eq rfl

/-- What fails leaves everything as it was. -/
theorem stepAs_of_failed (hfresh : ¬s.Stages tag) {st : FolderStep} {e : StoreError}
    (h : (s.stepAs tag st).1 = .failed e) : (s.stepAs tag st).2 = { s with tag := tag } := by
  cases st with
  | openStore =>
    simp only [stepAs, step, openStore] at h ⊢
    split at h
    next => cases h
    next => cases h
    next hs => rw [hs]
  | get => exact stepAs_get s tag
  | set session =>
    rcases set_cases hfresh session with ⟨folder, -, hdone⟩ | ⟨-, hsame⟩
    · rw [hdone] at h
      cases h
    · exact hsame
  | clear =>
    rcases clear_cases s tag with ⟨folder, -, hdone⟩ | hsame
    · rw [hdone] at h
      cases h
    · exact hsame
  | seed data =>
    -- others are told nothing but that they are done
    simp only [stepAs, step] at h
    split at h
    · cases h
    · split at h <;> cases h
  | blockRecord =>
    simp only [stepAs, step] at h
    split at h <;> cases h
  | unblockRecord =>
    simp only [stepAs, step] at h
    split at h
    · split at h <;> cases h
    · cases h
  | blockFolder => cases h
  | removeFolder =>
    simp only [stepAs, step] at h
    split at h <;> cases h

/-! ### Runs -/

/-- No run leaves staged files. -/
theorem stages_after {steps : List (String × FolderStep)}
    (hfresh : ∀ t ∈ steps.map (·.1), ¬s.Stages t) {tag : String} (h : (s.after steps).Stages tag) :
    s.Stages tag := by
  induction steps using List.reverseRecOn generalizing tag with
  | nil => exact h
  | append_singleton steps st ih =>
    obtain ⟨t, st⟩ := st
    rw [List.map_append, List.forall_mem_append] at hfresh
    obtain ⟨hbefore, hlast⟩ := hfresh
    rw [after_concat] at h
    have hnew : ¬(s.after steps).Stages t := fun ht => hlast t (.head _) (ih hbefore ht)
    exact ih hbefore ((spares_stepAs hnew st).stages h)

/-- **All or nothing.** Steps of the program and of others follow each other in any order, and the
names of the staged files are none that were there in the beginning. Then no step leaves a staged
file behind. If one of the program fails, everything is as it was before, in particular the names
in the folder and the content of the record. Reading changes nothing either, and keeping a session
changes nothing but the record, which then holds the session. -/
theorem failures_leave_folder (s : Scene) (steps : List (String × FolderStep)) (tag : String)
    (hfresh : ∀ t ∈ tag :: steps.map (·.1), ¬s.Stages t) :
    let now := s.after steps
    (∀ t, now.Stages t → s.Stages t) ∧
      ∀ st,
        let answer := (now.stepAs tag st).1
        let next := (now.stepAs tag st).2
        (∀ t, next.Stages t → now.Stages t) ∧
          (∀ e, answer = .failed e →
            next = { now with tag := tag } ∧ next.listing = now.listing ∧
              next.record = now.record) ∧
          (st = .get → next = { now with tag := tag }) ∧
          ∀ session, st = .set session → answer = .done →
            ∃ folder folder', now.spot = .folder folder ∧ next.spot = .folder folder' ∧
              folder'.erase recordName = folder.erase recordName ∧
              folder'.read recordName = .ok session.write := by
  intro now
  rw [List.forall_mem_cons] at hfresh
  have hnow (t : String) (h : now.Stages t) : s.Stages t := stages_after hfresh.2 h
  have hnew : ¬now.Stages tag := fun h => hfresh.1 (hnow tag h)
  refine ⟨hnow, fun st => ?_⟩
  intro answer next
  refine ⟨fun t h => (spares_stepAs hnew st).stages h, ?_, ?_, ?_⟩
  · intro e hfailed
    have hsame : next = { now with tag := tag } := stepAs_of_failed hnew hfailed
    refine ⟨hsame, ?_, ?_⟩
    · rw [hsame]
      rfl
    · rw [hsame]
      rfl
  · rintro rfl
    exact stepAs_get now tag
  · rintro session rfl hdone
    rcases set_cases hnew session with ⟨folder, hs, h⟩ | ⟨hne, -⟩
    · refine ⟨folder, folder.put recordName (.file session.write), hs, ?_, ?_, ?_⟩
      · exact congrArg (fun r => r.2.spot) h
      · exact Folder.erase_put ..
      · rw [Folder.read, Folder.find?_put, if_pos rfl]
    · exact absurd hdone hne

/-- A session cannot take the place of a folder; afterwards there is no staged file beside it. -/
theorem failures_leave_folder_blocked :
    let s : Scene := ⟨"d", .folder [("notes", .file [])], .closed, ""⟩
    let now := s.after [("t", .openStore), ("u", .blockRecord)]
    let r := now.stepAs "v" (.set ⟨⟨"a", by decide, by decide⟩⟩)
    (∀ t ∈ ["v", "t", "u"], ¬s.Stages t) ∧
      r.1 = .failed (.unavailable "d/session.json: Is a directory (os error 21)") ∧
      r.2.spot = .folder [("notes", .file []), (recordName, .folder [])] := by
  intro s now r
  have hnotes : ∀ t ∈ ["v", "t", "u"], "notes" ≠ FileStore.stagedAs t := by decide
  have hfresh : ∀ t ∈ ["v", "t", "u"], ¬s.Stages t := by
    rintro t ht ⟨folder, hspot, hstaged⟩
    cases hspot
    exact hstaged (if_neg (hnotes t ht))
  have hfailed : r.1 = .failed (.unavailable "d/session.json: Is a directory (os error 21)") := by
    decide +kernel
  obtain ⟨-, hstep⟩ :=
    failures_leave_folder s [("t", .openStore), ("u", .blockRecord)] "v" hfresh
  obtain ⟨-, hsame, -⟩ := hstep (.set ⟨⟨"a", by decide, by decide⟩⟩)
  refine ⟨hfresh, hfailed, ?_⟩
  exact congrArg Scene.spot (hsame _ hfailed).1

end Scene

end Workbench.Session
