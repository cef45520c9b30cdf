import Workbench.Proofs.Account.SessionWrites
import Workbench.Proofs.Json.TextObjects
import Workbench.Proofs.Session.FileStore
import Workbench.Proofs.Workflow.Admission

/-!
# What a record may be

The file of a session may have been written by anybody, so a record is any bytes at all. Some name a
user, some are objects of texts that say nothing about one, and all others are errors. Which of the
three it is matters, because having nobody signed in is no error.

* `records_decide` — which records name a user, and whom; which name nobody; and which of the two
  errors the others are.
* `unpaired_surrogate_refused` — an object of strings is refused when one of them stands for no
  text.
-/

namespace Workbench.Session

open Workbench.Disk (Folder Node Failure)
open Workbench.Json
open Workbench.Text (Bytes)
open Workbench.Workflow (Desk Started Waiting Answers Handling)

/-! ### Members -/

/-- Among some members a name has a value at last: it does not come again. -/
def HasLast (members : List (String × String)) (name value : String) : Prop :=
  ∃ before after, members = before ++ (name, value) :: after ∧ ∀ m ∈ after, m.1 ≠ name

section

variable {members : List (String × String)} {name value : String}

theorem lookup_eq_some_iff : lookup name members = some value ↔ HasLast members name value := by
  rw [lookup, Option.map_eq_some_iff]
  constructor
  · rintro ⟨m, hfind, rfl⟩
    obtain ⟨hname, after, before, hreverse, hafter⟩ := List.find?_eq_some_iff_append.mp hfind
    obtain rfl := eq_of_beq hname
    refine ⟨before.reverse, after.reverse, ?_, fun m' hm' hname' => ?_⟩
    · rw [← List.reverse_reverse members, hreverse, List.reverse_append, List.reverse_cons,
        List.append_assoc, List.singleton_append]
    · have hother := hafter m' (List.mem_reverse.mp hm')
      rw [hname', beq_self_eq_true] at hother
      cases hother
  · rintro ⟨before, after, rfl, hafter⟩
    refine ⟨(name, value), List.find?_eq_some_iff_append.mpr ⟨beq_self_eq_true name, after.reverse,
      before.reverse, ?_, fun m hm => ?_⟩, rfl⟩
    · rw [List.reverse_append, List.reverse_cons, List.append_assoc, List.singleton_append]
    · rw [beq_eq_false_iff_ne.mpr (hafter m (List.mem_reverse.mp hm))]
      rfl

theorem lookup_eq_none_iff : lookup name members = none ↔ ∀ m ∈ members, m.1 ≠ name := by
  rw [lookup, Option.map_eq_none_iff, List.find?_eq_none]
  simp only [List.mem_reverse, beq_iff_eq, ne_eq]

end

/-- A text is taken for an identifier exactly if it is not blank, and trimmed. -/
theorem ofText?_eq_some_iff {s : String} {user : Identifier} :
    Identifier.ofText? s = some user ↔ Text.isBlankText s = false ∧ user.text = Text.trimmed s := by
  rw [Identifier.ofText?, ← Bool.not_eq_true, ← Account.trimmed_eq_empty_iff]
  split
  next hblank =>
    simp only [reduceCtorEq, false_iff, not_and]
    exact fun hfilled => absurd hblank hfilled
  next hblank =>
    constructor
    · intro h
      cases h
      exact ⟨hblank, rfl⟩
    · rintro ⟨-, htext⟩
      obtain ⟨text, htrimmed, hne⟩ := user
      cases htext
      rfl

/-! ### Records -/

/-- Data is the bytes of a text. -/
def IsText (data : Bytes) : Prop := ∃ text, data = Text.toBytes text

/-- A record names a user: it is an object of texts, and the last of those under the key, which is
not blank, is the identifier of the user but for blanks at its ends. -/
def Names (data : Bytes) (user : Identifier) : Prop :=
  ∃ members value, SpellsTexts members data ∧ HasLast members storageKey value ∧
    Text.isBlankText value = false ∧ user.text = Text.trimmed value

/-- A record names nobody: it is an object of texts, of which none is under the key. -/
def NamesNobody (data : Bytes) : Prop :=
  ∃ members, SpellsTexts members data ∧ ∀ m ∈ members, m.1 ≠ storageKey

section

variable {data : Bytes} {session : Session}

theorem isText_iff : IsText data ↔ ∃ text, Text.ofBytes? data = some text :=
  exists_congr fun _ => Text.ofBytes?_eq_some_iff.symm

theorem read_eq_some_iff : read data = .ok (some session) ↔ Names data session.user := by
  constructor
  · intro h
    unfold read at h
    split at h
    next => cases h
    next members hmembers =>
      split at h
      next => cases h
      next value hvalue =>
        split at h
        next => cases h
        next user huser =>
          cases h
          obtain ⟨hblank, htext⟩ := ofText?_eq_some_iff.mp huser
          exact ⟨members, value, readTextMap_iff.mp hmembers, lookup_eq_some_iff.mp hvalue, hblank,
            htext⟩
  · rintro ⟨members, value, hspells, hlast, hblank, htext⟩
    rw [read, readTextMap_iff.mpr hspells]
    simp only [lookup_eq_some_iff.mpr hlast, ofText?_eq_some_iff.mpr ⟨hblank, htext⟩]

theorem read_eq_none_iff : read data = .ok none ↔ NamesNobody data := by
  constructor
  · intro h
    unfold read at h
    split at h
    next => cases h
    next members hmembers =>
      split at h
      next hnone => exact ⟨members, readTextMap_iff.mp hmembers, lookup_eq_none_iff.mp hnone⟩
      next => split at h <;> cases h
  · rintro ⟨members, hspells, hnone⟩
    rw [read, readTextMap_iff.mpr hspells]
    simp only [lookup_eq_none_iff.mpr hnone]

theorem read_error {e : StoreError} (h : read data = .error e) :
    ∃ reason, e = .unreadable reason := by
  unfold read at h
  split at h
  next =>
    cases h
    exact ⟨_, rfl⟩
  next =>
    split at h
    next => cases h
    next =>
      split at h
      next =>
        cases h
        exact ⟨_, rfl⟩
      next => cases h

theorem read_unreadable_iff : (∃ reason, read data = .error (.unreadable reason)) ↔
    (¬∃ user, Names data user) ∧ ¬NamesNobody data := by
  constructor
  · rintro ⟨reason, h⟩
    refine ⟨fun ⟨user, huser⟩ => ?_, fun hnobody => ?_⟩
    · rw [(@read_eq_some_iff data ⟨user⟩).mpr huser] at h
      cases h
    · rw [read_eq_none_iff.mpr hnobody] at h
      cases h
  · rintro ⟨hnames, hnobody⟩
    cases h : read data with
    | error e =>
      obtain ⟨reason, rfl⟩ := read_error h
      exact ⟨reason, rfl⟩
    | ok found =>
      cases found with
      | none => exact absurd (read_eq_none_iff.mp h) hnobody
      | some session => exact absurd ⟨_, read_eq_some_iff.mp h⟩ hnames

end

/-! ### The store -/

section

variable {folder : Folder} {data : Bytes} (h : folder.find? recordName = some (.file data))
  (path tag : String)

include h

/-- A record that is no text is an error of its own; all others are read. -/
theorem get_cases :
    (¬IsText data ∧
        ∃ reason, FileStore.get ⟨path, some folder, tag⟩ = .error (.unavailable reason)) ∨
      IsText data ∧ FileStore.get ⟨path, some folder, tag⟩ = read data := by
  have hread : folder.read recordName = .ok data := by rw [Folder.read, h]
  rw [FileStore.get]
  simp only [hread]
  cases htext : Text.ofBytes? data with
  | none =>
    refine .inl ⟨fun hdata => ?_, _, rfl⟩
    obtain ⟨text, hsome⟩ := isText_iff.mp hdata
    rw [htext] at hsome
    cases hsome
  | some text => exact .inr ⟨isText_iff.mpr ⟨text, htext⟩, rfl⟩

/-- Of the four answers each record has exactly one. -/
theorem get_decides :
    let s : FileStore := ⟨path, some folder, tag⟩
    (∀ session, s.get = .ok (some session) ↔ IsText data ∧ Names data session.user) ∧
    (s.get = .ok none ↔ IsText data ∧ NamesNobody data) ∧
    ((∃ reason, s.get = .error (.unavailable reason)) ↔ ¬IsText data) ∧
    ((∃ reason, s.get = .error (.unreadable reason)) ↔
      IsText data ∧ (¬∃ user, Names data user) ∧ ¬NamesNobody data) := by
  intro s
  rcases get_cases h path tag with ⟨hdata, reason, hget⟩ | ⟨hdata, hget⟩
  · refine ⟨fun session => ?_, ?_, iff_of_true ⟨reason, hget⟩ hdata, ?_⟩ <;> rw [hget]
    · exact iff_of_false nofun fun hnames => hdata hnames.1
    · exact iff_of_false nofun fun hnobody => hdata hnobody.1
    · exact iff_of_false nofun fun hunreadable => hdata hunreadable.1
  · refine ⟨fun session => ?_, ?_, ?_, ?_⟩ <;> rw [hget]
    · rw [read_eq_some_iff, and_iff_right hdata]
    · rw [read_eq_none_iff, and_iff_right hdata]
    · refine iff_of_false (fun ⟨reason, herror⟩ => ?_) (not_not_intro hdata)
      obtain ⟨_, hunreadable⟩ := read_error herror
      cases hunreadable
    · rw [read_unreadable_iff, and_iff_right hdata]

end

/-! ### Calls -/

/-- The user that a call is made for, if it matters. -/
def userOf? : Workflow.Call → Option Identifier
  | .check _ => none
  | .analyze user _ | .optimize user _ | .register user _ => some user

/-- If a call is made for a user, the record names the user, without blanks at the ends, and with
something between them. -/
def MadeForNamed (data : Bytes) (c : Workflow.Call) : Prop :=
  ∀ user, userOf? c = some user →
    Names data user ∧ user.text ≠ "" ∧ Text.trimmed user.text = user.text

theorem Names.madeFor {data : Bytes} {user : Identifier} (h : Names data user)
    {c : Workflow.Call} (hc : ∀ user', userOf? c = some user' → user' = user) :
    MadeForNamed data c := by
  intro user' huser'
  rw [hc user' huser']
  exact ⟨h, user.ne_empty, user.trimmed_eq⟩

theorem userOf?_ofOperation {op : Operation} {user user' : Identifier} {code : Submission}
    (h : userOf? (.ofOperation op user code) = some user') : user' = user := by
  cases op with
  | compile => cases h
  | analyze => exact (Option.some.inj h).symm
  | optimize => exact (Option.some.inj h).symm

section

variable {stored : Except StoreError (Option Session)} {data : Bytes}
  (hnamed : ∀ session, stored = .ok (some session) → Names data session.user) (d : Desk)
  (op : Operation) (code : Submission)

include hnamed

/-- What is started makes no calls but for the user that the record names, and waits for that
user. -/
theorem started_named :
    (∀ c ∈ (d.start op stored code).1.calls, c ∈ d.calls ∨ MadeForNamed data c) ∧
      ∀ w, (d.start op stored code).2 = .waiting w → Names data w.user := by
  cases hg : Workflow.gate op stored code with
  | error message =>
    rw [Desk.start_of_error d hg]
    refine ⟨fun c hc => .inl hc, fun w hw => ?_⟩
    cases hw
  | ok session =>
    have huser := hnamed session (Workflow.gate_eq_ok_iff.mp hg).1
    rw [Desk.start_of_ok d hg]
    refine ⟨fun c hc => (List.mem_append.mp hc).imp_right fun hc => ?_, ?_⟩
    · rw [List.mem_singleton.mp hc]
      exact huser.madeFor fun _ => userOf?_ofOperation
    · rintro w ⟨⟩
      exact huser

end

/-- What is finished makes no calls but for the user that it waited for. -/
theorem finished_named {data : Bytes} {w : Waiting} (h : Names data w.user) (d : Desk)
    (answers : Answers) (handling : Handling) :
    ∀ c ∈ (d.finish w answers handling).1.calls, c ∈ d.calls ∨ MadeForNamed data c := by
  intro c hc
  unfold Desk.finish at hc
  dsimp only at hc
  split at hc
  next =>
    refine (List.mem_append.mp hc).imp_right fun hc => ?_
    rw [List.mem_singleton.mp hc]
    exact h.madeFor fun _ huser => (Option.some.inj huser).symm
  next => exact .inl hc

/-! ### All records -/

/-- **A record decides who is signed in**, whatever bytes it is made of. A user is found exactly in
a text that names one, and nobody exactly in one that names nobody; what is no text is an error, and
all other texts are another one. So whatever the record is, calls are made for nobody but the user
that it names; and a session that was found and is kept is found again. -/
theorem records_decide (path tag : String) {folder : Folder} {data : Bytes}
    (h : folder.find? recordName = some (.file data)) :
    let s : FileStore := ⟨path, some folder, tag⟩
    (∀ session, s.get = .ok (some session) ↔ IsText data ∧ Names data session.user) ∧
    (s.get = .ok none ↔ IsText data ∧ NamesNobody data) ∧
    ((∃ reason, s.get = .error (.unavailable reason)) ↔ ¬IsText data) ∧
    ((∃ reason, s.get = .error (.unreadable reason)) ↔
      IsText data ∧ (¬∃ user, Names data user) ∧ ¬NamesNobody data) ∧
    (∀ (d : Desk) (op : Operation) (code : Submission),
      (∀ c ∈ (d.start op s.get code).1.calls, c ∈ d.calls ∨ MadeForNamed data c) ∧
      ∀ w, (d.start op s.get code).2 = .waiting w →
        ∀ (d' : Desk) (answers : Answers) (handling : Handling),
          ∀ c ∈ (d'.finish w answers handling).1.calls, c ∈ d'.calls ∨ MadeForNamed data c) ∧
    ∀ session, s.get = .ok (some session) → folder.find? (FileStore.stagedAs tag) = none →
      ∃ s', s.set session = (.ok (), s') ∧ s'.get = .ok (some session) := by
  intro s
  have hfile (entries : Folder) : folder.find? recordName ≠ some (.folder entries) := by
    rw [h]
    nofun
  obtain ⟨hsome, hnone, hunavailable, hunreadable⟩ := get_decides h path tag
  refine ⟨hsome, hnone, hunavailable, hunreadable, fun d op code => ?_, fun session _ hfresh => ?_⟩
  · obtain ⟨hcalls, hwaiting⟩ :=
      started_named (fun session hs => ((hsome session).mp hs).2) d op code
    exact ⟨hcalls, fun w hw d' answers handling =>
      finished_named (hwaiting w hw) d' answers handling⟩
  · refine ⟨_, FileStore.set_eq path hfresh hfile session, FileStore.get_of_session ?_⟩
    rw [Folder.find?_put, if_pos rfl]

/-- For instance, the last of two users counts, without the blanks around, and is found again after
having been kept. -/
theorem records_decide_repeated :
    let user : Identifier := ⟨"b", by decide, by decide⟩
    let data := Text.toBytes "\x7b\"userEmail\":\"a\",\"userEmail\":\" b\"\x7d"
    let folder : Folder := [(recordName, .file data)]
    let s : FileStore := ⟨"d", some folder, "t"⟩
    folder.find? recordName = some (.file data) ∧ IsText data ∧ Names data user ∧
      folder.find? (FileStore.stagedAs "t") = none ∧
      ∃ s', s.set ⟨user⟩ = (.ok (), s') ∧ s'.get = .ok (some ⟨user⟩) := by
  intro user data folder s
  have hrecord : folder.find? recordName = some (.file data) := rfl
  have hfresh : folder.find? (FileStore.stagedAs "t") = none := by decide
  have hget : s.get = .ok (some ⟨user⟩) := by rfl
  obtain ⟨hsome, -, -, -, -, hset⟩ := records_decide "d" "t" hrecord
  obtain ⟨hdata, hnames⟩ := (hsome ⟨user⟩).mp hget
  exact ⟨hrecord, hdata, hnames, hfresh, hset ⟨user⟩ hget hfresh⟩

/-- An object of strings is refused when one of them stands for no text: half of a surrogate pair is
an escape like any other to the grammar, and it makes no difference that the user is named by
another member. -/
theorem unpaired_surrogate_refused :
    let data := Text.toBytes "\x7b\"userEmail\":\"a@x.com\",\"x\":\"\\ud800\"\x7d"
    let folder : Folder := [(recordName, .file data)]
    let written : List (Bytes × Tree) :=
      [(Text.toBytes "userEmail", .string (Text.toBytes "a@x.com")),
        (Text.toBytes "x", .string (Text.toBytes "\\ud800"))]
    (IsText data ∧ Spells (.object written) data ∧ StandsFor (Text.toBytes "userEmail") storageKey ∧
        StandsFor (Text.toBytes "a@x.com") "a@x.com" ∧ StandsFor (Text.toBytes "x") "x" ∧
        Text.isBlankText "a@x.com" = false) ∧
      FileStore.get ⟨"d", some folder, "t"⟩ = .error (.unreadable
        "invalid session JSON: unexpected end of hex escape at line 1 column 35") := by
  intro data folder written
  have hkey : MayStandFor (Text.toBytes "userEmail") (some storageKey) :=
    .of_plain (by decide) (by decide +kernel)
  have hvalue : MayStandFor (Text.toBytes "a@x.com") (some "a@x.com") :=
    .of_plain (by decide) (by decide +kernel)
  have hx : MayStandFor (Text.toBytes "x") (some "x") := .of_plain (by decide) (by decide +kernel)
  have hescape : Inside (Text.toBytes "\\ud800") := .code (by decide) .nil
  have hspells : Spells (.object written) data :=
    ⟨[], .object (.first (.mk (.none _) hkey.inside (.none _) (.string _ hvalue.inside))
      (.next (.none _) (.mk (.none _) hx.inside (.none _) (.string _ hescape))
        (.close (.none _)))), .none _⟩
  have hdata : IsText data := ⟨"\x7b\"userEmail\":\"a@x.com\",\"x\":\"\\ud800\"\x7d", rfl⟩
  have hblank : Text.isBlankText "a@x.com" = false := by decide
  refine ⟨⟨hdata, hspells, (hkey.stands _).mpr rfl, (hvalue.stands _).mpr rfl,
    (hx.stands _).mpr rfl, hblank⟩, ?_⟩
  decide +kernel

end Workbench.Session
