import Mathlib.Data.List.Induction
import Workbench.CommandLine.Program
import Workbench.Proofs.Account.SessionWrites
import Workbench.Proofs.Gateway.Redirects
import Workbench.Proofs.Session.FileStore

/-!
# Who is signed in from run to run

Every run of the program starts anew; all that one leaves to the next is the record in the session
folder. So whoever is signed in is known from the commands of the runs and their exit codes alone:
it is the user of the last run that has signed somebody up or in, unless somebody was signed out
after that.

* `perform_leaves` — what a command leaves in the folder.
* `Shares` — runs that have one session folder between them, which nobody else touches.
* `whoAmI_tells_last_user` — after any such runs, the program says who is signed in, and only
  signing up, in and out touches the record.
* `help_signs_nobody_in` — a run that gives help does nothing else, whatever command it names.
-/

namespace Workbench.CommandLine

open Workbench.Account (Form)
open Workbench.Disk (Folder Node Place)
open Workbench.Gateway (Network Traffic)
open Workbench.Session (FileStore recordName)
open Workbench.Session.FileStore (stagedAs)

/-! ### What is to be said of a run -/

/-- One run of the program: where it takes place, and what the network does. -/
structure Invocation where
  /-- The machine. -/
  machine : Machine
  /-- The network. -/
  network : Network

/-- What a command makes of who is signed in, if it succeeds: the email that was given, trimmed,
or nobody. -/
def Command.change? : Command → Option (Option String)
  | .signUp _ email _ | .signIn email _ => some (some (Text.trimmed email))
  | .signOut => some none
  | .whoAmI | .operate .. => none

namespace Invocation

/-- What a run leaves behind. -/
def result (i : Invocation) : Finished := run i.network i.machine

/-- The command of a run. -/
def command? (i : Invocation) : Option Command := (read i.machine.arguments).toOption

/-- What a run makes of who is signed in: nothing unless its command has succeeded. -/
def change? (i : Invocation) : Option (Option String) :=
  if i.result.code = 0 then i.command?.bind Command.change? else none

end Invocation

/-- Who is signed in after some runs, by their commands and exit codes. -/
def signedIn? (runs : List Invocation) : Option String :=
  (runs.filterMap Invocation.change?).getLast?.join

/-- The record of a session as it stands in a folder; none without a session. -/
def recordOf (session? : Option Session) : Option Node := session?.map fun s => .file s.write

/-! ### What a command leaves -/

/-- Whether a command has succeeded. -/
def Done.isWell (d : Done) : Bool :=
  match d.ending with
  | .ok (_, isWell) => isWell
  | .error _ => false

/-- A store has a folder, and in it the record of a session, or none. -/
def HasRecord (s : FileStore) (session? : Option Session) : Prop :=
  ∃ entries, s.folder = some entries ∧ entries.find? recordName = recordOf session?

/-- What a command leaves of a store: what it is to change is changed if it succeeds, and nothing
is changed otherwise. -/
structure Leaves (command : Command) (s : FileStore) (d : Done) : Prop where
  /-- Where it succeeds and is to change who is signed in, the record is that of its user. -/
  changed : ∀ email?, d.isWell = true → command.change? = some email? →
    ∃ session? : Option Session, session?.map (·.user.text) = email? ∧ HasRecord d.store session?
  /-- Where it does not succeed, or is not to change anything, the store is as it was. -/
  same : d.isWell = false ∨ command.change? = none → d.store = s

section Perform

variable (path : String) {tag : String} {entries : Folder}
  (hfresh : entries.find? (stagedAs tag) = none)
  (hfile : ∀ inner, entries.find? recordName ≠ some (.folder inner))

/-- A command that is to change nothing leaves nothing changed. -/
theorem Leaves.of_unchanged {command : Command} {s : FileStore} {d : Done}
    (hstore : d.store = s) (h : d.isWell = false ∨ command.change? = none) :
    Leaves command s d where
  changed email? hwell hchange := by
    rcases h with h | h
    · rw [h] at hwell
      cases hwell
    · rw [h] at hchange
      cases hchange
  same _ := hstore

include hfresh hfile in
/-- An attempt leaves the session of its user if it succeeds, and nothing if it does not. -/
theorem leaves_attempt {command : Command} {email : String} {user : Identifier}
    (hchange : command.change? = some (some (Text.trimmed email)))
    (huser : user.text = Text.trimmed email) (form : Form) (reply : Account.Reply)
    (traffic : Traffic) :
    Leaves command ⟨path, some entries, tag⟩
      (attempt form traffic (Account.complete form user reply ⟨path, some entries, tag⟩)) := by
  cases reply with
  | error e => exact .of_unchanged rfl (.inl rfl)
  | ok verdict =>
    cases verdict with
    | rejected reason => exact .of_unchanged rfl (.inl rfl)
    | accepted =>
      have hset : SessionStore.set ⟨user⟩ (⟨path, some entries, tag⟩ : FileStore) = _ :=
        FileStore.set_eq path hfresh hfile ⟨user⟩
      simp only [Account.complete, Account.establish, hset]
      constructor
      · intro email? _ hemail
        rw [hchange, Option.some.injEq] at hemail
        refine ⟨some ⟨user⟩, ?_, _, rfl, ?_⟩
        · rw [← hemail, Option.map_some, huser]
        · rw [Folder.find?_put, if_pos rfl]
          rfl
      · rintro (hwell | hnone)
        · cases hwell
        · rw [hchange] at hnone
          cases hnone

include hfresh hfile in
/-- What a command leaves of a store. -/
theorem perform_leaves (m : Machine) (network : Network) (settings : Settings) (g : Gateway)
    (disk : Disk) (command : Command) :
    Leaves command ⟨path, some entries, tag⟩
      (perform m network settings g disk ⟨path, some entries, tag⟩ command) := by
  cases command with
  | signUp name email password =>
    simp only [perform, signUp]
    rcases Account.SignUp.ofForm_cases name email password with ⟨-, _, h⟩ | ⟨-, c, h, hc⟩
    · rw [h]
      exact .of_unchanged rfl (.inl rfl)
    · rw [h]
      exact leaves_attempt path hfresh hfile rfl hc ..
  | signIn email password =>
    simp only [perform, signIn]
    rcases Account.SignIn.ofForm_cases email password with ⟨-, _, h⟩ | ⟨-, c, h, hc⟩
    · rw [h]
      exact .of_unchanged rfl (.inl rfl)
    · rw [h]
      exact leaves_attempt path hfresh hfile rfl hc ..
  | signOut =>
    have hclear : SessionStore.clear (⟨path, some entries, tag⟩ : FileStore) = _ :=
      FileStore.clear_eq path tag hfile
    simp only [perform, signOut, Account.signOut, hclear]
    constructor
    · intro email? _ hemail
      obtain rfl : none = email? := Option.some.inj hemail
      refine ⟨none, rfl, _, rfl, ?_⟩
      rw [Folder.find?_erase, if_pos rfl]
      rfl
    · rintro (hwell | hnone)
      · cases hwell
      · cases hnone
  | whoAmI =>
    refine .of_unchanged ?_ (.inr rfl)
    simp only [perform, whoAmI]
    split <;> rfl
  | operate op file =>
    refine .of_unchanged ?_ (.inr rfl)
    simp only [perform]
    split
    next => rfl
    next =>
      simp only [operate]
      split <;> rfl

/-- The program says whose session is kept. -/
theorem whoAmI_eq {session? : Option Session}
    (h : entries.find? recordName = recordOf session?) :
    (whoAmI ⟨path, some entries, tag⟩).ending =
      .ok (match session? with
        | some session => (Terminal.line ("Signed in as " ++ session.user.text), true)
        | none => (Terminal.line "Not signed in.", false)) := by
  cases session? with
  | none =>
    rw [whoAmI, FileStore.get_of_none h]
  | some session =>
    rw [whoAmI, FileStore.get_of_session h]

end Perform

/-! ### From the command line to the folder and back -/

/-- A run comes as far as its session folder: its command is read, its settings are loaded, the
address of the backend is one, and the folder is opened, which may have changed the disk. -/
structure Opens (m : Machine) (command : Command) (settings : Settings) (url : Url) (disk : Disk)
    (place : Place) (entries : Folder) : Prop where
  /-- The command is read. -/
  read_eq : read m.arguments = .ok command
  /-- The settings are loaded. -/
  load_eq : Settings.load ⟨m.environment, m.disk, []⟩ = .ok settings
  /-- The address of the backend is one. -/
  url_eq : settings.url = .ok url
  /-- The folder is opened. -/
  openAt_eq : FileStore.openAt m.disk settings.folder m.tag =
    .ok (disk, place, ⟨settings.folder, some entries, m.tag⟩)

/-- What stands in the place of the record, in the session folder at a place. -/
def recordAt? (disk : Disk) (place : Place) : Option Node :=
  (disk.folder? place).bind (·.find? recordName)

section Runs

variable {m : Machine} {command : Command} {settings : Settings} {url : Url}
  {disk : Disk} {place : Place} {entries : Folder}

/-- The folder of a store that was opened stands at its place. -/
theorem openAt_eq_ok {path tag : String} {top disk : Disk} {store : FileStore}
    (h : FileStore.openAt top path tag = .ok (disk, place, store)) :
    ∃ entries, store = ⟨path, some entries, tag⟩ ∧ disk.folder? place = some entries := by
  unfold FileStore.openAt at h
  dsimp only at h
  split at h
  next => cases h
  next made _ =>
    split at h
    next => cases h
    next entries hfolder =>
      cases h
      refine ⟨entries, rfl, ?_⟩
      unfold Disk.folderAt at hfolder
      split at hfolder
      next => cases hfolder
      next =>
        split at hfolder
        next hnode =>
          cases hfolder
          rw [Disk.folder?, hnode]
        next => cases hfolder
        next => cases hfolder

theorem Opens.run_eq (h : Opens m command settings url disk place entries) (network : Network) :
    run network m = finished disk place (perform m network settings (Gateway.ofUrl url) disk
      ⟨settings.folder, some entries, m.tag⟩ command) := by
  simp only [run, h.read_eq, h.load_eq, h.url_eq, h.openAt_eq]

/-- A run that does not come as far as its session folder leaves the disk as it was. It fails, unless
its command line was read as no command, when it may just tell its version or give help. -/
theorem run_of_not_opens (network : Network)
    (h : ∀ command settings url disk place entries,
      ¬Opens m command settings url disk place entries) :
    (run network m).disk = m.disk ∧
      ((run network m).code ≠ 0 ∨ ∃ stop, read m.arguments = .error stop) := by
  unfold run
  split
  next stop hread =>
    refine ⟨?_, .inr ⟨stop, hread⟩⟩
    cases stop <;> rfl
  next command hread =>
    split
    next => exact ⟨rfl, .inl Nat.one_ne_zero⟩
    next settings hload =>
      split
      next => exact ⟨rfl, .inl Nat.one_ne_zero⟩
      next url hurl =>
        split
        next => exact ⟨rfl, .inl Nat.one_ne_zero⟩
        next disk place store hopen =>
          obtain ⟨entries, rfl, -⟩ := openAt_eq_ok hopen
          exact absurd ⟨hread, hload, hurl, hopen⟩ (h command settings url disk place entries)

theorem finished_code (d : Done) :
    (finished disk place d).code = if d.isWell then 0 else 1 := by
  obtain ⟨ending, store, traffic⟩ := d
  cases ending <;> rfl

theorem finished_recordAt? (hfolder : disk.folder? place = some entries) {d : Done}
    {left : Folder} (hleft : d.store.folder = some left) :
    recordAt? (finished disk place d).disk place = left.find? recordName := by
  have hdisk : (finished disk place d).disk = d.store.keepIn disk place := by
    rw [finished]
    split <;> rfl
  rw [hdisk, FileStore.keepIn, hleft, recordAt?, Disk.folder?_changeAt hfolder, Option.bind_some]

end Runs

/-! ### Runs with one folder between them -/

/-- A run opens the folder at a place and finds the record there; the name of the file by way of
which it would write another record is free. -/
def Invocation.Finds (i : Invocation) (place : Place) (record : Option Node) : Prop :=
  ∃ command settings url disk entries,
    Opens i.machine command settings url disk place entries ∧
      entries.find? recordName = record ∧ entries.find? (stagedAs i.machine.tag) = none

/-- Runs with one session folder between them, in which there is no record in the beginning. Every
run finds the record that those before it have left, with which it comes to an end. -/
inductive Shares (place : Place) : List Invocation → Option Node → Prop where
  /-- Before the first run there is no record. -/
  | start : Shares place [] none
  /-- A run opens the folder. -/
  | next {runs : List Invocation} {record : Option Node} {i : Invocation}
      (before : Shares place runs record) (finds : i.Finds place record) :
      Shares place (runs ++ [i]) (recordAt? i.result.disk place)
  /-- A run does not come as far as to open a folder. -/
  | astray {runs : List Invocation} {record : Option Node} {i : Invocation}
      (before : Shares place runs record)
      (unopened : ∀ command settings url disk place entries,
        ¬Opens i.machine command settings url disk place entries) :
      Shares place (runs ++ [i]) record

theorem signedIn?_concat (runs : List Invocation) (i : Invocation) :
    signedIn? (runs ++ [i]) = i.change?.getD (signedIn? runs) := by
  rw [signedIn?, List.filterMap_append, List.getLast?_append, signedIn?]
  cases h : i.change? <;> simp [h]

namespace Invocation

variable {i : Invocation} {place : Place} {session? : Option Session}

/-- A run that opens the folder leaves the record of whoever it signs in, and no record if it signs
out; and it leaves the record as it was if it does neither. -/
theorem Finds.leaves (h : i.Finds place (recordOf session?)) :
    (∀ email?, i.change? = some email? →
      ∃ session? : Option Session, session?.map (·.user.text) = email? ∧
        recordAt? i.result.disk place = recordOf session?) ∧
      (i.change? = none → recordAt? i.result.disk place = recordOf session?) := by
  obtain ⟨command, settings, url, disk, entries, hopens, hrecord, hfresh⟩ := h
  have hfile (inner : Folder) : entries.find? recordName ≠ some (.folder inner) := by
    rw [hrecord]
    cases session? <;> simp [recordOf]
  obtain ⟨_, hstore, hfolder⟩ := openAt_eq_ok hopens.openAt_eq
  cases hstore
  have hleaves := perform_leaves settings.folder hfresh hfile i.machine i.network settings
    (Gateway.ofUrl url) disk command
  have hrun : i.result = _ := hopens.run_eq i.network
  have hcommand : i.command? = some command := by rw [command?, hopens.read_eq]; rfl
  rw [change?, hcommand, hrun, finished_code, Option.bind_some]
  generalize perform i.machine i.network settings (Gateway.ofUrl url) disk _ command = d at hleaves
  cases hwell : d.isWell with
  | false =>
    have hsame := hleaves.same (.inl hwell)
    refine ⟨fun email? hchange => ?_, fun _ => ?_⟩
    · cases hchange
    · rw [finished_recordAt? hfolder (by rw [hsame]), hrecord]
  | true =>
    refine ⟨fun email? hchange => ?_, fun hchange => ?_⟩
    · obtain ⟨after?, hemail, left, hleft, hafter⟩ := hleaves.changed email? hwell hchange
      exact ⟨after?, hemail, by rw [finished_recordAt? hfolder hleft, hafter]⟩
    · have hsame := hleaves.same (.inr hchange)
      rw [finished_recordAt? hfolder (by rw [hsame]), hrecord]

/-- A run that does not open a folder changes nothing about who is signed in. -/
theorem change?_of_not_opens
    (h : ∀ command settings url disk place entries,
      ¬Opens i.machine command settings url disk place entries) : i.change? = none := by
  rw [change?]
  split
  next hcode =>
    rcases (run_of_not_opens i.network h).2 with hne | ⟨stop, hstop⟩
    · exact absurd hcode hne
    · rw [command?, hstop]
      rfl
  next => rfl

end Invocation

/-- The record that runs have left is that of whoever is signed in, by what they came to. -/
theorem Shares.record {place : Place} {runs : List Invocation} {record : Option Node}
    (h : Shares place runs record) :
    ∃ session? : Option Session, record = recordOf session? ∧
      session?.map (·.user.text) = signedIn? runs := by
  induction h with
  | start => exact ⟨none, rfl, rfl⟩
  | @next runs _ i _ finds ih =>
    obtain ⟨session?, rfl, hsession⟩ := ih
    obtain ⟨hchanged, hsame⟩ := finds.leaves
    rw [signedIn?_concat]
    cases hchange : i.change? with
    | none => exact ⟨session?, hsame hchange, hsession⟩
    | some email? =>
      obtain ⟨after?, hemail, hafter⟩ := hchanged email? hchange
      exact ⟨after?, hafter, hemail⟩
  | @astray runs record i _ unopened ih =>
    rw [signedIn?_concat, Invocation.change?_of_not_opens unopened]
    exact ih

/-- A line that says who is signed in tells the user. -/
theorem signedInLine_inj {email email' : String}
    (h : Terminal.line ("Signed in as " ++ email) = Terminal.line ("Signed in as " ++ email')) :
    email = email' := by
  simpa [Terminal.line, ← String.toList_inj] using h

/-- **The program says who is signed in.** Any number of runs have one session folder between
them, which had no record in the beginning and which nobody else touches; each has its own command
line and settings, and whatever the backend answers. After that, the program says that somebody is
signed in, and exits with success, exactly if this is the email that was given, blanks at its ends
apart, to the last run that has signed somebody up or in with success, and no run has signed out
with success since. If there is no such email it says that nobody is signed in, and exits with
failure. And every run leaves the record as it was, byte for byte, unless it succeeds in signing
up, in or out. -/
theorem whoAmI_tells_last_user {place : Place} {runs : List Invocation} {record : Option Node}
    {i : Invocation} (shares : Shares place runs record) (finds : i.Finds place record) :
    (i.command? = some .whoAmI →
        (∀ email, i.result.output = Terminal.line ("Signed in as " ++ email) ∧ i.result.code = 0 ↔
            signedIn? runs = some email) ∧
          (signedIn? runs = none →
            i.result.output = Terminal.line "Not signed in." ∧ i.result.code = 1) ∧
          i.result.complaint = none) ∧
      ∀ command, i.command? = some command → command.change? = none ∨ i.result.code ≠ 0 →
        recordAt? i.result.disk place = record := by
  obtain ⟨session?, rfl, hsession⟩ := shares.record
  refine ⟨fun hwho => ?_, fun command hcommand hnone => ?_⟩
  · obtain ⟨command, settings, url, disk, entries, hopens, hrecord, -⟩ := finds
    obtain rfl : command = .whoAmI := by
      rw [Invocation.command?, hopens.read_eq] at hwho
      exact Option.some.inj hwho
    have hrun : i.result = finished disk place (whoAmI _) := hopens.run_eq i.network
    rw [hrun, finished, whoAmI_eq _ hrecord, ← hsession]
    cases session? with
    | none =>
      refine ⟨fun email => ⟨fun h => ?_, nofun⟩, fun _ => ⟨rfl, rfl⟩, rfl⟩
      exact absurd h.2 Nat.one_ne_zero
    | some session =>
      refine ⟨fun email => ⟨fun h => ?_, fun h => ?_⟩, nofun, rfl⟩
      · rw [Option.map_some, signedInLine_inj h.1]
      · rw [← Option.some.inj h]
        exact ⟨rfl, rfl⟩
  · refine finds.leaves.2 ?_
    rw [Invocation.change?, hcommand, Option.bind_some]
    rcases hnone with hnone | hcode
    · rw [hnone, ite_self]
    · rw [if_neg hcode]

/-- Whoever is accepted at once is signed in. -/
theorem signIn_of_accepted {g : Gateway} {network : Network} {store : FileStore}
    {email password : String} {c : Account.SignIn} {r : Gateway.Request} {status : Nat}
    {body : Text.Bytes} (hform : Account.SignIn.ofForm email password = .ok c)
    (hr : g.requestOf (Gateway.signIn c) = .ok r) (h : network [] r = .answered status body)
    (haccepted : Gateway.verdictOf status body = .ok .accepted) :
    signIn g network store email password = attempt .signIn [(r, .answered status body)]
      (Account.complete .signIn c.email (.ok .accepted) store) := by
  have hread : (Gateway.signIn c).read status body = .ok .accepted := haccepted
  simp only [signIn, hform, Gateway.exchange_of_answered hr h, hread, List.nil_append]

/-- For instance, one run signs in with blanks around the email, and the next one tells. -/
theorem whoAmI_tells_last_user_trimmed :
    let invocation (words : List String) (tag : String) (session : Folder) : Invocation :=
      ⟨⟨[("CODELAB_BASE_URL", "http://h/"), ("CODELAB_SESSION_DIR", "s")],
          ⟨[("s", .folder session)], []⟩, words, [], tag⟩,
        fun _ _ => .answered 200 (Text.toBytes "\x7b\"success\":true\x7d")⟩
    let i := invocation ["signin", "--email", " a ", "--password", "p"] "t" []
    let left : Folder := [(recordName, .file (Session.write ⟨⟨"a", by decide, by decide⟩⟩))]
    let j := invocation ["whoami"] "u" left
    (Shares ["s"] [i] (left.find? recordName) ∧ i.result.disk = j.machine.disk ∧
        j.Finds ["s"] (left.find? recordName)) ∧
      j.result.output = Terminal.line "Signed in as a" ∧ j.result.code = 0 := by
  intro invocation i left j
  let url : Url := ⟨"http", some ⟨"", "", .name "h", none⟩, .segments [""], none, none⟩
  have hopens (tag : String) (words : List String) (command : Command) (session : Folder)
      (hread : read words = .ok command) :
      Opens (invocation words tag session).machine command
        ⟨some "http://h/", some "s", none, false⟩ url ⟨[("s", .folder session)], []⟩ ["s"] session :=
    ⟨hread, rfl, rfl, rfl⟩
  have hsignIn : Opens i.machine _ _ _ _ _ _ := hopens _ _ (.signIn " a " "p") _ rfl
  have hform : Account.SignIn.ofForm " a " "p" = .ok ⟨⟨"a", by decide, by decide⟩, "p"⟩ := rfl
  have hr : (Gateway.ofUrl url).requestOf (Gateway.signIn ⟨⟨"a", by decide, by decide⟩, "p"⟩) =
      .ok ⟨.post, { url with path := .segments ["auth", "signin"] },
        "\x7b\"email\":\"a\",\"password\":\"p\"\x7d"⟩ := by decide +kernel
  have hdisk : i.result.disk = j.machine.disk := by
    rw [Invocation.result, hsignIn.run_eq i.network, perform,
      signIn_of_accepted hform hr rfl (by decide +kernel)]
    rfl
  have hfinds : i.Finds ["s"] none := ⟨_, _, _, _, [], hsignIn, rfl, rfl⟩
  have hshares : Shares ["s"] [i] (recordAt? i.result.disk ["s"]) := .next .start hfinds
  have hfinds' : j.Finds ["s"] (left.find? recordName) :=
    ⟨_, _, _, _, left, hopens _ _ .whoAmI _ rfl, rfl, rfl⟩
  rw [hdisk] at hshares
  have hsignedIn : signedIn? [i] = some "a" := by decide +kernel
  obtain ⟨htells, -⟩ := whoAmI_tells_last_user hshares hfinds'
  exact ⟨⟨hshares, hdisk, hfinds'⟩, ((htells rfl).1 "a").2 hsignedIn⟩

/-- A run that is told to sign in and asked for help gives help, with success, and signs nobody in.
-/
theorem help_signs_nobody_in :
    let invocation (words : List String) (tag : String) : Invocation :=
      ⟨⟨[("CODELAB_BASE_URL", "http://h/"), ("CODELAB_SESSION_DIR", "s")],
          ⟨[("s", .folder [])], []⟩, words, [], tag⟩,
        fun _ _ => .answered 200 (Text.toBytes "\x7b\"success\":true\x7d")⟩
    let i := invocation ["signin", "--email", "a", "--password", "p", "--help"] "t"
    let j := invocation ["whoami"] "u"
    (Shares ["s"] [i] none ∧ i.result.disk = j.machine.disk ∧ j.Finds ["s"] none) ∧
      i.result.code = 0 ∧ i.result.output = (Topic.command .signIn).page ∧
      j.result.output = Terminal.line "Not signed in." ∧ j.result.code = 1 := by
  intro invocation i j
  have hread : read i.machine.arguments = .error (.help (.command .signIn)) := by decide +kernel
  have hresult : i.result = stopped i.machine (.help (.command .signIn)) := by
    rw [Invocation.result, run, hread]
  have hshares : Shares ["s"] [i] none :=
    .astray .start fun _ _ _ _ _ _ h => nomatch hread.symm.trans h.read_eq
  have hopens : Opens j.machine .whoAmI ⟨some "http://h/", some "s", none, false⟩ _
      ⟨[("s", .folder [])], []⟩ ["s"] [] := ⟨rfl, rfl, rfl, rfl⟩
  have hfinds : j.Finds ["s"] none := ⟨_, _, _, _, [], hopens, rfl, rfl⟩
  rw [hresult]
  exact ⟨⟨hshares, rfl, hfinds⟩, rfl, rfl, rfl, rfl⟩

end Workbench.CommandLine
