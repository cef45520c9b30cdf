import Workbench.Account.Attempt
import Workbench.CommandLine.Help
import Workbench.Gateway.Basic
import Workbench.Session.FileStore
import Workbench.Settings.Load
import Workbench.Terminal
import Workbench.Workflow.Script

/-!
# The program

One run of the program, from the command line to the exit code: it loads the settings, opens the
session folder, does what it is told, and leaves behind a disk and what it has written.
-/

namespace Workbench.CommandLine

open Workbench.Account (Form)
open Workbench.Gateway (Network Traffic exchange)
open Workbench.Session (FileStore)
open Workbench.Text (Bytes)
open Workbench.Workflow (Answers Desk)

/-- All that a run depends on, the network apart. -/
structure Machine where
  /-- The variables of the environment. -/
  environment : List (String × String)
  /-- The disk. -/
  disk : Disk
  /-- The words of the command line, without the name of the program. -/
  arguments : List String
  /-- The standard input. -/
  input : Bytes
  /-- What makes the name of the next staged file unique. -/
  tag : String

/-- What the program complains about. -/
inductive Complaint where
  /-- The command line, in one line and more. -/
  | usage (firstLine : String)
  /-- A failure with its causes, the outermost first. -/
  | report (causes : List String)
  deriving DecidableEq, Repr

/-- What a command comes to. -/
structure Done where
  /-- What was written, and whether all went well; or why it broke off. -/
  ending : Except (List String) (String × Bool)
  /-- The store. -/
  store : FileStore
  /-- The requests that were sent. -/
  traffic : Traffic

/-- What a run leaves behind. -/
structure Finished where
  /-- The exit code. -/
  code : Nat
  /-- What was written to the standard output. -/
  output : String
  /-- What it complains about. -/
  complaint : Option Complaint
  /-- The disk. -/
  disk : Disk
  /-- The requests that were sent. -/
  traffic : Traffic

/-! ### Code -/

/-- The code in the standard input. -/
def codeOfInput (input : Bytes) : Except (List String) Submission :=
  match Text.ofBytes? input with
  | some code => .ok ⟨code⟩
  | none => .error ["read code from standard input", Disk.Failure.notText.message]

/-- The code in a file. -/
def codeOfFile (disk : Disk) (path : String) : Except (List String) Submission :=
  match Disk.Path.split path with
  | (_, none) => .error [path ++ " is not a file path"]
  | (front, some name) =>
    let front := if front.isEmpty then "." else front
    match disk.folderAt front with
    | .error e => .error ["open directory " ++ front, e.message]
    | .ok (_, folder) =>
      match folder.readText name with
      | .error e => .error ["read code from " ++ path, e.message]
      | .ok code => .ok ⟨code⟩

/-- The code in a file, or in the standard input if no file is given. -/
def readCode (m : Machine) (disk : Disk) : Option String → Except (List String) Submission
  | none => codeOfInput m.input
  | some path => codeOfFile disk path

/-! ### Commands -/

/-- Asks for the answer to an operation, and registers valid code. -/
def ask (g : Gateway) (network : Network) (w : Workflow.Waiting) : Answers × Traffic :=
  match w.operation with
  | .compile =>
    let (reply, traffic) := exchange g network [] (Gateway.check w.code)
    let answers := { Answers.standard with check := reply }
    if Workflow.isValid (answers.reply .compile) then
      let (reply, traffic) := exchange g network traffic (Gateway.register w.user w.code)
      ({ answers with register := .answered reply }, traffic)
    else (answers, traffic)
  | .analyze =>
    let (reply, traffic) := exchange g network [] (Gateway.analyze w.user w.code)
    ({ Answers.standard with analyze := reply }, traffic)
  | .optimize =>
    let (reply, traffic) := exchange g network [] (Gateway.optimize w.user w.code)
    ({ Answers.standard with optimize := reply }, traffic)

/-- All that a desk has shown, on the terminal. -/
def shownText (d : Desk) : String := String.join (d.shown.map Terminal.fragment)

/-- Runs an operation to its end. -/
def operate (g : Gateway) (network : Network) (policy : Workflow.Policy) (store : FileStore)
    (op : Operation) (code : Submission) : Done :=
  match (Desk.empty policy).start op store.get code with
  | (desk, .rejected report) =>
    ⟨.ok (shownText desk, report.phase == .succeeded), store, []⟩
  | (desk, .waiting w) =>
    let (answers, traffic) := ask g network w
    let (desk, report) := desk.finish w answers .awaited
    ⟨.ok (shownText desk, report.phase == .succeeded), store, traffic⟩

/-- The end of an attempt at a form. -/
def attempt (form : Form) (traffic : Traffic)
    (result : Account.AttemptResult × List Account.Event × FileStore) : Done :=
  let (result, events, store) := result
  let isSignedIn :=
    match result with
    | .signedIn _ => true
    | .rejected => false
  ⟨.ok (Terminal.events (Account.toggle form ++ events), isSignedIn), store, traffic⟩

/-- Signs up. -/
def signUp (g : Gateway) (network : Network) (store : FileStore) (name email password : String) :
    Done :=
  match Account.SignUp.ofForm name email password with
  | .error _ => attempt .signUp [] (Account.incomplete.1, Account.incomplete.2, store)
  | .ok c =>
    let (reply, traffic) := exchange g network [] (Gateway.signUp c)
    attempt .signUp traffic (Account.complete .signUp c.email reply store)

/-- Signs in. -/
def signIn (g : Gateway) (network : Network) (store : FileStore) (email password : String) :
    Done :=
  match Account.SignIn.ofForm email password with
  | .error _ => attempt .signIn [] (Account.incomplete.1, Account.incomplete.2, store)
  | .ok c =>
    let (reply, traffic) := exchange g network [] (Gateway.signIn c)
    attempt .signIn traffic (Account.complete .signIn c.email reply store)

/-- Signs out. -/
def signOut (store : FileStore) : Done :=
  match Account.signOut store with
  | (.ok (), events, store) => ⟨.ok (Terminal.events events, true), store, []⟩
  | (.error e, _, store) => ⟨.error ["failed to clear session", e.message], store, []⟩

/-- Says who is signed in. -/
def whoAmI (store : FileStore) : Done :=
  match store.get with
  | .error e => ⟨.error ["failed to read session", e.message], store, []⟩
  | .ok (some session) =>
    ⟨.ok (Terminal.line ("Signed in as " ++ session.user.text), true), store, []⟩
  | .ok none => ⟨.ok (Terminal.line "Not signed in.", false), store, []⟩

/-- Does what a command says. -/
def perform (m : Machine) (network : Network) (settings : Settings) (g : Gateway) (disk : Disk)
    (store : FileStore) : Command → Done
  | .signUp name email password => signUp g network store name email password
  | .signIn email password => signIn g network store email password
  | .signOut => signOut store
  | .whoAmI => whoAmI store
  | .operate op file =>
    match readCode m disk file with
    | .error causes => ⟨.error causes, store, []⟩
    | .ok code => operate g network settings.policy store op code

/-! ### Runs -/

/-- A run that breaks off before anything is done. -/
def broken (m : Machine) (causes : List String) : Finished :=
  ⟨1, "", some (.report causes), m.disk, []⟩

/-- A run without a command. -/
def stopped (m : Machine) : Stop → Finished
  | .about => ⟨2, "", some (.usage about), m.disk, []⟩
  | .version => ⟨0, Terminal.line version, none, m.disk, []⟩
  | .help topic => ⟨0, topic.page, none, m.disk, []⟩
  | .usage e => ⟨2, "", some (.usage e.message), m.disk, []⟩

/-- The end of a run whose command was performed. -/
def finished (disk : Disk) (place : Disk.Place) (d : Done) : Finished :=
  let disk := d.store.keepIn disk place
  match d.ending with
  | .ok (output, isWell) => ⟨if isWell then 0 else 1, output, none, disk, d.traffic⟩
  | .error causes => ⟨1, "", some (.report causes), disk, d.traffic⟩

/-- One run of the program. -/
def run (network : Network) (m : Machine) : Finished :=
  match read m.arguments with
  | .error stop => stopped m stop
  | .ok command =>
    match Settings.load ⟨m.environment, m.disk, []⟩ with
    | .error e => broken m ["failed to load configuration: " ++ e.message]
    | .ok settings =>
      match settings.url with
      | .error fault => broken m ["CODELAB_BASE_URL is not a valid URL", fault.message]
      | .ok url =>
        match FileStore.openAt m.disk settings.folder m.tag with
        | .error e => broken m ["open session directory " ++ settings.folder, e.message]
        | .ok (disk, place, store) =>
          finished disk place
            (perform m network settings (Gateway.ofUrl url) disk store command)

end Workbench.CommandLine
