import Workbench.Account.Attempt
import Workbench.Session.Memory

/-!
# Runs

A run is a sequence of steps at the page with the forms, with a store in memory behind it. Any
number of attempts may be under way; their replies may come in any order, or never.
-/

namespace Workbench.Account

open Workbench.Session (Memory Faults)

/-- A call to the backend. -/
inductive Call where
  /-- For a new account. -/
  | signUp (credentials : SignUp)
  /-- For access to an account. -/
  | signIn (credentials : SignIn)
  deriving DecidableEq

/-- What the backend says to a call. -/
abbrev Reply := Except GatewayError Verdict

/-- One step of a run. -/
inductive Step where
  /-- The form for new accounts is sent off; its reply may come at once. -/
  | signUp (name : String) (user email password : String) (reply : Option Reply)
  /-- The form for existing accounts is sent off; its reply may come at once. -/
  | signIn (name : String) (email password : String) (reply : Option Reply)
  /-- The reply to an attempt comes. -/
  | resolve (name : String) (reply : Reply)
  /-- An attempt is given up. -/
  | cancel (name : String)
  /-- The user signs out. -/
  | signOut
  /-- The user turns to a form. -/
  | toggle (form : Form)
  /-- Someone else signs in or out. -/
  | session (session : Option Session)
  /-- The store begins or ceases to fail. -/
  | fault (faults : Faults)

/-- An attempt that is under way. -/
structure Attempt where
  /-- The form that was sent off. -/
  form : Form
  /-- The user. -/
  user : Identifier
  deriving DecidableEq

/-- The state of a run. -/
structure State where
  /-- The store. -/
  store : Memory
  /-- The page. -/
  page : Page
  /-- The attempts under way, by name. -/
  waiting : List (String × Attempt)

/-- What a step comes to. -/
inductive Result where
  /-- An attempt led to a session. -/
  | signedIn (session : Session)
  /-- An attempt did not lead to a session. -/
  | rejected
  /-- The user is signed out. -/
  | signedOut
  /-- Signing out failed. -/
  | failed (e : StoreError)
  deriving DecidableEq

/-- What others see of a step. -/
structure Observation where
  /-- What it came to, if to anything. -/
  result : Option Result
  /-- The calls that it made. -/
  calls : List Call
  /-- What happened to the page. -/
  events : List Event

/-- What an attempt comes to. -/
def Result.ofAttempt : AttemptResult → Result
  | .signedIn session => .signedIn session
  | .rejected => .rejected

namespace State

/-- The state in which a run begins. -/
def init (session : Option Session) : State := ⟨.holding session, .empty, []⟩

/-- The state after some events. -/
def see (s : State) (events : List Event) : State := { s with page := s.page.applyAll events }

/-- The attempt of a name. -/
def find? (s : State) (name : String) : Option Attempt :=
  (s.waiting.find? fun e => e.1 == name).map (·.2)

/-- The attempts without one of them. -/
def without (s : State) (name : String) : List (String × Attempt) :=
  s.waiting.filter fun e => e.1 != name

/-- The end of an attempt. -/
def complete (s : State) (a : Attempt) (reply : Reply) : State × Option Result × List Event :=
  let (result, events, store) := Account.complete a.form a.user reply s.store
  ({ s with store := store }.see events, some (.ofAttempt result), events)

/-- Takes the reply to an attempt; without an attempt of that name nothing happens. -/
def resolve (s : State) (name : String) (reply : Reply) : State × Option Result × List Event :=
  match s.find? name with
  | none => (s, none, [])
  | some a => { s with waiting := s.without name }.complete a reply

/-- Sends a form off. -/
def send (s : State) (name : String) (a : Attempt) (reply : Option Reply) :
    State × Option Result × List Event :=
  match reply with
  | none => ({ s with waiting := s.without name ++ [(name, a)] }, none, [])
  | some reply => s.complete a reply

/-- Refuses a form that was not filled in. -/
def refuse (s : State) : State × Option Result × List Event :=
  (s.see incomplete.2, some (.ofAttempt incomplete.1), incomplete.2)

/-- A step that made the given calls. -/
def observed (calls : List Call) (r : State × Option Result × List Event) : State × Observation :=
  (r.1, ⟨r.2.1, calls, r.2.2⟩)

/-- One step. -/
def step (s : State) : Step → State × Observation
  | .signUp name user email password reply =>
    match SignUp.ofForm user email password with
    | .error _ => observed [] s.refuse
    | .ok c => observed [.signUp c] (s.send name ⟨.signUp, c.email⟩ reply)
  | .signIn name email password reply =>
    match SignIn.ofForm email password with
    | .error _ => observed [] s.refuse
    | .ok c => observed [.signIn c] (s.send name ⟨.signIn, c.email⟩ reply)
  | .resolve name reply => observed [] (s.resolve name reply)
  | .cancel name => ({ s with waiting := s.without name }, ⟨none, [], []⟩)
  | .signOut =>
    let (result, events, store) := Account.signOut s.store
    let result : Result :=
      match result with
      | .ok () => .signedOut
      | .error e => .failed e
    ({ s with store := store }.see events, ⟨some result, [], events⟩)
  | .toggle form => (s.see (toggle form), ⟨none, [], toggle form⟩)
  | .session session =>
    ({ s with store := { s.store with current := session } }, ⟨none, [], []⟩)
  | .fault faults => ({ s with store := { s.store with faults := faults } }, ⟨none, [], []⟩)

/-- The states and observations of a run, one for each step. -/
def run (s : State) : List Step → List (State × Observation)
  | [] => []
  | step :: rest => s.step step :: run (s.step step).1 rest

end State

end Workbench.Account
