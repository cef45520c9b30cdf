/-!
# What the user sees

The page shows one of two forms with a title and a line of status; beside that, notices pop up
and the user is taken from one view to another. All of it happens by events, and the state of the
page is what the events so far have made of it.
-/

namespace Workbench.Account

/-- The two forms. -/
inductive Form where
  /-- The form for new accounts. -/
  | signUp
  /-- The form for existing accounts. -/
  | signIn
  deriving DecidableEq, Repr

/-- The title above a form. -/
def Form.title : Form → String
  | .signUp => "Sign Up"
  | .signIn => "Sign In"

/-- What is said when a form has led to a session. -/
def Form.notice : Form → String
  | .signUp => "Sign-up successful! Redirecting to dashboard..."
  | .signIn => "Login successful! Redirecting to dashboard..."

/-- What is said after signing out. -/
def signedOutStatus : String := "Signed out."

/-- The two views. -/
inductive View where
  /-- The page with the forms. -/
  | landing
  /-- The page with the editor. -/
  | dashboard
  deriving DecidableEq, Repr

/-- The path of a view. -/
def View.path : View → String
  | .landing => "/index.html"
  | .dashboard => "/dashboard.html"

/-- What can happen to the page. -/
inductive Event where
  /-- A form is shown in place of the other one. -/
  | showForm (form : Form)
  /-- The title changes. -/
  | setTitle (title : String)
  /-- The line of status changes. -/
  | showStatus (message : String)
  /-- The line of status goes. -/
  | clearStatus
  /-- A notice pops up. -/
  | notify (message : String)
  /-- The user is taken to a view. -/
  | navigate (view : View)
  deriving DecidableEq, Repr

/-- The state of the page. -/
structure Page where
  /-- The form that is shown. -/
  form : Option Form
  /-- The title. -/
  title : Option String
  /-- The line of status. -/
  status : Option String
  /-- The notices so far. -/
  notices : List String
  /-- The views so far. -/
  visits : List View
  deriving DecidableEq, Repr

namespace Page

/-- A page to which nothing has happened yet. -/
def empty : Page := ⟨none, none, none, [], []⟩

/-- What an event does to the page. -/
def apply (p : Page) : Event → Page
  | .showForm form => { p with form := some form }
  | .setTitle title => { p with title := some title }
  | .showStatus message => { p with status := some message }
  | .clearStatus => { p with status := none }
  | .notify message => { p with notices := p.notices ++ [message] }
  | .navigate view => { p with visits := p.visits ++ [view] }

/-- What a sequence of events does to the page. -/
def applyAll (p : Page) (events : List Event) : Page := events.foldl apply p

end Page

/-- Turns to a form: a status that belongs to the other one goes. -/
def toggle (form : Form) : List Event := [.clearStatus, .setTitle form.title, .showForm form]

end Workbench.Account
