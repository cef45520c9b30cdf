import Workbench.Url.Parser
import Workbench.Workflow.Board

/-!
# Settings

What a user can set, and what holds when it is not set.
-/

namespace Workbench

/-- The settings of a user. -/
structure Settings where
  /-- The address of the backend. -/
  baseUrl : Option String
  /-- The folder that keeps the session. -/
  sessionDir : Option String
  /-- How many seconds a request may take. -/
  requestTimeout : Option Nat
  /-- Whether answers that come too late are discarded. -/
  discardStale : Bool
  deriving DecidableEq, Repr

namespace Settings

/-- The address of the backend when none is set. -/
def defaultBaseUrl : String := "http://localhost:8080/"

/-- The session folder when none is set. -/
def defaultSessionDir : String := ".codelab"

/-- The address of the backend. -/
def url (s : Settings) : Except Url.Fault Url := Url.parse (s.baseUrl.getD defaultBaseUrl)

/-- The folder that keeps the session. -/
def folder (s : Settings) : String := s.sessionDir.getD defaultSessionDir

/-- How many seconds a request may take; there is no limit when none is set, or zero. -/
def timeout (s : Settings) : Option Nat := s.requestTimeout.filter (0 < ·)

/-- Who may show something when invocations cross. -/
def policy (s : Settings) : Workflow.Policy :=
  if s.discardStale then .latestInvocation else .lastArrival

end Settings

end Workbench
