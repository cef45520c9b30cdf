import Workbench.Json.Reader
import Workbench.Json.Writer
import Workbench.Session.Basic

/-!
# Sessions as text

A session is written down as an object with one member, the identifier of the user. Reading
accepts any object of texts: other members are passed over, and of members with the same name the
last one counts.
-/

namespace Workbench.Session

open Workbench.Json
open Workbench.Text (Bytes)

/-- The name under which the identifier is written. -/
def storageKey : String := "userEmail"

/-- The written form of a session. -/
def write (session : Session) : Bytes :=
  Text.toBytes (prettyObject [(storageKey, session.user.text)])

/-- The session in a text; none when the object has no identifier. -/
def read (data : Bytes) : Except StoreError (Option Session) :=
  match readWhole (readTextMap maxDepth) data with
  | .error fault => .error (.unreadable ("invalid session JSON: " ++ fault.message data))
  | .ok members =>
    match lookup storageKey members with
    | none => .ok none
    | some value =>
      match Identifier.ofText? value with
      | none => .error (.unreadable Identifier.blankMessage)
      | some user => .ok (some ⟨user⟩)

/-- Reads an identifier. The complaint that it is blank points to no place. -/
def readIdentifier (text : Bytes) : Except Fault (Identifier × Bytes) :=
  match readText text with
  | .error e => .error e
  | .ok (s, rest) =>
    match Identifier.ofText? s with
    | none => .error ⟨.rejected Identifier.blankMessage, none⟩
    | some user => .ok (user, rest)

/-- The identifier that a text stands for. -/
def parseIdentifier (text : Bytes) : Except Fault Identifier := readWhole readIdentifier text

end Workbench.Session
