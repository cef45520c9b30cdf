import Workbench.Text.Blank

/-!
# Sessions

Whoever is signed in is known by an identifier, a text without blanks at its ends. A session says
who is signed in; a store keeps one session or none. Every operation of a store may fail, and
gives back the store as it is afterwards.
-/

namespace Workbench

/-- The identifier of a user: a text that is not blank and has no blanks at its ends. -/
structure Identifier where
  /-- The text. -/
  text : String
  /-- Trimming changes nothing. -/
  trimmed_eq : Text.trimmed text = text
  /-- Something is left. -/
  ne_empty : text ≠ ""
  deriving DecidableEq

/-- What is said about an identifier that is blank. -/
def Identifier.blankMessage : String := "session identifier must not be empty"

/-- The identifier in a text, unless the text is blank. -/
def Identifier.ofText? (s : String) : Option Identifier :=
  if h : Text.trimmed s = "" then none
  else some ⟨Text.trimmed s, Text.trimmed_trimmed s, h⟩

/-- A session. -/
structure Session where
  /-- Who is signed in. -/
  user : Identifier
  deriving DecidableEq

/-- Why a store fails. -/
inductive StoreError where
  /-- The place where sessions are kept cannot be used. -/
  | unavailable (reason : String)
  /-- What is kept there is no session. -/
  | unreadable (reason : String)
  deriving DecidableEq, Repr

/-- The words for a failure of a store. -/
def StoreError.message : StoreError → String
  | .unavailable reason => "session storage unavailable: " ++ reason
  | .unreadable reason => "stored session is unreadable: " ++ reason

/-- Stores of type `σ`. -/
class SessionStore (σ : Type) where
  /-- The session that is kept. -/
  get : σ → Except StoreError (Option Session)
  /-- Keeps a session in place of the one before. -/
  set : Session → σ → Except StoreError Unit × σ
  /-- Keeps no session any more. -/
  clear : σ → Except StoreError Unit × σ

end Workbench
