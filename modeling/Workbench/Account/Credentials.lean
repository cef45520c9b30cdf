import Workbench.Session.Basic

/-!
# Credentials

What a user fills in to sign up or to sign in. Every field is trimmed, and none may be blank; the
first blank field in the order name, email, password is the one complained about.
-/

namespace Workbench.Account

/-- The field that was left blank. -/
inductive MissingField where
  /-- The name. -/
  | name
  /-- The email. -/
  | email
  /-- The password. -/
  | password
  deriving DecidableEq, Repr

/-- The words for a blank field. -/
def MissingField.message : MissingField → String
  | .name => "name must not be empty"
  | .email => "email must not be empty"
  | .password => "password must not be empty"

/-- What a user is told when any field is blank. -/
def allFieldsRequired : String := "All fields are required!"

/-- A field without the blanks at its ends; a blank field is missing. -/
def required (field : MissingField) (raw : String) : Except MissingField String :=
  let s := Text.trimmed raw
  if s = "" then .error field else .ok s

/-- An email, which identifies the user. -/
def requiredEmail (raw : String) : Except MissingField Identifier :=
  match Identifier.ofText? raw with
  | some email => .ok email
  | none => .error .email

/-- What it takes to sign up. -/
structure SignUp where
  /-- The name of the user. -/
  name : String
  /-- The email of the user. -/
  email : Identifier
  /-- The password. -/
  password : String
  deriving DecidableEq

/-- The credentials in a filled in form. -/
def SignUp.ofForm (name email password : String) : Except MissingField SignUp :=
  match required .name name with
  | .error e => .error e
  | .ok name =>
    match requiredEmail email with
    | .error e => .error e
    | .ok email =>
      match required .password password with
      | .error e => .error e
      | .ok password => .ok ⟨name, email, password⟩

/-- What it takes to sign in. -/
structure SignIn where
  /-- The email of the user. -/
  email : Identifier
  /-- The password. -/
  password : String
  deriving DecidableEq

/-- The credentials in a filled in form. -/
def SignIn.ofForm (email password : String) : Except MissingField SignIn :=
  match requiredEmail email with
  | .error e => .error e
  | .ok email =>
    match required .password password with
    | .error e => .error e
    | .ok password => .ok ⟨email, password⟩

/-- What the backend says to credentials. -/
inductive Verdict where
  /-- They are accepted. -/
  | accepted
  /-- They are rejected, perhaps with a reason. -/
  | rejected (reason : Option String)
  deriving DecidableEq, Repr

end Workbench.Account
