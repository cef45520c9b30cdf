import Workbench.Account.Credentials
import Workbench.Account.Surface
import Workbench.Gateway.Error
import Workbench.Operation.Basic

/-!
# Attempts to get in, and getting out

An attempt ends with a session or with a line of status that says why there is none. The session
is kept before the user hears of it. Signing out removes the session; if that fails nothing is
said on the page.
-/

namespace Workbench.Account

/-- How an attempt ends. -/
inductive AttemptResult where
  /-- With a session. -/
  | signedIn (session : Session)
  /-- Without a session. -/
  | rejected
  deriving DecidableEq

/-- The end of an attempt at a form that was not filled in. -/
def incomplete : AttemptResult × List Event := (.rejected, [.showStatus allFieldsRequired])

variable {σ : Type} [SessionStore σ]

/-- Keeps a session for a user and says so. -/
def establish (form : Form) (user : Identifier) (store : σ) : AttemptResult × List Event × σ :=
  match SessionStore.set ⟨user⟩ store with
  | (.ok (), store) =>
    (.signedIn ⟨user⟩, [.notify form.notice, .navigate .dashboard], store)
  | (.error e, store) =>
    (.rejected, [.showStatus ("Unable to save session: " ++ e.message)], store)

/-- Takes what the backend says to the credentials of a user. -/
def complete (form : Form) (user : Identifier) (reply : Except GatewayError Verdict) (store : σ) :
    AttemptResult × List Event × σ :=
  match reply with
  | .ok .accepted => establish form user store
  | .ok (.rejected reason) => (.rejected, [.showStatus (reason.getD genericFailure)], store)
  | .error e => (.rejected, [.showStatus ("Network error: " ++ e.message)], store)

/-- Signs out. -/
def signOut (store : σ) : Except StoreError Unit × List Event × σ :=
  match SessionStore.clear store with
  | (.ok (), store) => (.ok (), [.showStatus signedOutStatus, .navigate .landing], store)
  | (.error e, store) => (.error e, [], store)

end Workbench.Account
