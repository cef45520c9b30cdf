import Workbench.Gateway.Error
import Workbench.Gateway.Response
import Workbench.Json.Writer
import Workbench.Url.Join

/-!
# The gateway

Calls to the backend. Each call posts one object of texts to an endpoint beneath the address of
the backend, and takes meaning from the status and the body of the response. A response may send
the call somewhere else, which it follows some times before it gives up. What lies between, the
network, is a function that says what becomes of a request.
-/

namespace Workbench

open Workbench.Account (SignUp SignIn Verdict)
open Workbench.Text (Bytes)

namespace Gateway

/-- What the backend can be asked for. -/
inductive Endpoint where
  /-- A new account. -/
  | signUp
  /-- Access to an account. -/
  | signIn
  /-- A compilation. -/
  | check
  /-- An analysis, which is also how code is registered. -/
  | analyze
  /-- An optimization. -/
  | optimize
  deriving DecidableEq, Repr

/-- The path of an endpoint, relative to the address of the backend. -/
def Endpoint.path : Endpoint → String
  | .signUp => "auth/signup"
  | .signIn => "auth/signin"
  | .check => "api/check"
  | .analyze => "code/analyze"
  | .optimize => "code/optimize"

/-- What a request is for. -/
inductive Method where
  /-- To hand something in. -/
  | post
  /-- To look something up. -/
  | get
  deriving DecidableEq, Repr

/-- A request as it is sent. -/
structure Request where
  /-- What it is for. -/
  method : Method
  /-- Where it goes. -/
  url : Url
  /-- The text that it carries. -/
  body : String
  deriving DecidableEq, Repr

/-- What becomes of a request. -/
inductive Delivery where
  /-- Nobody is there to receive it. -/
  | unreachable
  /-- It was received, and the connection closed without an answer. -/
  | dropped
  /-- It was received, and no answer came in time. -/
  | expired
  /-- The answer broke off before its end. -/
  | truncated (status : Nat)
  /-- The answer began, and did not come to its end in time. -/
  | stalled (status : Nat)
  /-- The answer came, with its status and its body. -/
  | answered (status : Nat) (body : Bytes)
  /-- The answer came, and it names an address, here resolved against that of the request and
  without a fragment. -/
  | located (status : Nat) (target : Url) (body : Bytes)
  deriving DecidableEq, Repr

/-- Whether the request came as far as the backend. -/
def Delivery.isReceived : Delivery → Bool
  | .unreachable => false
  | _ => true

end Gateway

/-- Access to the backend at an address, which ends in a slash. -/
structure Gateway where
  /-- The address. -/
  base : Url
  deriving DecidableEq, Repr

namespace Gateway

/-- A gateway for an address; a slash is added if need be. -/
def ofUrl (u : Url) : Gateway := ⟨u.withTrailingSlash⟩

/-! ### Requests -/

/-- An address without user name and password, which are not sent as part of it. They stay where
the user name is no text. -/
def withoutUser (u : Url) : Url :=
  match u.authority with
  | none => u
  | some a =>
    if (Text.ofBytes? (Url.percentDecode a.user.toList)).isSome then
      { u with authority := some { a with user := "", password := "" } }
    else u

/-- Whether an address is one of the web. -/
def isWeb (u : Url) : Bool := u.scheme == "http" || u.scheme == "https"

/-- What is said of an address that no request can be sent to. -/
def unsendable (u : Url) : GatewayError :=
  .transport ("builder error for url (" ++ u.text ++ ")")

/-- Whether requests can be sent to an address: the scheme must be that of the web, and the host
must do without quotes, accents and braces. -/
def isSendable (u : Url) : Bool :=
  isWeb u &&
    match u.authority with
    | none => false
    | some a => a.host.text.toList.all fun c =>
        c ≠ '"' && c ≠ '\x60' && c ≠ '\x7b' && c ≠ '\x7d'

/-- The request for an endpoint with the given fields. -/
def request (g : Gateway) (e : Endpoint) (fields : List (String × String)) :
    Except GatewayError Request :=
  match g.base.join e.path with
  | .error fault =>
    .error (.transport ("invalid endpoint " ++ e.path ++ ": " ++ fault.message))
  | .ok url =>
    let url := withoutUser url
    if isSendable url then .ok ⟨.post, url, Json.compactObject fields⟩
    else .error (unsendable url)

/-- The status and the body of a response. -/
def receive (r : Request) : Delivery → Except GatewayError (Nat × Bytes)
  | .answered status body | .located status _ body => .ok (status, body)
  | .truncated _ => .error (.transport "error decoding response body")
  | .stalled _ => .error (.timeout "error decoding response body")
  | .expired => .error (.timeout ("error sending request for url (" ++ r.url.text ++ ")"))
  | .unreachable | .dropped =>
    .error (.transport ("error sending request for url (" ++ r.url.text ++ ")"))

/-! ### Responses -/

/-- Whether a status tells of success. -/
def isSuccess (status : Nat) : Bool := 200 ≤ status && status < 300

/-- How many characters of a body are shown. -/
def previewLimit : Nat := 160

/-- A body on one line: its words with single blanks between them, cut short if there are too
many. -/
def preview (body : Bytes) : String :=
  let line := [' '].intercalate (Text.words (Text.Utf8.decodeLossy body))
  if line.isEmpty then "empty body"
  else if line.length ≤ previewLimit then String.ofList line
  else String.ofList (line.take previewLimit ++ ['.', '.', '.'])

/-- The failure that a status tells of. -/
def statusError (status : Nat) (body : Bytes) : GatewayError :=
  if status = 408 ∨ status = 504 then
    .timeout ("status " ++ toString status ++ ": " ++ preview body)
  else .status status (preview body)

/-- Reads a body, whatever the status. When the body is not what it should be, a status that
tells of a failure is the better explanation. -/
def decode {ρ : Type} (shape : Json.Shape ρ) (status : Nat) (body : Bytes) :
    Except GatewayError ρ :=
  match shape.parse body with
  | .ok r => .ok r
  | .error fault =>
    if isSuccess status then
      .error (.decode ("invalid JSON payload: " ++ fault.message body))
    else .error (statusError status body)

/-- The verdict in a response to credentials. -/
def verdictOf (status : Nat) (body : Bytes) : Except GatewayError Verdict :=
  match decode AuthResponse.shape status body with
  | .error e => .error e
  | .ok r => .ok r.verdict

/-- The outcome in a response to a compilation. -/
def compileOf (status : Nat) (body : Bytes) : Except GatewayError CompileOutcome :=
  match decode CheckResponse.shape status body with
  | .error e => .error e
  | .ok r => .ok r.outcome

/-- The outcome in a response to an analysis. -/
def analyzeOf (status : Nat) (body : Bytes) : Except GatewayError AnalyzeOutcome :=
  match decode AnalyzeResponse.shape status body with
  | .error e => .error e
  | .ok r =>
    match r.outcome with
    | .error reason => .error (.decode reason)
    | .ok o => .ok o

/-- The outcome in a response to an optimization. -/
def optimizeOf (status : Nat) (body : Bytes) : Except GatewayError OptimizeOutcome :=
  match decode OptimizeResponse.shape status body with
  | .error e => .error e
  | .ok r =>
    match r.outcome with
    | .error reason => .error (.decode reason)
    | .ok o => .ok o

/-- Whether code was registered: only the status counts. -/
def registeredOf (status : Nat) (body : Bytes) : Except GatewayError Unit :=
  if isSuccess status then .ok () else .error (statusError status body)

/-! ### Calls -/

/-- The fields that go with new accounts. -/
def signUpFields (c : SignUp) : List (String × String) :=
  [("name", c.name), ("email", c.email.text), ("password", c.password)]

/-- The fields that go with access to accounts. -/
def signInFields (c : SignIn) : List (String × String) :=
  [("email", c.email.text), ("password", c.password)]

/-- The fields that go with a compilation. -/
def checkFields (code : Submission) : List (String × String) := [("code", code.code)]

/-- The fields that go with all other operations. -/
def accountFields (user : Identifier) (code : Submission) : List (String × String) :=
  [("email", user.text), ("code", code.code)]

/-- One call: an endpoint, what is sent to it, and how its response is read. -/
structure Call (α : Type) where
  /-- The endpoint. -/
  endpoint : Endpoint
  /-- What is sent. -/
  fields : List (String × String)
  /-- How the response is read. -/
  read : Nat → Bytes → Except GatewayError α

/-- Asks for a new account. -/
def signUp (c : SignUp) : Call Verdict := ⟨.signUp, signUpFields c, verdictOf⟩

/-- Asks for access to an account. -/
def signIn (c : SignIn) : Call Verdict := ⟨.signIn, signInFields c, verdictOf⟩

/-- Asks for a compilation. -/
def check (code : Submission) : Call CompileOutcome := ⟨.check, checkFields code, compileOf⟩

/-- Asks for an analysis. -/
def analyze (user : Identifier) (code : Submission) : Call AnalyzeOutcome :=
  ⟨.analyze, accountFields user code, analyzeOf⟩

/-- Asks for an optimization. -/
def optimize (user : Identifier) (code : Submission) : Call OptimizeOutcome :=
  ⟨.optimize, accountFields user code, optimizeOf⟩

/-- Registers code. -/
def register (user : Identifier) (code : Submission) : Call Unit :=
  ⟨.analyze, accountFields user code, registeredOf⟩

/-- The request of a call. -/
def requestOf {α : Type} (g : Gateway) (c : Call α) : Except GatewayError Request :=
  g.request c.endpoint c.fields

/-- Requests that were sent, with what became of them, the latest last. -/
abbrev Traffic := List (Request × Delivery)

/-- What lies between: what becomes of a request may depend on all that was sent before. -/
abbrev Network := Traffic → Request → Delivery

/-- A network where nobody is there to receive anything. -/
def Network.down : Network := fun _ _ => .unreachable

/-! ### Redirects -/

/-- The request that a response asks for in place of the one that it answers: the same one at
another address, or just a look there. -/
def Delivery.redirect? (r : Request) : Delivery → Option Request
  | .located status target _ =>
    if status = 307 ∨ status = 308 then some { r with url := target }
    else if status = 301 ∨ status = 302 ∨ status = 303 then some ⟨.get, target, ""⟩
    else none
  | _ => none

/-- How many redirects are followed. -/
def redirectLimit : Nat := 10

/-- Sends a request after the given traffic, and then those that the responses ask for. It comes to
what becomes of the last one. -/
def send (network : Network) (hops : Nat) (traffic : Traffic) (r : Request) :
    Except GatewayError Delivery × Traffic :=
  let delivery := network traffic r
  let traffic := traffic ++ [(r, delivery)]
  match delivery.redirect? r with
  | none => (.ok delivery, traffic)
  | some next =>
    match hops with
    | 0 =>
      (.error (.transport ("error following redirect for url (" ++ r.url.text ++ ")")), traffic)
    | hops + 1 =>
      if isWeb next.url then send network hops traffic next
      else (.error (unsendable next.url), traffic)

/-- Sends a request, and receives the response to it, or to what takes its place. A failure to
receive one tells the address of the request itself. -/
def fetch (network : Network) (traffic : Traffic) (r : Request) :
    Except GatewayError (Nat × Bytes) × Traffic :=
  match send network redirectLimit traffic r with
  | (.error e, traffic) => (.error e, traffic)
  | (.ok delivery, traffic) => (receive r delivery, traffic)

/-- Makes a call, after the given traffic. -/
def exchange {α : Type} (g : Gateway) (network : Network) (traffic : Traffic) (c : Call α) :
    Except GatewayError α × Traffic :=
  match g.requestOf c with
  | .error e => (.error e, traffic)
  | .ok r =>
    match fetch network traffic r with
    | (.error e, traffic) => (.error e, traffic)
    | (.ok (status, body), traffic) => (c.read status body, traffic)

end Gateway

end Workbench
