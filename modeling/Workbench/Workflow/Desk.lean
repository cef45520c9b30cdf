import Workbench.Gateway.Error
import Workbench.Operation.Display
import Workbench.Session.Basic
import Workbench.Workflow.Board

/-!
# The desk

The desk takes in operations, passes them on to the backend and shows what becomes of them. An
invocation is turned away when nobody is signed in or when it lacks code that it needs; otherwise
it waits for its answer. Code that turns out to be valid is registered, and whatever comes of that
is of no consequence.
-/

namespace Workbench.Workflow

open Workbench.Markup (Fragment)

/-- A call to the backend. -/
inductive Call where
  /-- A compilation. -/
  | check (code : Submission)
  /-- An analysis. -/
  | analyze (user : Identifier) (code : Submission)
  /-- An optimization. -/
  | optimize (user : Identifier) (code : Submission)
  /-- The registration of valid code. -/
  | register (user : Identifier) (code : Submission)
  deriving DecidableEq

/-- The call that an operation makes. -/
def Call.ofOperation (op : Operation) (user : Identifier) (code : Submission) : Call :=
  match op with
  | .compile => .check code
  | .analyze => .analyze user code
  | .optimize => .optimize user code

/-- What became of the registration of valid code. -/
inductive Registration where
  /-- It was answered. -/
  | answered (answer : Except GatewayError Unit)
  /-- It died on the way. -/
  | died

/-- Whether the registration is waited for. -/
inductive Handling where
  /-- It is waited for. -/
  | awaited
  /-- It is left to itself. -/
  | dropped
  deriving DecidableEq, Repr

/-- What is reported of the registration. -/
inductive Bookkeeping where
  /-- There was none. -/
  | absent
  /-- It came to its end, or it did not. -/
  | finished (wellEnded : Bool)
  /-- It was left to itself. -/
  | dropped
  deriving DecidableEq, Repr

/-- What is reported of an invocation at its end. -/
structure Report where
  /-- The operation. -/
  operation : Operation
  /-- How it ended. -/
  phase : Phase
  /-- Whether its end was shown. -/
  isShown : Bool
  /-- What became of the registration. -/
  bookkeeping : Bookkeeping
  deriving DecidableEq, Repr

/-- An invocation that waits for its answer. -/
structure Waiting where
  /-- The operation. -/
  operation : Operation
  /-- The ticket that it drew. -/
  ticket : Nat
  /-- Who was signed in when it started. -/
  user : Identifier
  /-- The code. -/
  code : Submission
  deriving DecidableEq

/-- The answers that the backend has ready, one for each call. -/
structure Answers where
  /-- The answer to a compilation. -/
  check : Except GatewayError CompileOutcome
  /-- The answer to an analysis. -/
  analyze : Except GatewayError AnalyzeOutcome
  /-- The answer to an optimization. -/
  optimize : Except GatewayError OptimizeOutcome
  /-- The answer to a registration. -/
  register : Registration

/-- The answer to an operation. -/
def Answers.reply (a : Answers) : Operation → Except GatewayError Outcome
  | .compile => a.check.map .compile
  | .analyze => a.analyze.map .analyze
  | .optimize => a.optimize.map .optimize

/-- The desk, with all that it has shown and all calls that it has made. -/
structure Desk where
  /-- Who may show something. -/
  policy : Policy
  /-- How far the operations have come. -/
  board : Board
  /-- What was shown, the latest last. -/
  shown : List Fragment
  /-- The calls that were made, the latest last. -/
  calls : List Call

/-- What comes of starting an operation. -/
inductive Started where
  /-- It was turned away. -/
  | rejected (report : Report)
  /-- It waits for its answer. -/
  | waiting (w : Waiting)

/-- The phase in which an answer leaves its operation. -/
def phaseOf : Except GatewayError Outcome → Phase
  | .ok o => if o.isSuccess then .succeeded else .failed
  | .error _ => .failed

/-- What is shown of an answer. -/
def fragmentOf : Except GatewayError Outcome → Fragment
  | .ok o => Display.outcome o
  | .error e => Display.failure e.message

/-- Whether code is registered after an answer. -/
def isValid : Except GatewayError Outcome → Bool
  | .ok (.compile .valid) => true
  | _ => false

/-- What is reported of the registration of valid code. -/
def bookkeepingOf : Handling → Registration → Bookkeeping
  | .dropped, _ => .dropped
  | .awaited, .answered _ => .finished true
  | .awaited, .died => .finished false

/-- Lets an operation pass for whoever is signed in, or says why not. A session that cannot be
read counts as none. -/
def gate (op : Operation) (stored : Except StoreError (Option Session)) (code : Submission) :
    Except String Session :=
  match stored with
  | .ok (some session) =>
    match op.emptyCodeMessage? with
    | some message => if code.isEmpty then .error message else .ok session
    | none => .ok session
  | _ => .error loginRequired

namespace Desk

/-- A desk where nothing has happened yet. -/
def empty (policy : Policy) : Desk := ⟨policy, .empty, [], []⟩

/-- Notes how far an invocation has come and shows a fragment, each if the invocation may. -/
def settle (d : Desk) (op : Operation) (ticket : Nat) (phase : Phase) (fragment : Fragment) :
    Desk × Bool :=
  let isShown := d.board.ownsRegion d.policy ticket
  ({ d with
      board := d.board.note d.policy op ticket phase
      shown := if isShown then d.shown ++ [fragment] else d.shown }, isShown)

/-- Makes a call. -/
def call (d : Desk) (c : Call) : Desk := { d with calls := d.calls ++ [c] }

/-- Starts an operation, given what the store says about the session. -/
def start (d : Desk) (op : Operation) (stored : Except StoreError (Option Session))
    (code : Submission) : Desk × Started :=
  let d := { d with board := d.board.draw op }
  let ticket := d.board.latest
  match gate op stored code with
  | .error message =>
    let (d, isShown) := d.settle op ticket .failed (Display.failure message)
    (d, .rejected ⟨op, .failed, isShown, .absent⟩)
  | .ok session =>
    let (d, _) := d.settle op ticket .pending (Display.pending op)
    (d.call (.ofOperation op session.user code), .waiting ⟨op, ticket, session.user, code⟩)

/-- Takes the answer to an invocation. -/
def finish (d : Desk) (w : Waiting) (answers : Answers) (handling : Handling) : Desk × Report :=
  let reply := answers.reply w.operation
  let phase := phaseOf reply
  let (d, isShown) := d.settle w.operation w.ticket phase (fragmentOf reply)
  if isValid reply then
    (d.call (.register w.user w.code),
      ⟨w.operation, phase, isShown, bookkeepingOf handling answers.register⟩)
  else (d, ⟨w.operation, phase, isShown, .absent⟩)

end Desk

end Workbench.Workflow
