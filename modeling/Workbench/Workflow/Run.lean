import Workbench.Session.Memory
import Workbench.Workflow.Desk

/-!
# Runs

A run is a sequence of steps at a desk, with a store in memory behind it. Invocations that wait
for their answers are known by a name; their answers may come in any order, or never.
-/

namespace Workbench.Workflow

open Workbench.Session (Memory)

/-- One step of a run. -/
inductive Step where
  /-- An operation is started. -/
  | start (name : String) (op : Operation) (code : Submission)
  /-- The answer to an invocation comes. -/
  | resolve (name : String) (answers : Answers) (handling : Handling)
  /-- An operation is started, and its answer comes at once. -/
  | run (name : String) (op : Operation) (code : Submission) (answers : Answers)
      (handling : Handling)
  /-- An invocation is given up. -/
  | cancel (name : String)
  /-- Someone signs in or out. -/
  | session (session : Option Session)
  /-- The store begins or ceases to fail. -/
  | fault (e : Option StoreError)

/-- The state of a run. -/
structure State where
  /-- The desk. -/
  desk : Desk
  /-- The store. -/
  store : Memory
  /-- The invocations that wait, by name. -/
  waiting : List (String × Waiting)

namespace State

/-- The state in which a run begins. -/
def init (policy : Policy) (session : Option Session) : State :=
  ⟨.empty policy, .holding session, []⟩

/-- The waiting invocation of a name. -/
def find? (s : State) (name : String) : Option Waiting :=
  (s.waiting.find? fun e => e.1 == name).map (·.2)

/-- The waiting invocations without one of them. -/
def without (s : State) (name : String) : List (String × Waiting) :=
  s.waiting.filter fun e => e.1 != name

/-- Starts an operation. -/
def start (s : State) (name : String) (op : Operation) (code : Submission) :
    State × Option Report :=
  match s.desk.start op s.store.get code with
  | (desk, .rejected report) => ({ s with desk := desk }, some report)
  | (desk, .waiting w) =>
    ({ s with desk := desk, waiting := s.without name ++ [(name, w)] }, none)

/-- Takes the answer to an invocation; without an invocation of that name nothing happens. -/
def resolve (s : State) (name : String) (answers : Answers) (handling : Handling) :
    State × Option Report :=
  match s.find? name with
  | none => (s, none)
  | some w =>
    let (desk, report) := s.desk.finish w answers handling
    ({ s with desk := desk, waiting := s.without name }, some report)

/-- One step, with the report of the invocation that came to its end in it. -/
def step (s : State) : Step → State × Option Report
  | .start name op code => s.start name op code
  | .resolve name answers handling => s.resolve name answers handling
  | .run name op code answers handling =>
    match s.start name op code with
    | (s, some report) => (s, some report)
    | (s, none) => s.resolve name answers handling
  | .cancel name => ({ s with waiting := s.without name }, none)
  | .session session => ({ s with store := { s.store with current := session } }, none)
  | .fault e => ({ s with store := { s.store with faults := ⟨e, none, none⟩ } }, none)

/-- The states and reports of a run, one for each step. -/
def run (s : State) : List Step → List (State × Option Report)
  | [] => []
  | step :: rest => s.step step :: run (s.step step).1 rest

/-- The state after a run. -/
def after (s : State) (steps : List Step) : State :=
  steps.foldl (fun s step => (s.step step).1) s

end State

end Workbench.Workflow
