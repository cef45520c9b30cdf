import Workbench.Session.Memory
import Workbench.Workflow.Desk

/-!
# Rehearsals

A rehearsal is a run in which the backend has all its answers ready, so that no invocation ever
has to wait. The answers can be changed on the way.
-/

namespace Workbench.Workflow

open Workbench.Session (Memory)

/-- The answers of a backend that nobody told otherwise. -/
def Answers.standard : Answers where
  check := .ok .valid
  analyze := .ok (.success "O(1)")
  optimize := .ok (.success "" none)
  register := .answered (.ok ())

/-- One step of a rehearsal. -/
inductive Rehearsal.Step where
  /-- The answers change. -/
  | script (change : Answers → Answers)
  /-- An operation is run to its end. -/
  | run (op : Operation) (code : Submission) (handling : Handling)
  /-- Someone signs in or out. -/
  | session (session : Option Session)
  /-- The store begins or ceases to fail. -/
  | fault (e : Option StoreError)

/-- The state of a rehearsal. -/
structure Rehearsal where
  /-- The desk. -/
  desk : Desk
  /-- The store. -/
  store : Memory
  /-- The answers that are ready. -/
  answers : Answers

namespace Rehearsal

/-- The state in which a rehearsal begins. -/
def init (policy : Policy) (session : Option Session) : Rehearsal :=
  ⟨.empty policy, .holding session, .standard⟩

/-- One step, with the report of the operation that was run in it. -/
def step (s : Rehearsal) : Rehearsal.Step → Rehearsal × Option Report
  | .script change => ({ s with answers := change s.answers }, none)
  | .run op code handling =>
    match s.desk.start op s.store.get code with
    | (desk, .rejected report) => ({ s with desk := desk }, some report)
    | (desk, .waiting w) =>
      let (desk, report) := desk.finish w s.answers handling
      ({ s with desk := desk }, some report)
  | .session session => ({ s with store := { s.store with current := session } }, none)
  | .fault e => ({ s with store := { s.store with faults := ⟨e, none, none⟩ } }, none)

/-- The states and reports of a rehearsal, one for each step. -/
def run (s : Rehearsal) : List Rehearsal.Step → List (Rehearsal × Option Report)
  | [] => []
  | step :: rest => s.step step :: run (s.step step).1 rest

end Rehearsal

end Workbench.Workflow
