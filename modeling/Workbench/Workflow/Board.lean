import Workbench.Operation.Basic

/-!
# The board

Invocations of operations may overtake each other. Each one draws a ticket when it starts, and the
board remembers the last ticket of all and, for each operation, the last ticket and how far the
operation has come. Whether an invocation may still show what it has to show depends on the
policy.
-/

namespace Workbench.Workflow

/-- How far an operation has come. -/
inductive Phase where
  /-- It was never started. -/
  | idle
  /-- It waits for its answer. -/
  | pending
  /-- It ended well. -/
  | succeeded
  /-- It ended badly. -/
  | failed
  deriving DecidableEq, Repr, Inhabited

/-- Who may show something when invocations cross. -/
inductive Policy where
  /-- Whoever comes, in the order in which they come. -/
  | lastArrival
  /-- The invocation that was started last, and no other. -/
  | latestInvocation
  deriving DecidableEq, Repr, Inhabited

/-- What is known of one operation. -/
structure Slot where
  /-- The ticket of its last invocation, zero if there was none. -/
  ticket : Nat
  /-- How far it has come. -/
  phase : Phase
  deriving DecidableEq, Repr

/-- What is known of all operations. -/
structure Board where
  /-- The last ticket that was drawn. -/
  latest : Nat
  /-- What is known of each. -/
  slot : Operation → Slot

namespace Board

/-- No operation was started yet. -/
def empty : Board := ⟨0, fun _ => ⟨0, .idle⟩⟩

/-- Changes what is known of one operation. -/
def change (b : Board) (op : Operation) (f : Slot → Slot) : Board :=
  { b with slot := fun o => if o = op then f (b.slot o) else b.slot o }

/-- The board after an invocation has drawn its ticket, which is then the last one. -/
def draw (b : Board) (op : Operation) : Board :=
  { b with latest := b.latest + 1 }.change op fun s => { s with ticket := b.latest + 1 }

/-- How far an operation has come. -/
def phase (b : Board) (op : Operation) : Phase := (b.slot op).phase

/-- Whether an invocation may write to the region that all operations share. -/
def ownsRegion (policy : Policy) (b : Board) (ticket : Nat) : Bool :=
  policy == .lastArrival || ticket == b.latest

/-- Whether an invocation speaks for its operation. -/
def ownsSlot (policy : Policy) (b : Board) (op : Operation) (ticket : Nat) : Bool :=
  policy == .lastArrival || (b.slot op).ticket == ticket

/-- Notes how far an invocation has come, if it speaks for its operation. -/
def note (policy : Policy) (b : Board) (op : Operation) (ticket : Nat) (phase : Phase) : Board :=
  if b.ownsSlot policy op ticket then b.change op fun s => { s with phase := phase } else b

end Board

end Workbench.Workflow
