import Workbench.Workflow.Run
import Workbench.Workflow.Script

/-!
# Rehearsals are runs

In a rehearsal the backend has its answers ready. The same comes about in a run in which every
invocation gets, as soon as it is started, the answers that are ready at that time. So whatever
holds of all runs holds of rehearsals too.

* `Rehearsal.acts` — the run that a rehearsal stands for.
* `rehearsal_is_run` — step by step both have the same desk, store and reports.
-/

namespace Workbench.Workflow

open Workbench.Session (Memory)

namespace Rehearsal

/-- The step of a run that stands for one of a rehearsal, by the answers that are ready. When they
change nothing happens in the run: something is given up that nobody waits for. -/
def Step.act (name : String) (answers : Answers) : Rehearsal.Step → Workflow.Step
  | .script _ => .cancel name
  | .run op code handling => .run name op code answers handling
  | .session session? => .session session?
  | .fault e => .fault e

/-- The run that a rehearsal stands for. -/
def acts (name : String) (r : Rehearsal) : List Rehearsal.Step → List Workflow.Step
  | [] => []
  | step :: rest => step.act name r.answers :: acts name (r.step step).1 rest

/-- What is to be seen after a step: the desk, the store, and the report if there is one. -/
def seen (r : Rehearsal × Option Report) : Desk × Memory × Option Report :=
  (r.1.desk, r.1.store, r.2)

end Rehearsal

/-- What is to be seen after a step: the desk, the store, and the report if there is one. -/
def State.seen (s : State × Option Report) : Desk × Memory × Option Report :=
  (s.1.desk, s.1.store, s.2)

/-- The answer to the only invocation that waits leaves none. -/
theorem State.resolve_alone (desk : Desk) (store : Memory) (name : String) (w : Waiting)
    (answers : Answers) (handling : Handling) :
    State.resolve ⟨desk, store, [(name, w)]⟩ name answers handling =
      (⟨(desk.finish w answers handling).1, store, []⟩,
        some (desk.finish w answers handling).2) := by
  simp [State.resolve, State.find?, State.without]

/-- A rehearsal has come as far as a run in which nothing waits. -/
structure Rehearses (r : Rehearsal) (s : State) : Prop where
  /-- The desk is the same. -/
  desk : s.desk = r.desk
  /-- The store is the same. -/
  store : s.store = r.store
  /-- Nothing waits. -/
  waiting : s.waiting = []

/-- One step of a rehearsal is one of the run. -/
theorem Rehearses.step {r : Rehearsal} {s : State} (h : Rehearses r s) (name : String)
    (st : Rehearsal.Step) :
    Rehearses (r.step st).1 (s.step (st.act name r.answers)).1 ∧
      (s.step (st.act name r.answers)).2 = (r.step st).2 := by
  obtain ⟨desk, store, waiting⟩ := s
  obtain ⟨rfl, rfl, rfl⟩ := h
  cases st with
  | script change => exact ⟨⟨rfl, rfl, rfl⟩, rfl⟩
  | session session? => exact ⟨⟨rfl, rfl, rfl⟩, rfl⟩
  | fault e => exact ⟨⟨rfl, rfl, rfl⟩, rfl⟩
  | run op code handling =>
    rcases hstart : r.desk.start op r.store.get code with ⟨desk, report | w⟩
    · simp only [Rehearsal.Step.act, Rehearsal.step, State.step, State.start, hstart]
      exact ⟨⟨rfl, rfl, rfl⟩, trivial⟩
    · have hstarted : State.start ⟨r.desk, r.store, []⟩ name op code =
          (⟨desk, r.store, [(name, w)]⟩, none) := by
        rw [State.start, hstart]
        rfl
      simp only [Rehearsal.Step.act, Rehearsal.step, State.step, hstart, hstarted,
        State.resolve_alone]
      exact ⟨⟨rfl, rfl, rfl⟩, trivial⟩

/-- **Rehearsals are runs**: step by step, for whatever policy and whoever is signed in, a rehearsal
has the desk, the store and the report of the run that it stands for. -/
theorem rehearsal_is_run (name : String) (policy : Policy) (session? : Option Session)
    (steps : List Rehearsal.Step) :
    ((State.init policy session?).run
        ((Rehearsal.init policy session?).acts name steps)).map State.seen =
      ((Rehearsal.init policy session?).run steps).map Rehearsal.seen := by
  have hrun {r : Rehearsal} {s : State} (h : Rehearses r s) :
      (s.run (r.acts name steps)).map State.seen = (r.run steps).map Rehearsal.seen := by
    induction steps generalizing r s with
    | nil => rfl
    | cons st steps ih =>
      obtain ⟨hnext, hreport⟩ := h.step name st
      simp only [Rehearsal.acts, State.run, Rehearsal.run, List.map_cons, ih hnext, State.seen,
        Rehearsal.seen, hnext.desk, hnext.store, hreport]
  exact hrun ⟨rfl, rfl, rfl⟩

end Workbench.Workflow
