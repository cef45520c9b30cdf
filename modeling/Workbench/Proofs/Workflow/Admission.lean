import Workbench.Proofs.Workflow.Agreement

/-!
# Who is let in

An operation is passed on to the backend only for somebody who is signed in, and only with the
code that it needs. The session is looked up in the step that starts the operation, and nowhere
else, so it does not matter who was signed in before or for whom other operations are under way.

* `session_gate` — an operation is passed on, by one call, exactly if a session can be read when
  it starts and it has the code that it needs. Otherwise it is turned away with the reason, and no
  call is made.
-/

namespace Workbench.Workflow

open Workbench.Markup (Fragment)

/-! ### The gate -/

section Gate

variable {op : Operation} {stored : Except StoreError (Option Session)} {code : Submission}

/-- Only a compilation may do without code. -/
theorem gate_eq_ok_iff {session : Session} :
    gate op stored code = .ok session ↔
      stored = .ok (some session) ∧ (op = .compile ∨ code.code ≠ "") := by
  unfold gate
  split
  next found =>
    by_cases hc : code.code = "" <;> cases op <;>
      simp [Operation.emptyCodeMessage?, Submission.isEmpty, hc]
  next hs =>
    simp only [reduceCtorEq, false_iff, not_and]
    exact fun hfound => absurd hfound (hs session)

/-- A session that is absent or cannot be read is noticed first. -/
theorem gate_of_signedOut (hs : ∀ session, stored ≠ .ok (some session)) :
    gate op stored code = .error loginRequired := by
  unfold gate
  split
  next session => exact absurd rfl (hs session)
  next => rfl

theorem gate_of_empty {session : Session} {message : String} (hc : code.code = "")
    (hm : op.emptyCodeMessage? = some message) :
    gate op (.ok (some session)) code = .error message := by
  have he : code.isEmpty := by simp [Submission.isEmpty, hc]
  simp only [gate, hm, he, if_true]

end Gate

/-! ### What a start does -/

/-- An operation was let in: it is passed on by a call, and it is shown that it is under way. -/
structure LetIn (op : Operation) (call : Call) (s : State) (r : State × Option Report) : Prop where
  /-- One call is made. -/
  calls : r.1.desk.calls = s.desk.calls ++ [call]
  /-- One fragment is shown. -/
  shown : r.1.desk.shown = s.desk.shown ++ [Display.pending op]
  /-- The operation waits for its answer. -/
  phase : r.1.desk.board.phase op = .pending
  /-- Nothing is reported yet. -/
  report : r.2 = none

/-- An operation was turned away: the reason is shown, and no call is made. -/
structure TurnedAway (op : Operation) (message : String) (s : State)
    (r : State × Option Report) : Prop where
  /-- No call is made. -/
  calls : r.1.desk.calls = s.desk.calls
  /-- One fragment is shown. -/
  shown : r.1.desk.shown = s.desk.shown ++ [Display.failure message]
  /-- The operation has failed. -/
  phase : r.1.desk.board.phase op = .failed
  /-- This is reported at once. -/
  report : r.2 = some ⟨op, .failed, true, .absent⟩

namespace State

variable {s : State} {op : Operation} {code : Submission}

theorem letIn_of_ok {session : Session} (hg : gate op s.store.get code = .ok session)
    (name : String) :
    LetIn op (.ofOperation op session.user code) s (s.step (.start name op code)) := by
  rw [step_start_of_ok hg, Desk.settle_draw]
  refine ⟨rfl, rfl, ?_, rfl⟩
  simp only [Desk.call, Board.phase, Board.change, if_true]

theorem turnedAway_of_error {message : String} (hg : gate op s.store.get code = .error message)
    (name : String) : TurnedAway op message s (s.step (.start name op code)) := by
  rw [step_start_of_error hg, Desk.settle_draw]
  refine ⟨rfl, rfl, ?_, rfl⟩
  simp only [Board.phase, Board.change, if_true]

end State

/-! ### Requests -/

/-- Whether a call files valid code. -/
def Call.isRegistration : Call → Bool
  | .register _ _ => true
  | _ => false

@[simp] theorem Call.isRegistration_ofOperation (op : Operation) (user : Identifier)
    (code : Submission) : (Call.ofOperation op user code).isRegistration = false := by
  cases op <;> rfl

/-- The calls that pass an operation on. -/
def Desk.requests (d : Desk) : List Call := d.calls.filter fun c => !c.isRegistration

/-- An answer passes nothing on. -/
theorem Desk.requests_finish (d : Desk) (w : Waiting) (answers : Answers) (handling : Handling) :
    (d.finish w answers handling).1.requests = d.requests := by
  simp only [finish, requests]
  split <;> simp [settle, call, Call.isRegistration]

namespace State

/-- The call by which a step passes an operation on: it starts one while a session can be read,
and it has code unless it is a compilation. -/
def request? (s : State) (st : Step) : Option Call :=
  match st.start?, s.store.get with
  | some (op, code), .ok (some found) =>
    if op = .compile ∨ code.code ≠ "" then some (.ofOperation op found.user code) else none
  | _, _ => none

/-- The calls by which the steps of a run pass operations on. -/
def requested (s : State) : List Step → List Call
  | [] => []
  | st :: steps => (s.request? st).toList ++ (s.step st).1.requested steps

theorem requests_resolve (s : State) (name : String) (answers : Answers) (handling : Handling) :
    (s.step (.resolve name answers handling)).1.desk.requests = s.desk.requests := by
  simp only [step, resolve]
  split
  · rfl
  · exact Desk.requests_finish ..

variable {op : Operation} {code : Submission}

theorem requests_start (s : State) (name : String) (op : Operation) (code : Submission) :
    (s.step (.start name op code)).1.desk.requests =
      s.desk.requests ++ (s.request? (.start name op code)).toList := by
  cases hg : gate op s.store.get code with
  | error message =>
    have hnone : s.request? (.start name op code) = none := by
      simp only [request?, Step.start?]
      split
      next heq hs =>
        cases heq
        refine if_neg fun hc => ?_
        rw [gate_eq_ok_iff.mpr ⟨hs, hc⟩] at hg
        cases hg
      next => rfl
    rw [Desk.requests, (turnedAway_of_error hg name).calls, hnone, Option.toList_none,
      List.append_nil, Desk.requests]
  | ok session =>
    obtain ⟨hs, hc⟩ := gate_eq_ok_iff.mp hg
    have hsome : s.request? (.start name op code) = some (.ofOperation op session.user code) := by
      simp only [request?, Step.start?, hs, hc, if_true]
    rw [Desk.requests, (letIn_of_ok hg name).calls, hsome, List.filter_append]
    simp [Desk.requests]

/-- A step passes an operation on if it starts one that is let in, and no other step does. -/
theorem requests_step (s : State) (st : Step) :
    (s.step st).1.desk.requests = s.desk.requests ++ (s.request? st).toList := by
  cases st with
  | start name op code => exact requests_start s name op code
  | resolve name answers handling =>
    rw [requests_resolve]
    exact (List.append_nil _).symm
  | run name op code answers handling =>
    cases hg : gate op s.store.get code with
    | error message =>
      rw [step_run_of_error hg]
      exact requests_start s name op code
    | ok session =>
      rw [step_run_of_ok hg, requests_resolve]
      exact requests_start s name op code
  | cancel | session | fault => exact (List.append_nil _).symm

theorem requests_after (s : State) (steps : List Step) :
    (s.after steps).desk.requests = s.desk.requests ++ s.requested steps := by
  induction steps generalizing s with
  | nil => exact (List.append_nil _).symm
  | cons st steps ih =>
    rw [after, List.foldl_cons, ← after, ih, requests_step, requested, List.append_assoc]

/-- Only those who sign in and out change the store, and those who make it fail. -/
theorem store_step (s : State) {st : Step} (hsession : ∀ session, st ≠ .session session)
    (hfault : ∀ e, st ≠ .fault e) : (s.step st).1.store = s.store := by
  have hstart : ∀ name op code, (s.step (.start name op code)).1.store = s.store := by
    intro name op code
    cases hg : gate op s.store.get code with
    | error message => rw [step_start_of_error hg]
    | ok session => rw [step_start_of_ok hg]
  have hresolve : ∀ (s : State) name answers handling,
      (s.step (.resolve name answers handling)).1.store = s.store := by
    intro s name answers handling
    simp only [step, resolve]
    split <;> rfl
  cases st with
  | start name op code => exact hstart name op code
  | resolve name answers handling => exact hresolve s name answers handling
  | run name op code answers handling =>
    cases hg : gate op s.store.get code with
    | error message => rw [step_run_of_error hg, hstart]
    | ok session => rw [step_run_of_ok hg, hresolve, hstart]
  | cancel name => rfl
  | session session => exact absurd rfl (hsession session)
  | fault e => exact absurd rfl (hfault e)

end State

/-- **An operation is passed on only for somebody who is signed in, and with the code that it
needs.** If a session can be read when it starts, and it has code or is a compilation, then one
call is made, for this session and with this code, and the region shows that the operation is
under way. Otherwise no call is made: somebody who is not signed in is told so, even if there is
no code either, and else the operation asks for code. To run an operation is to start it, and to
answer it if it waits then. No other step passes an operation on, and none changes the store but
signing in and out and the failures of the store itself. -/
theorem session_gate (policy : Policy) (session : Option Session) (steps : List Step) :
    let s := (State.init policy session).after steps
    s.desk.requests = (State.init policy session).requested steps ∧
      (∀ name op code,
        let r := s.step (.start name op code)
        (∀ found, s.store.get = .ok (some found) → (op = .compile ∨ code.code ≠ "") →
          LetIn op (.ofOperation op found.user code) s r) ∧
        ((∀ found, s.store.get ≠ .ok (some found)) → TurnedAway op loginRequired s r) ∧
        (∀ found, s.store.get = .ok (some found) → op ≠ .compile → code.code = "" →
          ∃ message, op.emptyCodeMessage? = some message ∧ TurnedAway op message s r) ∧
        ∀ answers handling, s.step (.run name op code answers handling) =
          if r.2.isSome then r else r.1.step (.resolve name answers handling)) ∧
      ∀ st, (s.step st).1.desk.requests = s.desk.requests ++ (s.request? st).toList ∧
        ((∀ session, st ≠ .session session) → (∀ e, st ≠ .fault e) →
          (s.step st).1.store = s.store) := by
  intro s
  refine ⟨State.requests_after _ steps, fun name op code => ⟨?_, ?_, ?_, ?_⟩,
    fun st => ⟨s.requests_step st, s.store_step⟩⟩
  · intro found hs hc
    exact State.letIn_of_ok (gate_eq_ok_iff.mpr ⟨hs, hc⟩) name
  · intro hs
    exact State.turnedAway_of_error (gate_of_signedOut hs) name
  · intro found hs hop hc
    obtain ⟨message, hm⟩ : ∃ message, op.emptyCodeMessage? = some message := by
      cases op with
      | compile => exact absurd rfl hop
      | analyze => exact ⟨_, rfl⟩
      | optimize => exact ⟨_, rfl⟩
    exact ⟨message, hm, State.turnedAway_of_error (hs ▸ gate_of_empty hc hm) name⟩
  · intro answers handling
    cases hg : gate op s.store.get code with
    | error message =>
      rw [State.step_run_of_error hg, (State.turnedAway_of_error hg name).report]
      rfl
    | ok session =>
      rw [State.step_run_of_ok hg, (State.letIn_of_ok hg name).report]
      rfl

end Workbench.Workflow
