import Workbench.Proofs.Workflow.Ownership
import Workbench.Proofs.Workflow.Registration

/-!
# The chronicle of a run

The chronicle of a run is all its news in the order in which they come: operations that are
turned away, operations that are let in, and answers to those that wait. It is told by the history
alone. This module reads off it what a desk does that shows whatever comes:

* `calls_after` — the calls of a run are those that its news bring, whatever the policy is.
* `lastArrival_shows_all` — under the policy of the last arrival all news are shown, one fragment
  each, and the phase of an operation is that of the last news on it.
-/

namespace Workbench.Workflow

open Workbench.Markup (Fragment)

/-! ### The news of a whole run -/

namespace History

/-- The news that a sequence of steps brings, the latest last. -/
def chronicle (h : History) : List Step → List Invocation
  | [] => []
  | st :: steps => h.news st ++ (h.step st).chronicle steps

theorem chronicle_append (h : History) (steps : List Step) (st : Step) :
    h.chronicle (steps ++ [st]) = h.chronicle steps ++ (h.after steps).news st := by
  induction steps generalizing h with
  | nil => simp [chronicle, after]
  | cons st' steps ih =>
    rw [List.cons_append, chronicle, ih, chronicle, List.append_assoc]
    rfl

end History

namespace Desk

@[simp] theorem policy_drawFor (d : Desk) (st : Step) : (d.drawFor st).policy = d.policy := by
  unfold drawFor
  split <;> rfl

@[simp] theorem shown_drawFor (d : Desk) (st : Step) : (d.drawFor st).shown = d.shown := by
  unfold drawFor
  split <;> rfl

/-- A ticket that is drawn leaves all phases as they are. -/
@[simp] theorem phase_drawFor (d : Desk) (st : Step) (op : Operation) :
    (d.drawFor st).board.phase op = d.board.phase op := by
  unfold drawFor
  split
  · simp only [draw, Board.draw, Board.phase, Board.change]
    split <;> rfl
  · rfl

end Desk

/-- The policy of a desk stays what it was in the beginning. -/
theorem policy_after (policy : Policy) (session : Option Session) (steps : List Step) :
    ((State.init policy session).after steps).desk.policy = policy := by
  induction steps using List.reverseRecOn with
  | nil => rfl
  | append_singleton steps st ih =>
    rw [State.after_append, (Agrees.after policy session steps).policy_step, ih]

/-- **The calls of a run are those that its news bring**, under either policy. -/
theorem calls_after (policy : Policy) (session : Option Session) (steps : List Step) :
    ((State.init policy session).after steps).desk.calls =
      ((History.init session).chronicle steps).filterMap Invocation.call? := by
  induction steps using List.reverseRecOn with
  | nil => rfl
  | append_singleton steps st ih =>
    rw [State.after_append, (Agrees.after policy session steps).desk_step, Desk.calls_foldl_take,
      Desk.calls_drawFor, ih, History.chronicle_append, List.filterMap_append]

/-! ### A desk that shows whatever comes -/

namespace Desk

variable {d : Desk}

/-- Under the policy of the last arrival every invocation may write to the region. -/
theorem ownsRegion_of_lastArrival (hd : d.policy = .lastArrival) (ticket : Nat) :
    d.board.ownsRegion d.policy ticket := by
  rw [hd]
  rfl

/-- Under the policy of the last arrival every invocation speaks for its operation. -/
theorem ownsSlot_of_lastArrival (hd : d.policy = .lastArrival) (op : Operation) (ticket : Nat) :
    d.board.ownsSlot d.policy op ticket := by
  rw [hd]
  rfl

theorem policy_foldl_take (news : List Invocation) (d : Desk) :
    (news.foldl take d).policy = d.policy := by
  induction news generalizing d with
  | nil => rfl
  | cons i news ih => exact ih (d.take i)

/-- Whatever comes is shown. -/
theorem shown_foldl_take (hd : d.policy = .lastArrival) (news : List Invocation) :
    (news.foldl take d).shown = d.shown ++ news.map Invocation.fragment := by
  induction news generalizing d with
  | nil => exact (List.append_nil _).symm
  | cons i news ih =>
    have htake : (d.take i).shown = d.shown ++ [i.fragment] :=
      shown_take_of_owns (ownsRegion_of_lastArrival hd _)
    rw [List.foldl_cons, ih (d := d.take i) hd, htake, List.append_assoc]
    rfl

/-- An operation has come as far as the last news on it say. -/
theorem phase_foldl_take (hd : d.policy = .lastArrival) (news : List Invocation)
    (op : Operation) :
    (news.foldl take d).board.phase op =
      ((news.filter (·.operation = op)).getLast?.map Invocation.phase).getD
        (d.board.phase op) := by
  induction news using List.reverseRecOn with
  | nil => rfl
  | append_singleton news i ih =>
    rw [List.foldl_append, List.foldl_cons, List.foldl_nil, List.filter_append]
    by_cases hop : i.operation = op
    · subst hop
      have hfilter : [i].filter (·.operation = i.operation) = [i] := by simp
      rw [phase_take_of_owns, hfilter, List.getLast?_concat]
      · rfl
      · exact ownsSlot_of_lastArrival ((policy_foldl_take news d).trans hd) _ _
    · have hfilter : [i].filter (·.operation = op) = [] := by simpa using hop
      rw [phase_take_of_ne (Ne.symm hop), hfilter, List.append_nil, ih]

end Desk

/-- What one more step shows under the policy of the last arrival. -/
theorem shown_step_of_lastArrival (session : Option Session) (steps : List Step) (st : Step) :
    let s := (State.init .lastArrival session).after steps
    (s.step st).1.desk.shown = s.desk.shown ++
      (((History.init session).after steps).news st).map Invocation.fragment := by
  intro s
  have hpolicy : (s.desk.drawFor st).policy = .lastArrival := by
    rw [Desk.policy_drawFor, policy_after]
  rw [(Agrees.after .lastArrival session steps).desk_step, Desk.shown_foldl_take hpolicy,
    Desk.shown_drawFor]

theorem shown_after_of_lastArrival (session : Option Session) (steps : List Step) :
    ((State.init .lastArrival session).after steps).desk.shown =
      ((History.init session).chronicle steps).map Invocation.fragment := by
  induction steps using List.reverseRecOn with
  | nil => rfl
  | append_singleton steps st ih =>
    rw [State.after_append, shown_step_of_lastArrival, ih, History.chronicle_append,
      List.map_append]

theorem phase_after_of_lastArrival (session : Option Session) (steps : List Step)
    (op : Operation) :
    ((State.init .lastArrival session).after steps).desk.board.phase op =
      ((((History.init session).chronicle steps).filter (·.operation = op)).getLast?.map
        Invocation.phase).getD .idle := by
  induction steps using List.reverseRecOn with
  | nil => rfl
  | append_singleton steps st ih =>
    have hpolicy := (Desk.policy_drawFor _ st).trans (policy_after .lastArrival session steps)
    rw [State.after_append, (Agrees.after .lastArrival session steps).desk_step,
      Desk.phase_foldl_take hpolicy, Desk.phase_drawFor, ih, History.chronicle_append,
      List.filter_append, List.getLast?_append]
    cases ((((History.init session).after steps).news st).filter (·.operation = op)).getLast? <;>
      rfl

/-- **Whatever comes is shown.** Under the policy of the last arrival a run shows, step by step,
one fragment for each operation that is turned away, one for each that is let in and one for each
answer that reaches an invocation which waits for it, and nothing else. The phase of an operation
is that of the last of these on it, and idle if there is none. What comes to its end in a step is
reported in it, as shown. -/
theorem lastArrival_shows_all (session : Option Session) (steps : List Step) :
    let h := History.init session
    let s := (State.init .lastArrival session).after steps
    s.desk.shown = (h.chronicle steps).map Invocation.fragment ∧
      (∀ op, s.desk.board.phase op =
        (((h.chronicle steps).filter (·.operation = op)).getLast?.map Invocation.phase).getD
          .idle) ∧
      ∀ st, (s.step st).1.desk.shown =
          s.desk.shown ++ ((h.after steps).news st).map Invocation.fragment ∧
        (s.step st).2 = ((h.after steps).ended? st).map fun i => i.report true st := by
  intro h s
  refine ⟨shown_after_of_lastArrival session steps, phase_after_of_lastArrival session steps,
    fun st => ⟨shown_step_of_lastArrival session steps st, ?_⟩⟩
  rw [(Agrees.after .lastArrival session steps).report_step, policy_after]
  rfl

/-- A slow answer is shown in place of a fast one that was asked for later. -/
example (session : Session) :
    ((State.init .lastArrival (some session)).after
      [.start "slow" .analyze ⟨"x"⟩, .start "fast" .optimize ⟨"x"⟩,
        .resolve "fast" .standard .awaited, .resolve "slow" .standard .awaited]).desk.shown =
      [Display.pending .analyze, Display.pending .optimize,
        fragmentOf (Answers.standard.reply .optimize),
        fragmentOf (Answers.standard.reply .analyze)] := rfl

end Workbench.Workflow
