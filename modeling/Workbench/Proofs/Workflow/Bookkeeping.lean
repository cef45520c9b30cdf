import Mathlib.Data.List.Forall2
import Workbench.Proofs.Workflow.Registration

/-!
# Nobody notices a registration

What becomes of a registration is told to whoever waits for it, and to nobody else. Two runs are
compared that take the same steps, but for the ends of the registrations: in one they may be
answered, in the other they may fail or die, and in each they may be waited for or left alone.

* `State.step_rebook` — a step leads to the same state whatever becomes of its registration, and
  its report differs in what it says of the registration, if it says anything.
* `bookkeeping_never_surfaces` — this for whole runs, however many registrations die on the way.
-/

namespace Workbench.Workflow

/-! ### Steps that differ in a registration -/

/-- A step with something else becoming of the registration that it may bring. -/
def Step.rebook (registration : Registration) (handling : Handling) : Step → Step
  | .resolve name answers _ => .resolve name { answers with register := registration } handling
  | .run name op code answers _ =>
    .run name op code { answers with register := registration } handling
  | st => st

/-- Two steps are the same, but for what becomes of a registration and whether anybody waits for
it. -/
def Step.SameButRegistration (st st' : Step) : Prop :=
  ∃ registration handling, st' = st.rebook registration handling

/-- The registration that a step may bring, and whether anybody waits for it. -/
def Step.registration? : Step → Option (Registration × Handling)
  | .resolve _ answers handling => some (answers.register, handling)
  | .run _ _ _ answers handling => some (answers.register, handling)
  | _ => none

namespace Report

/-- A report on something else becoming of the registration, if there was one. -/
def rebook (registration : Registration) (handling : Handling) (r : Report) : Report :=
  { r with
    bookkeeping :=
      if r.bookkeeping = .absent then .absent else bookkeepingOf handling registration }

/-- What a report says of the operation, and whether there was a registration at all. -/
def main (r : Report) : Operation × Phase × Bool × Bool :=
  (r.operation, r.phase, r.isShown, r.bookkeeping = .absent)

/-- Whoever was told of a registration was told the truth. One that nobody waited for was left to
itself; one that was waited for did not end well exactly if it died. -/
def IsTrueTo (st : Step) (r : Report) : Prop :=
  r.bookkeeping ≠ .absent → ∃ registration handling,
    st.registration? = some (registration, handling) ∧
      (handling = .dropped → r.bookkeeping = .dropped) ∧
      (handling = .awaited → ∃ wellEnded,
        r.bookkeeping = .finished wellEnded ∧ (wellEnded = false ↔ registration = .died))

variable {registration : Registration} {handling : Handling} {r : Report}

/-- There is nothing to change where there was no registration. -/
theorem rebook_of_absent (h : r.bookkeeping = .absent) : r.rebook registration handling = r := by
  obtain ⟨operation, phase, isShown, bookkeeping⟩ := r
  subst h
  rfl

@[simp] theorem main_rebook : (r.rebook registration handling).main = r.main := by
  unfold main rebook
  by_cases h : r.bookkeeping = .absent
  · rw [if_pos h, h]
  · rw [if_neg h, decide_eq_false h, decide_eq_false (bookkeepingOf_ne_absent _ _)]

theorem isTrueTo_of_absent {st : Step} (h : r.bookkeeping = .absent) : r.IsTrueTo st :=
  fun hne => absurd h hne

theorem isTrueTo_of_bookkeepingOf {st : Step}
    (hst : st.registration? = some (registration, handling))
    (h : r.bookkeeping = bookkeepingOf handling registration) : r.IsTrueTo st := by
  refine fun _ => ⟨registration, handling, hst, ?_, ?_⟩
  · rintro rfl
    exact h
  · rintro rfl
    cases registration with
    | answered answer => exact ⟨true, h, by simp⟩
    | died => exact ⟨false, h, by simp⟩

end Report

/-! ### One step -/

/-- The answers to the operations have nothing to do with those to registrations. -/
@[simp] theorem Answers.reply_register (answers : Answers) (registration : Registration)
    (op : Operation) :
    ({ answers with register := registration } : Answers).reply op = answers.reply op := by
  cases op <;> rfl

namespace Desk

variable (d : Desk) (w : Waiting) (answers : Answers) (handling : Handling)

/-- An end that is reported by the desk has a registration exactly if code was found valid. -/
theorem bookkeeping_finish :
    (d.finish w answers handling).2.bookkeeping =
      if isValid (answers.reply w.operation) then bookkeepingOf handling answers.register
      else .absent := by
  simp only [finish]
  split <;> rfl

theorem finish_rebook (registration : Registration) (handling' : Handling) :
    d.finish w { answers with register := registration } handling' =
      ((d.finish w answers handling).1,
        (d.finish w answers handling).2.rebook registration handling') := by
  simp only [finish, Answers.reply_register]
  split
  · rw [Report.rebook, if_neg (bookkeepingOf_ne_absent _ _)]
  · rw [Report.rebook_of_absent rfl]

end Desk

namespace State

variable (s : State) (name : String)

/-- Whoever is turned away is told of no registration. -/
theorem bookkeeping_start {op : Operation} {code : Submission} {report : Report}
    (h : (s.start name op code).2 = some report) : report.bookkeeping = .absent := by
  cases hg : gate op s.store.get code with
  | error message =>
    rw [show s.start name op code = _ from step_start_of_error hg name] at h
    obtain rfl := Option.some.inj h
    rfl
  | ok session =>
    rw [show s.start name op code = _ from step_start_of_ok hg name] at h
    cases h

theorem resolve_rebook (answers : Answers) (handling handling' : Handling)
    (registration : Registration) :
    s.resolve name { answers with register := registration } handling' =
      ((s.resolve name answers handling).1,
        (s.resolve name answers handling).2.map (Report.rebook registration handling')) := by
  unfold resolve
  split
  next => rfl
  next w hw =>
    rw [Desk.finish_rebook s.desk w answers handling]
    rfl

/-- **A step leads to the same state whatever becomes of its registration.** Its report differs in
what it says of the registration, if there was one, and in nothing else. -/
theorem step_rebook (registration : Registration) (handling : Handling) (st : Step) :
    s.step (st.rebook registration handling) =
      ((s.step st).1, (s.step st).2.map (Report.rebook registration handling)) := by
  have hturned {name : String} {op : Operation} {code : Submission} {report : Report}
      (h : (s.start name op code).2 = some report) :
      (some report).map (Report.rebook registration handling) = some report :=
    congrArg some (Report.rebook_of_absent (bookkeeping_start s name h))
  cases st with
  | start name op code =>
    change s.start name op code = ((s.start name op code).1, (s.start name op code).2.map _)
    cases h : (s.start name op code).2 with
    | none => rw [Option.map_none, ← h]
    | some report => rw [hturned h, ← h]
  | resolve name answers handling₀ => exact resolve_rebook s name answers handling₀ _ _
  | run name op code answers handling₀ =>
    simp only [Step.rebook, step]
    split
    next s' report h => rw [hturned (congrArg Prod.snd h)]
    next s' h => exact resolve_rebook s' name answers handling₀ _ _
  | cancel name => rfl
  | session session => rfl
  | fault e => rfl

/-- A report of a registration is true to the step that it is made in. -/
theorem isTrueTo_step (st : Step) {report : Report} (h : report ∈ (s.step st).2) :
    report.IsTrueTo st := by
  have hresolve {s : State} {name : String} {answers : Answers} {handling : Handling} {st : Step}
      (hst : st.registration? = some (answers.register, handling))
      (h : (s.resolve name answers handling).2 = some report) : report.IsTrueTo st := by
    unfold resolve at h
    split at h
    next => cases h
    next w hw =>
      obtain rfl := Option.some.inj h
      have hbook := Desk.bookkeeping_finish s.desk w answers handling
      split at hbook
      · exact Report.isTrueTo_of_bookkeepingOf hst hbook
      · exact Report.isTrueTo_of_absent hbook
  cases st with
  | start name op code => exact Report.isTrueTo_of_absent (bookkeeping_start s name h)
  | resolve name answers handling => exact hresolve rfl h
  | run name op code answers handling =>
    simp only [step] at h
    split at h
    next s' report' hstart =>
      obtain rfl := Option.some.inj h
      exact Report.isTrueTo_of_absent (bookkeeping_start s name (congrArg Prod.snd hstart))
    next => exact hresolve rfl h
  | cancel | session | fault => cases h

/-! ### Whole runs -/

variable {s}

theorem run_sameButRegistration {steps steps' : List Step}
    (h : List.Forall₂ Step.SameButRegistration steps steps') :
    (s.run steps').map Prod.fst = (s.run steps).map Prod.fst ∧
      (s.run steps').map (fun r => r.2.map Report.main) =
        (s.run steps).map (fun r => r.2.map Report.main) := by
  induction h generalizing s with
  | nil => exact ⟨rfl, rfl⟩
  | @cons st st' steps steps' hst _ ih =>
    obtain ⟨registration, handling, rfl⟩ := hst
    have hmain : ((s.step st).2.map (Report.rebook registration handling)).map Report.main =
        (s.step st).2.map Report.main := by
      rw [Option.map_map]
      exact congrArg (Option.map · _) (funext fun _ => Report.main_rebook)
    obtain ⟨hstates, hreports⟩ := ih (s := (s.step st).1)
    simp only [run, step_rebook, List.map_cons, hstates, hreports, hmain, and_self]

theorem isTrueTo_run (s : State) (steps : List Step) :
    List.Forall₂ (fun st r => ∀ report ∈ r.2, Report.IsTrueTo st report) steps (s.run steps) := by
  induction steps generalizing s with
  | nil => exact .nil
  | cons st steps ih => exact .cons (fun _ h => isTrueTo_step s st h) (ih _)

end State

/-- **Bookkeeping never surfaces.** Two runs take the same steps from the same state, under
whatever policy, and nothing differs but what becomes of the registrations and whether anybody
waits for them. Then after every step they are in the same state, with the same calls made, the
same fragments shown, all operations in the same phases and the same invocations waiting. They
report the same operations as ended, in the same phases, shown or not, with a registration or
without. What they say of the registrations is true: of one that is waited for, that it did not
end well exactly if it died. -/
theorem bookkeeping_never_surfaces (s : State) {steps steps' : List Step}
    (hsame : List.Forall₂ Step.SameButRegistration steps steps') :
    (s.run steps').map Prod.fst = (s.run steps).map Prod.fst ∧
      (s.run steps').map (fun r => r.2.map Report.main) =
        (s.run steps).map (fun r => r.2.map Report.main) ∧
      List.Forall₂ (fun st r => ∀ report ∈ r.2, Report.IsTrueTo st report) steps (s.run steps) ∧
      List.Forall₂ (fun st r => ∀ report ∈ r.2, Report.IsTrueTo st report) steps'
        (s.run steps') := by
  obtain ⟨hstates, hreports⟩ := State.run_sameButRegistration hsame
  exact ⟨hstates, hreports, s.isTrueTo_run steps, s.isTrueTo_run steps'⟩

/-- A registration that dies while somebody waits for it, against one that takes too long while
nobody does: an analysis that is under way ends in the same state. -/
theorem bookkeeping_never_surfaces_died :
    let s := State.init .latestInvocation (some ⟨⟨"a@x.com", by decide, by decide⟩⟩)
    let steps (registration : Registration) (handling : Handling) : List Step :=
      [.start "a" .analyze ⟨"x"⟩,
        .run "b" .compile ⟨"x"⟩ { Answers.standard with register := registration } handling,
        .resolve "a" .standard .awaited]
    let died := steps .died .awaited
    let late := steps (.answered (.error (.timeout "late"))) .dropped
    List.Forall₂ Step.SameButRegistration died late ∧
      (s.run late).map Prod.fst = (s.run died).map Prod.fst ∧
      (s.run died).map Prod.snd = [none, some ⟨.compile, .succeeded, true, .finished false⟩,
        some ⟨.analyze, .succeeded, false, .absent⟩] ∧
      (s.run late).map Prod.snd = [none, some ⟨.compile, .succeeded, true, .dropped⟩,
        some ⟨.analyze, .succeeded, false, .absent⟩] := by
  intro s steps died late
  have hsame : List.Forall₂ Step.SameButRegistration died late :=
    .cons ⟨.died, .awaited, rfl⟩ (.cons ⟨.answered (.error (.timeout "late")), .dropped, rfl⟩
      (.cons ⟨.answered (.ok ()), .awaited, rfl⟩ .nil))
  exact ⟨hsame, (bookkeeping_never_surfaces s hsame).1, rfl, rfl⟩

end Workbench.Workflow
