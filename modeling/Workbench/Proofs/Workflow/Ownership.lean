import Workbench.Proofs.Workflow.Agreement
import Workbench.Workflow.Script

/-!
# The invocation started last

Under the policy of the latest invocation two comparisons of tickets decide what an invocation
may do: one with the last ticket of all, for the region that all operations share, and one with
the last ticket of its operation, for the phase. This module proves what they achieve along every
run, however the answers cross:

* `region_shows_most_recent` — the region shows the invocation that was started last, of whatever
  operation, and an answer is shown exactly if nothing was started since its operation was.
* `phase_of_most_recent` — the phase of an operation is that of its own last invocation, whoever
  owns the region meanwhile.

Both follow from one invariant, `Owned`, which starts and answers keep.
-/

namespace Workbench.Workflow

open Workbench.Markup (Fragment)

/-! ### What news does to the region and to the phases -/

namespace Desk

variable {d : Desk} {i : Invocation}

theorem shown_take_of_owns (h : d.board.ownsRegion d.policy i.number) :
    (d.take i).shown = d.shown ++ [i.fragment] := by
  simp only [take, settle, h, if_true]

theorem shown_take_of_not_owns (h : d.board.ownsRegion d.policy i.number = false) :
    (d.take i).shown = d.shown := by
  simp only [take, settle, h, Bool.false_eq_true, if_false]

theorem phase_take_of_owns (h : d.board.ownsSlot d.policy i.operation i.number) :
    (d.take i).board.phase i.operation = i.phase := by
  simp only [take, settle, Board.note, h, if_true, Board.phase, Board.change]

theorem phase_take_of_not_owns (h : d.board.ownsSlot d.policy i.operation i.number = false)
    (op : Operation) : (d.take i).board.phase op = d.board.phase op := by
  simp only [take, settle, Board.note, h, Bool.false_eq_true, if_false]

theorem phase_take_of_ne {op : Operation} (h : op ≠ i.operation) :
    (d.take i).board.phase op = d.board.phase op := by
  simp only [take, settle, Board.note]
  split
  · simp only [Board.phase, Board.change, h, if_false]
  · rfl

end Desk

theorem Board.ownsRegion_latest (b : Board) (ticket : Nat) :
    b.ownsRegion .latestInvocation ticket = (ticket == b.latest) := by
  simp [Board.ownsRegion]

theorem Board.ownsSlot_latest (b : Board) (op : Operation) (ticket : Nat) :
    b.ownsSlot .latestInvocation op ticket = ((b.slot op).ticket == ticket) := by
  simp [Board.ownsSlot]

/-! ### The invariant -/

/-- What is true of region and phases along a run, by the history alone. -/
structure Owned (h : History) (s : State) : Prop where
  /-- Desk and history tell of the same run. -/
  agrees : Agrees h s
  /-- The policy is that of the latest invocation. -/
  policy : s.desk.policy = .latestInvocation
  /-- The region shows the invocation that was started last. -/
  region : s.desk.shown.getLast? = h.mostRecent?.map Invocation.fragment
  /-- An operation has come as far as its last invocation. -/
  phase : ∀ op, s.desk.board.phase op = ((h.mostRecentOf? op).map Invocation.phase).getD .idle

namespace Owned

variable {h : History} {s : State}

theorem init (session : Option Session) :
    Owned (.init session) (.init .latestInvocation session) where
  agrees := .init _ _
  policy := rfl
  region := rfl
  phase := fun _ => rfl

/-- A new invocation owns the region and the phase of its operation, and no other phase
changes. -/
theorem start (o : Owned h s) (name : String) (op : Operation) (code : Submission) :
    Owned (h.step (.start name op code)) (s.step (.start name op code)).1 := by
  have hregion : (s.desk.draw op).board.ownsRegion (s.desk.draw op).policy
      (h.opened name op code .waiting).number := by
    simp [Board.ownsRegion, Desk.draw, History.opened, o.agrees.latest]
  have hslot : (s.desk.draw op).board.ownsSlot (s.desk.draw op).policy op
      (h.opened name op code .waiting).number := by
    simp [Board.ownsSlot, Desk.draw, Board.ticket_draw, History.opened, o.agrees.latest]
  refine ⟨o.agrees.step _, (o.agrees.policy_step _).trans o.policy, ?_, ?_⟩
  · rw [o.agrees.desk_step, History.step, History.mostRecent?_start]
    change ((s.desk.draw op).take (h.opened name op code .waiting)).shown.getLast? = _
    rw [Desk.shown_take_of_owns hregion, List.getLast?_concat]
    rfl
  · intro other
    rw [o.agrees.desk_step, History.step]
    change ((s.desk.draw op).take (h.opened name op code .waiting)).board.phase other = _
    by_cases ho : other = op
    · subst ho
      rw [History.mostRecentOf?_start]
      exact Desk.phase_take_of_owns hslot
    · rw [Desk.phase_take_of_ne ho, History.mostRecentOf?_start_of_ne Invocation.phase
        (fun _ => Invocation.phase_abandon) ho, ← o.phase]
      simp only [Desk.draw, Board.draw, Board.phase, Board.change, if_neg ho]

/-- The region after an answer. -/
theorem region_resolve (o : Owned h s) {name : String} {i : Invocation}
    (hw : h.waiting? name = some i) (progress : Operation → Progress) :
    (s.desk.take (i.advance name progress)).shown.getLast? =
      (h.advance name progress).mostRecent?.map Invocation.fragment := by
  obtain ⟨hmi, -⟩ := History.waiting?_spec hw
  obtain ⟨j, hj⟩ : ∃ j, h.mostRecent? = some j :=
    Option.isSome_iff_exists.mp (List.getLast?_isSome.mpr (List.ne_nil_of_mem hmi))
  have hlast : j.number = s.desk.board.latest :=
    (o.agrees.inv.number_mostRecent hj).trans o.agrees.latest.symm
  have hown : s.desk.board.ownsRegion s.desk.policy (i.advance name progress).number =
      (i.number == j.number) := by
    rw [o.policy, Board.ownsRegion_latest, Invocation.number_advance, hlast]
  rw [History.mostRecent?_advance, hj, Option.map_some, Option.map_some,
    o.agrees.inv.advance_of_waiting? hw (List.mem_of_getLast? hj)]
  by_cases hn : j.number = i.number
  · rw [Desk.shown_take_of_owns (by simpa [hn] using hown), List.getLast?_concat, if_pos hn]
  · rw [Desk.shown_take_of_not_owns (hown.trans (by simpa using Ne.symm hn)), o.region, hj, if_neg hn]
    rfl

/-- The phases after an answer. -/
theorem phase_resolve (o : Owned h s) {name : String} {i : Invocation}
    (hw : h.waiting? name = some i) (progress : Operation → Progress) (op : Operation) :
    (s.desk.take (i.advance name progress)).board.phase op =
      (((h.advance name progress).mostRecentOf? op).map Invocation.phase).getD .idle := by
  obtain ⟨hmi, -⟩ := History.waiting?_spec hw
  rw [History.mostRecentOf?_advance]
  cases hj : h.mostRecentOf? op with
  | none =>
    have hop : op ≠ (i.advance name progress).operation := by
      rintro rfl
      rw [History.mostRecentOf?, List.getLast?_eq_none_iff, List.filter_eq_nil_iff] at hj
      simpa using hj i hmi
    rw [Desk.phase_take_of_ne hop, o.phase, hj]
    rfl
  | some j =>
    obtain ⟨hmj, hopj⟩ := List.mem_filter.mp (List.mem_of_getLast? hj)
    simp only [decide_eq_true_eq] at hopj
    have hphase : s.desk.board.phase op = j.phase := by rw [o.phase, hj]; rfl
    have hticket : (s.desk.board.slot op).ticket = j.number := by rw [o.agrees.ticket, hj]; rfl
    rw [Option.map_some, Option.map_some, Option.getD_some,
      o.agrees.inv.advance_of_waiting? hw hmj]
    by_cases hn : j.number = i.number
    · -- the operation's last invocation is the one that is answered
      obtain rfl := o.agrees.inv.eq_of_number_eq hmj hmi hn
      rw [if_pos rfl, ← hopj, ← Invocation.operation_advance name progress j]
      refine Desk.phase_take_of_owns ?_
      rw [o.policy, Board.ownsSlot_latest, Invocation.operation_advance, hopj, hticket,
        Invocation.number_advance]
      exact beq_self_eq_true _
    · rw [if_neg hn, ← hphase]
      by_cases hop : op = i.operation
      · -- a later invocation of the same operation has taken the phase over
        refine Desk.phase_take_of_not_owns ?_ op
        rw [o.policy, Board.ownsSlot_latest, Invocation.operation_advance, ← hop, hticket,
          Invocation.number_advance]
        exact beq_eq_false_iff_ne.mpr hn
      · exact Desk.phase_take_of_ne (by rwa [Invocation.operation_advance])

/-- An answer is taken in as region and phase expect it. -/
theorem resolve (o : Owned h s) (name : String) (answers : Answers) (handling : Handling) :
    Owned (h.step (.resolve name answers handling))
      (s.step (.resolve name answers handling)).1 := by
  cases hw : h.waiting? name with
  | none =>
    obtain ⟨hs, hh⟩ := o.agrees.step_resolve_of_none hw answers handling
    rwa [hs, hh]
  | some i =>
    refine ⟨o.agrees.step _, (o.agrees.policy_step _).trans o.policy, ?_, ?_⟩
    · rw [o.agrees.step_resolve hw]
      exact o.region_resolve hw _
    · rw [o.agrees.step_resolve hw]
      exact o.phase_resolve hw _

/-- Region and phases are as expected after every step. -/
theorem step (o : Owned h s) (st : Step) : Owned (h.step st) (s.step st).1 := by
  refine lockstep_step (fun o => o.agrees.store) start resolve ?_ ?_ ?_ o st
  · intro h s o name
    refine ⟨o.agrees.step _, o.policy, ?_, fun op => ?_⟩
    · rw [History.step, History.mostRecent?_advance, Option.map_map]
      simp only [Function.comp_def, Invocation.fragment_abandon]
      exact o.region
    · rw [History.step, History.mostRecentOf?_advance, Option.map_map]
      simp only [Function.comp_def, Invocation.phase_abandon]
      exact o.phase op
  · intro h s o session
    exact ⟨o.agrees.step _, o.policy, o.region, o.phase⟩
  · intro h s o e
    exact ⟨o.agrees.step _, o.policy, o.region, o.phase⟩

/-- Region and phases are as expected along every run. -/
theorem after (session : Option Session) (steps : List Step) :
    Owned ((History.init session).after steps)
      ((State.init .latestInvocation session).after steps) :=
  lockstep_after (init session) step steps

end Owned

namespace Owned

variable {h : History} {s : State}

/-- What is reported under this policy. -/
theorem report_step (o : Owned h s) (st : Step) :
    (s.step st).2 = (h.ended? st).map fun i =>
      i.report (i.number == (h.step st).invocations.length) st := by
  rw [o.agrees.report_step, o.policy]
  rfl

/-- An end that came too late is not shown. -/
theorem shown_step_of_late (o : Owned h s) {st : Step} {i : Invocation}
    (hi : h.ended? st = some i) (hn : i.number ≠ (h.step st).invocations.length) :
    (s.step st).1.desk.shown = s.desk.shown := by
  cases st with
  | start name op code => exact absurd (History.number_of_ended?_of_start rfl hi) hn
  | run name op code answers handling =>
    exact absurd (History.number_of_ended?_of_start rfl hi) hn
  | resolve name answers handling =>
    cases hw : h.waiting? name with
    | none => rw [History.ended?_resolve_of_none hw] at hi; cases hi
    | some j =>
      rw [History.ended?_resolve_of_some hw] at hi
      obtain rfl := Option.some.inj hi
      rw [o.agrees.step_resolve hw]
      refine Desk.shown_take_of_not_owns ?_
      rw [o.policy, Board.ownsRegion_latest, o.agrees.latest]
      rw [History.step, History.advance, List.length_map] at hn
      exact beq_eq_false_iff_ne.mpr hn
  | cancel | session | fault => cases hi

end Owned

/-! ### The two theorems -/

/-- **The region shows the invocation that was started last**: why it was turned away, that it is
under way, or its answer. An invocation that comes to its end is reported as shown exactly if no
invocation was started after it, and otherwise its end adds nothing to what is shown. -/
theorem region_shows_most_recent (session : Option Session) (steps : List Step) :
    let h := (History.init session).after steps
    let s := (State.init .latestInvocation session).after steps
    s.desk.shown.getLast? = h.mostRecent?.map Invocation.fragment ∧
      ∀ st report, (s.step st).2 = some report →
        ∃ i, h.ended? st = some i ∧ report.operation = i.operation ∧
          (report.isShown = true ↔ ∀ j ∈ (h.step st).invocations, j.number ≤ i.number) ∧
          (report.isShown = false → (s.step st).1.desk.shown = s.desk.shown) := by
  intro h s
  have o : Owned h s := .after session steps
  refine ⟨o.region, fun st report hr => ?_⟩
  rw [o.report_step] at hr
  obtain ⟨i, hi, rfl⟩ := Option.map_eq_some_iff.mp hr
  refine ⟨i, hi, rfl, ?_, fun hlate => o.shown_step_of_late hi (beq_eq_false_iff_ne.mp hlate)⟩
  rw [← (o.agrees.inv.step st).eq_length_iff (History.number_of_ended?_le o.agrees.inv hi)]
  exact beq_iff_eq

/-- **The phase of an operation is that of its last invocation.** It is idle exactly as long as the
operation was never started. An answer to its last invocation moves it, whoever owns the region
meanwhile; an answer to any other invocation, of this operation or another, leaves it as it is. -/
theorem phase_of_most_recent (session : Option Session) (steps : List Step) (op : Operation) :
    let h := (History.init session).after steps
    let s := (State.init .latestInvocation session).after steps
    (s.desk.board.phase op = .idle ↔ ∀ st ∈ steps, st.start?.map (·.1) ≠ some op) ∧
      (∀ j, h.mostRecentOf? op = some j → s.desk.board.phase op = j.phase) ∧
      ∀ name answers handling i, h.waiting? name = some i →
        let s' := (s.step (.resolve name answers handling)).1
        (h.mostRecentOf? op = some i → s'.desk.board.phase op = phaseOf (answers.reply op)) ∧
          (h.mostRecentOf? op ≠ some i → s'.desk.board.phase op = s.desk.board.phase op) := by
  intro h s
  have o : Owned h s := .after session steps
  refine ⟨?_, fun j hj => by rw [o.phase, hj]; rfl, fun name answers handling i hw => ?_⟩
  · rw [← History.mostRecentOf?_eq_none_iff session, o.phase]
    change _ ↔ h.mostRecentOf? op = none
    cases hj : h.mostRecentOf? op with
    | none => simp
    | some j => simpa using j.phase_ne_idle
  · obtain ⟨hmi, hwi⟩ := History.waiting?_spec hw
    have hphase := (o.step (.resolve name answers handling)).phase op
    rw [History.step, History.mostRecentOf?_advance] at hphase
    constructor
    · intro hj
      rw [hphase, hj, Option.map_some, Option.map_some, Option.getD_some,
        Invocation.phase_answer hwi]
      have hop := (List.mem_filter.mp (List.mem_of_getLast? hj)).2
      simp only [decide_eq_true_eq] at hop
      rw [hop]
    · intro hne
      rw [hphase, o.phase]
      cases hj : h.mostRecentOf? op with
      | none => rfl
      | some j =>
        have hmj := (List.mem_filter.mp (List.mem_of_getLast? hj)).1
        have hn : j.number ≠ i.number := fun hn =>
          hne (hj.trans (congrArg some (o.agrees.inv.eq_of_number_eq hmj hmi hn)))
        rw [Option.map_some, o.agrees.inv.advance_of_waiting? hw hmj, if_neg hn]

/-- A late answer is no longer shown, but its operation has come to its end. -/
example (session : Session) :
    let s := (State.init .latestInvocation (some session)).after
      [.start "a" .compile ⟨"x"⟩, .start "b" .analyze ⟨"x"⟩, .resolve "a" .standard .awaited]
    s.desk.shown = [Display.pending .compile, Display.pending .analyze] ∧
      s.desk.board.phase .compile = .succeeded ∧ s.desk.board.phase .analyze = .pending :=
  ⟨rfl, rfl, rfl⟩

end Workbench.Workflow
