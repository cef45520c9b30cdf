import Workbench.Proofs.Workflow.Chronicle

/-!
# The two policies side by side

The same steps are taken at two desks, one that shows whatever comes and one that shows only the
invocation started last. The policy decides what is shown and which phases are noted, and nothing
else: both desks make the same calls, have the same invocations waiting and report the same ends.

* `Alike.step` — two desks that have the same past do the same in every step but for what they show.
* `shown_after_of_latestInvocation` — the second desk shows what the first one shows, without the
  answers that came after something newer was started.
* `policies_differ_in_what_is_shown` — this for whole runs; and where every answer is for the
  invocation that was started last, there is no difference at all.
-/

namespace Workbench.Workflow

open Workbench.Markup (Fragment)

/-- What a report says, apart from whether the end was shown. -/
def Report.summary (r : Report) : Operation × Phase × Bookkeeping :=
  (r.operation, r.phase, r.bookkeeping)

/-- What two desks have in common after a step that both have taken. -/
structure SameButShown (r r' : State × Option Report) : Prop where
  /-- The calls so far are the same. -/
  calls : r'.1.desk.calls = r.1.desk.calls
  /-- The same invocations wait. -/
  waiting : r'.1.waiting = r.1.waiting
  /-- The same invocation is reported to have ended, and in the same way. -/
  report : r'.2.map Report.summary = r.2.map Report.summary

/-- Two desks that show the same as well. -/
structure SameAndShown (r r' : State × Option Report) : Prop where
  /-- What was shown so far is the same. -/
  shown : r'.1.desk.shown = r.1.desk.shown
  /-- All operations have come as far. -/
  phase : ∀ op, r'.1.desk.board.phase op = r.1.desk.board.phase op
  /-- The same is reported. -/
  report : r'.2 = r.2

/-! ### The same past -/

/-- Two desks with the same past. -/
structure Alike (h : History) (s t : State) : Prop where
  /-- The first desk agrees with the history. -/
  left : Agrees h s
  /-- So does the second one. -/
  right : Agrees h t
  /-- They have made the same calls. -/
  calls : t.desk.calls = s.desk.calls

namespace Alike

variable {h : History} {s t : State}

theorem init (policy policy' : Policy) (session : Option Session) :
    Alike (.init session) (.init policy session) (.init policy' session) :=
  ⟨.init policy session, .init policy' session, rfl⟩

theorem step (a : Alike h s t) (st : Step) : Alike (h.step st) (s.step st).1 (t.step st).1 := by
  refine ⟨a.left.step st, a.right.step st, ?_⟩
  rw [a.left.desk_step, a.right.desk_step, Desk.calls_foldl_take, Desk.calls_foldl_take,
    Desk.calls_drawFor, Desk.calls_drawFor, a.calls]

/-- They differ at most in what they show of the step. -/
theorem sameButShown (a : Alike h s t) (st : Step) : SameButShown (s.step st) (t.step st) where
  calls := (a.step st).calls
  waiting := (a.step st).right.waiting.trans (a.step st).left.waiting.symm
  report := by
    rw [a.left.report_step, a.right.report_step, Option.map_map, Option.map_map]
    rfl

theorem run (a : Alike h s t) (steps : List Step) :
    List.Forall₂ SameButShown (s.run steps) (t.run steps) := by
  induction steps generalizing h s t with
  | nil => exact .nil
  | cons st steps ih => exact .cons (a.sameButShown st) (ih (a.step st))

end Alike

/-! ### News that come too late -/

namespace History

variable {h : History}

/-- Whether something was started after an invocation. -/
def hasNewer (h : History) (i : Invocation) : Bool :=
  h.invocations.any fun j => i.number < j.number

/-- The chronicle of a run; of all news it is told whether something newer had been started when
they came. -/
def dated (h : History) : List Step → List (Invocation × Bool)
  | [] => []
  | st :: steps => (h.news st).map (fun i => (i, (h.step st).hasNewer i)) ++ (h.step st).dated steps

theorem dated_append (h : History) (steps : List Step) (st : Step) :
    h.dated (steps ++ [st]) = h.dated steps ++
      ((h.after steps).news st).map fun i => (i, ((h.after steps).step st).hasNewer i) := by
  induction steps generalizing h with
  | nil => simp [dated, after]
  | cons st' steps ih =>
    rw [List.cons_append, dated, ih, dated, List.append_assoc]
    rfl

theorem map_fst_dated (h : History) (steps : List Step) :
    (h.dated steps).map Prod.fst = h.chronicle steps := by
  induction steps generalizing h with
  | nil => rfl
  | cons st steps ih =>
    rw [dated, chronicle, List.map_append, ih, List.map_map]
    exact congrArg (· ++ _) (List.map_id _)

/-- The news of a start are about the invocation that is then the last one. -/
theorem mostRecent?_of_start {st : Step} {start : Operation × Submission}
    (hst : st.start? = some start) {i : Invocation} (hi : i ∈ h.news st) :
    ∃ j, (h.step st).mostRecent? = some j ∧ j.number = i.number ∧ j.operation = i.operation := by
  cases st with
  | start name op code =>
    obtain rfl := List.mem_singleton.mp hi
    exact ⟨_, mostRecent?_start .., rfl, rfl⟩
  | run name op code answers handling =>
    refine ⟨_, mostRecent?_start .., ?_⟩
    cases hg : gate op h.store.get code <;>
      simp only [news, hg, List.mem_cons, List.not_mem_nil, or_false] at hi
    · rw [hi]
      exact ⟨rfl, rfl⟩
    · rcases hi with rfl | rfl <;> exact ⟨rfl, rfl⟩
  | resolve | cancel | session | fault => cases hst

/-- The news of an answer are about the invocation that waited for it. -/
theorem mem_news_resolve {name : String} {answers : Answers} {handling : Handling}
    {i : Invocation} (hi : i ∈ h.news (.resolve name answers handling)) :
    ∃ j, h.waiting? name = some j ∧
      i = j.advance name fun op => .answered (answers.reply op) := by
  simp only [news, Option.mem_toList, Option.map_eq_some_iff] at hi
  obtain ⟨j, hw, rfl⟩ := hi
  exact ⟨j, hw, rfl⟩

/-- All news are about invocations that were started. -/
theorem number_of_news_le (hinv : h.Inv) {st : Step} {i : Invocation} (hi : i ∈ h.news st) :
    i.number ≤ (h.step st).invocations.length := by
  have hstart {start : Operation × Submission} (hst : st.start? = some start) :
      i.number ≤ (h.step st).invocations.length := by
    obtain ⟨j, hj, hn, -⟩ := mostRecent?_of_start hst hi
    exact Nat.le_of_eq (hn.symm.trans ((hinv.step st).number_mostRecent hj))
  cases st with
  | start name op code => exact hstart rfl
  | run name op code answers handling => exact hstart rfl
  | resolve name answers handling =>
    obtain ⟨j, hw, rfl⟩ := mem_news_resolve hi
    rw [Invocation.number_advance, step, advance, List.length_map]
    exact hinv.number_le (waiting?_spec hw).1
  | cancel | session | fault => cases hi

/-- Nothing newer was started exactly if the invocation is the last one. -/
theorem hasNewer_eq_false_iff (hinv : h.Inv) {i : Invocation}
    (hi : i.number ≤ h.invocations.length) :
    h.hasNewer i = false ↔ i.number = h.invocations.length := by
  rw [hinv.eq_length_iff hi, hasNewer, List.any_eq_false]
  simp only [decide_eq_true_eq, Nat.not_lt]

/-- Only an answer can come too late. -/
theorem answered_of_hasNewer (hinv : h.Inv) {st : Step} {i : Invocation} (hi : i ∈ h.news st)
    (hlate : (h.step st).hasNewer i) :
    ∃ session reply, i.fate = .admitted session (.answered reply) := by
  have hstart {start : Operation × Submission} (hst : st.start? = some start) : False := by
    obtain ⟨j, hj, hn, -⟩ := mostRecent?_of_start hst hi
    have hlast := hn.symm.trans ((hinv.step st).number_mostRecent hj)
    rw [(hasNewer_eq_false_iff (hinv.step st) (Nat.le_of_eq hlast)).mpr hlast] at hlate
    cases hlate
  cases st with
  | start name op code => exact (hstart rfl).elim
  | run name op code answers handling => exact (hstart rfl).elim
  | resolve name answers handling =>
    obtain ⟨j, hw, rfl⟩ := mem_news_resolve hi
    obtain ⟨hn, session, hf⟩ := Invocation.waitsAs_iff.mp (waiting?_spec hw).2
    exact ⟨session, answers.reply j.operation, by rw [Invocation.advance_of_waitsAs hf hn]⟩
  | cancel | session | fault => cases hi

/-- Nothing comes too late in a run but answers. -/
theorem answered_of_dated (hinv : h.Inv) {steps : List Step} {i : Invocation}
    (hi : (i, true) ∈ h.dated steps) :
    ∃ session reply, i.fate = .admitted session (.answered reply) := by
  induction steps generalizing h with
  | nil => cases hi
  | cons st steps ih =>
    rw [dated, List.mem_append, List.mem_map] at hi
    rcases hi with ⟨j, hj, heq⟩ | hi
    · obtain ⟨rfl, hlate⟩ := Prod.mk.inj heq
      exact answered_of_hasNewer hinv hj hlate
    · exact ih (hinv.step st) hi

end History

/-! ### What the desk shows that shows only the latest -/

namespace Desk

/-- Of the news those are shown that are about the invocation started last. -/
theorem shown_foldl_take_latest {d : Desk} (hd : d.policy = .latestInvocation)
    (news : List Invocation) :
    (news.foldl take d).shown = d.shown ++
      (news.filter fun i => i.number == d.board.latest).map Invocation.fragment := by
  induction news generalizing d with
  | nil => exact (List.append_nil _).symm
  | cons i news ih =>
    have howns : d.board.ownsRegion d.policy i.number = (i.number == d.board.latest) := by
      rw [hd, Board.ownsRegion_latest]
    rw [List.foldl_cons, ih (d := d.take i) hd, latest_take, List.filter_cons]
    split
    next hlast =>
      rw [shown_take_of_owns (howns.trans hlast), List.append_assoc]
      rfl
    next hlate =>
      rw [shown_take_of_not_owns (howns.trans (Bool.eq_false_iff.mpr hlate))]

@[simp] theorem latest_foldl_take (news : List Invocation) (d : Desk) :
    (news.foldl take d).board.latest = d.board.latest := by
  induction news generalizing d with
  | nil => rfl
  | cons i news ih => exact (ih (d.take i)).trans (latest_take d i)

@[simp] theorem ticket_foldl_take (news : List Invocation) (d : Desk) (op : Operation) :
    ((news.foldl take d).board.slot op).ticket = (d.board.slot op).ticket := by
  induction news generalizing d with
  | nil => rfl
  | cons i news ih => exact (ih (d.take i)).trans (ticket_take d i op)

end Desk

/-- The tickets after a step are drawn before its news come. -/
theorem Agrees.latest_drawFor {h : History} {s : State} (a : Agrees h s) (st : Step) :
    (s.desk.drawFor st).board.latest = (h.step st).invocations.length := by
  rw [← (a.step st).latest, a.desk_step, Desk.latest_foldl_take]

theorem shown_step_of_latestInvocation (session : Option Session) (steps : List Step)
    (st : Step) :
    let h := (History.init session).after steps
    let s := (State.init .latestInvocation session).after steps
    (s.step st).1.desk.shown = s.desk.shown ++
      ((h.news st).filter fun i => !(h.step st).hasNewer i).map Invocation.fragment := by
  intro h s
  have a : Agrees h s := .after .latestInvocation session steps
  have hpolicy : (s.desk.drawFor st).policy = .latestInvocation := by
    rw [Desk.policy_drawFor, policy_after]
  rw [a.desk_step, Desk.shown_foldl_take_latest hpolicy, Desk.shown_drawFor, a.latest_drawFor]
  refine congrArg (fun l => s.desk.shown ++ List.map Invocation.fragment l) ?_
  refine List.filter_congr fun i hi => ?_
  have hiff := History.hasNewer_eq_false_iff (a.inv.step st) (History.number_of_news_le a.inv hi)
  rw [Bool.eq_iff_iff, beq_iff_eq, ← hiff, Bool.not_eq_true']

/-- **What is shown under the policy of the latest invocation** are the news that came while
nothing newer had been started. -/
theorem shown_after_of_latestInvocation (session : Option Session) (steps : List Step) :
    ((State.init .latestInvocation session).after steps).desk.shown =
      (((History.init session).dated steps).filter fun e => !e.2).map fun e => e.1.fragment := by
  induction steps using List.reverseRecOn with
  | nil => rfl
  | append_singleton steps st ih =>
    rw [State.after_append, shown_step_of_latestInvocation, ih, History.dated_append,
      List.filter_append, List.map_append, List.filter_map, List.map_map]
    rfl

/-! ### Answers in order -/

/-- Every answer that reaches an invocation reaches the one that was started last. -/
def History.InOrder (h : History) (steps : List Step) : Prop :=
  ∀ before name answers handling rest i,
    steps = before ++ .resolve name answers handling :: rest →
      (h.after before).waiting? name = some i → (h.after before).mostRecent? = some i

namespace History

variable {h : History} {st : Step} {steps : List Step}

theorem InOrder.tail (ho : h.InOrder (st :: steps)) : (h.step st).InOrder steps := by
  intro before name answers handling rest i hsteps hw
  exact ho (st :: before) name answers handling rest i (congrArg (st :: ·) hsteps) hw

/-- Then the news of a step are about the invocation that is the last one after it. -/
theorem InOrder.mostRecent? (ho : h.InOrder (st :: steps)) {i : Invocation} (hi : i ∈ h.news st) :
    ∃ j, (h.step st).mostRecent? = some j ∧ j.number = i.number ∧ j.operation = i.operation := by
  cases st with
  | start name op code => exact mostRecent?_of_start rfl hi
  | run name op code answers handling => exact mostRecent?_of_start rfl hi
  | resolve name answers handling =>
    obtain ⟨j, hw, rfl⟩ := mem_news_resolve hi
    have hj : h.mostRecent? = some j := ho [] name answers handling steps j rfl hw
    exact ⟨_, by rw [step, mostRecent?_advance, hj, Option.map_some], rfl, rfl⟩
  | cancel | session | fault => cases hi

/-- The last invocation of all is the last one of its operation. -/
theorem mostRecentOf?_of_mostRecent? {j : Invocation} (hj : h.mostRecent? = some j) :
    h.mostRecentOf? j.operation = some j := by
  obtain ⟨front, hfront⟩ := List.getLast?_eq_some_iff.mp hj
  rw [mostRecentOf?, hfront, List.filter_append, List.filter_cons_of_pos (by simp),
    List.filter_nil, List.getLast?_concat]

end History

namespace Desk

/-- The desk, were the policy another one. -/
def under (d : Desk) (policy : Policy) : Desk := { d with policy := policy }

theorem drawFor_under (d : Desk) (policy : Policy) (st : Step) :
    (d.under policy).drawFor st = (d.drawFor st).under policy := by
  unfold drawFor
  split <;> rfl

/-- The policy does not matter for an invocation that has the last ticket. -/
theorem take_under {d : Desk} {i : Invocation} (policy : Policy)
    (hlast : i.number = d.board.latest)
    (hslot : (d.board.slot i.operation).ticket = i.number) :
    (d.under policy).take i = (d.take i).under policy := by
  have hregion (p : Policy) : d.board.ownsRegion p i.number = true := by
    simp [Board.ownsRegion, hlast]
  have howns (p : Policy) : d.board.ownsSlot p i.operation i.number = true := by
    simp [Board.ownsSlot, hslot]
  simp only [take, settle, under, Board.note, hregion, howns, if_true]

theorem foldl_take_under {news : List Invocation} {d : Desk} (policy : Policy)
    (hnews : ∀ i ∈ news, i.number = d.board.latest ∧
      (d.board.slot i.operation).ticket = i.number) :
    news.foldl take (d.under policy) = (news.foldl take d).under policy := by
  induction news generalizing d with
  | nil => rfl
  | cons i news ih =>
    obtain ⟨hlast, hslot⟩ := hnews i (.head _)
    rw [List.foldl_cons, List.foldl_cons, take_under policy hlast hslot]
    refine ih fun j hj => ?_
    rw [latest_take, ticket_take]
    exact hnews j (.tail _ hj)

end Desk

/-- Two desks that differ in their policies alone. -/
structure Coincide (h : History) (s t : State) : Prop where
  /-- The first desk agrees with the history. -/
  left : Agrees h s
  /-- So does the second one. -/
  right : Agrees h t
  /-- They differ in their policies alone. -/
  desk : t.desk = s.desk.under .latestInvocation
  /-- The first one shows whatever comes. -/
  policy : s.desk.policy = .lastArrival

namespace Coincide

variable {h : History} {s t : State}

theorem init (session : Option Session) :
    Coincide (.init session) (.init .lastArrival session) (.init .latestInvocation session) :=
  ⟨.init _ session, .init _ session, rfl, rfl⟩

/-- Both desks take in the news of the last invocation alike. -/
theorem step (c : Coincide h s t) {st : Step} {steps : List Step}
    (ho : h.InOrder (st :: steps)) : Coincide (h.step st) (s.step st).1 (t.step st).1 := by
  refine ⟨c.left.step st, c.right.step st, ?_, (c.left.policy_step st).trans c.policy⟩
  rw [c.left.desk_step, c.right.desk_step, c.desk, Desk.drawFor_under]
  refine Desk.foldl_take_under _ fun i hi => ?_
  obtain ⟨j, hj, hnumber, hop⟩ := ho.mostRecent? hi
  have hlast := (c.left.inv.step st).number_mostRecent hj
  have hticket := (c.left.step st).ticket j.operation
  rw [History.mostRecentOf?_of_mostRecent? hj, c.left.desk_step, Desk.ticket_foldl_take] at hticket
  rw [c.left.latest_drawFor, ← hnumber, ← hop]
  exact ⟨hlast, hticket⟩

theorem report (c : Coincide h s t) {st : Step} {steps : List Step}
    (ho : h.InOrder (st :: steps)) : (t.step st).2 = (s.step st).2 := by
  rw [c.left.report_step, c.right.report_step, c.policy, c.desk]
  refine Option.map_congr fun i hi => ?_
  obtain ⟨j, hj, hnumber, -⟩ := ho.mostRecent? (List.mem_of_find?_eq_some hi)
  have hlast := (c.left.inv.step st).number_mostRecent hj
  rw [← hnumber, hlast]
  simp [Desk.under]

theorem run (c : Coincide h s t) {steps : List Step} (ho : h.InOrder steps) :
    List.Forall₂ SameAndShown (s.run steps) (t.run steps) := by
  induction steps generalizing h s t with
  | nil => exact .nil
  | cons st steps ih =>
    have hstep := c.step ho
    refine .cons ⟨?_, fun op => ?_, c.report ho⟩ (ih hstep ho.tail)
    · rw [hstep.desk]
      rfl
    · rw [hstep.desk]
      rfl

end Coincide

/-- **The policies differ in what is shown, and in nothing else.** Two desks that start alike, one
under each policy, make the same calls in every step, have the same invocations waiting, and report
the same invocations to have ended in the same way. The one that shows only the latest invocation
shows what the other one shows, but for the answers to invocations after which something else had
been started when they came. Where every answer is for the invocation that was started last, the
two show the same, note the same phases and report the same in every step. -/
theorem policies_differ_in_what_is_shown (session : Option Session) (steps : List Step) :
    let h := History.init session
    let s := State.init .lastArrival session
    let t := State.init .latestInvocation session
    List.Forall₂ SameButShown (s.run steps) (t.run steps) ∧
      (s.after steps).desk.shown = (h.dated steps).map (fun e => e.1.fragment) ∧
      (t.after steps).desk.shown =
        ((h.dated steps).filter fun e => !e.2).map (fun e => e.1.fragment) ∧
      (∀ i, (i, true) ∈ h.dated steps →
        ∃ session reply, i.fate = .admitted session (.answered reply)) ∧
      (h.InOrder steps → List.Forall₂ SameAndShown (s.run steps) (t.run steps)) := by
  intro h s t
  refine ⟨(Alike.init _ _ session).run steps, ?_, shown_after_of_latestInvocation session steps,
    fun i hi => History.answered_of_dated (.init session) hi, fun ho =>
      (Coincide.init session).run ho⟩
  rw [shown_after_of_lastArrival, ← History.map_fst_dated, List.map_map]
  rfl

end Workbench.Workflow
