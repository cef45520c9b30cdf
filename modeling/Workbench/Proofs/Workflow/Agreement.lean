import Workbench.Proofs.Workflow.History

/-!
# The desk and the history

A desk keeps tickets and phases, a history keeps invocations. This module relates the two: along
every run, under either policy, the tickets that a desk has drawn are the numbers of the
invocations in the history, and what waits at the desk is what waits in the history
(`Agrees.after`). What a step does at the desk can then be read off the history: the desk takes
in the news that the history has in this step (`Agrees.desk_step`), and it reports the invocation
that ends in it (`Agrees.report_step`).

A run is a start and an answer in one step, so an invariant that starts and answers keep is kept
by runs as well (`lockstep_step`).

Tickets are numbers without bound here. `Agrees.latest` says how many are drawn, one for each
start, so that a counter of 64 bits does the same in every run with fewer than `2 ^ 64` starts.
-/

namespace Workbench.Workflow

open Workbench.Markup (Fragment)

/-! ### What the desk does -/

namespace Board

variable (policy : Policy) (b : Board) (op o : Operation) (ticket : Nat) (p : Phase)

@[simp] theorem latest_draw : (b.draw op).latest = b.latest + 1 := rfl

theorem ticket_draw :
    ((b.draw op).slot o).ticket = if o = op then b.latest + 1 else (b.slot o).ticket := by
  simp only [draw, change]
  split <;> rfl

@[simp] theorem latest_note : (b.note policy op ticket p).latest = b.latest := by
  unfold note
  split <;> rfl

@[simp] theorem ticket_note :
    ((b.note policy op ticket p).slot o).ticket = (b.slot o).ticket := by
  unfold note change
  split
  · simp only
    split <;> rfl
  · rfl

end Board

namespace Desk

/-- The desk after a ticket was drawn. -/
def draw (d : Desk) (op : Operation) : Desk := { d with board := d.board.draw op }

/-- The desk when an invocation has just drawn its ticket and settled: it always may. -/
theorem settle_draw (d : Desk) (op : Operation) (phase : Phase) (fragment : Fragment) :
    (d.draw op).settle op (d.board.latest + 1) phase fragment =
      ({ d with
          board := (d.board.draw op).change op fun s => { s with phase := phase }
          shown := d.shown ++ [fragment] }, true) := by
  have hregion : (d.board.draw op).ownsRegion d.policy (d.board.latest + 1) = true := by
    simp [Board.ownsRegion, Board.draw, Board.change]
  have hslot : (d.board.draw op).ownsSlot d.policy op (d.board.latest + 1) = true := by
    simp [Board.ownsSlot, Board.draw, Board.change]
  simp only [settle, draw, hregion, Board.note, hslot, if_true]

variable (d : Desk) {op : Operation} {stored : Except StoreError (Option Session)}
  {code : Submission}

theorem start_of_error {message : String} (hg : gate op stored code = .error message) :
    d.start op stored code =
      (((d.draw op).settle op (d.board.latest + 1) .failed (Display.failure message)).1,
        .rejected ⟨op, .failed, true, .absent⟩) := by
  have hstart : d.start op stored code =
      (((d.draw op).settle op (d.board.latest + 1) .failed (Display.failure message)).1,
        .rejected ⟨op, .failed, ((d.draw op).settle op (d.board.latest + 1) .failed
          (Display.failure message)).2, .absent⟩) := by
    simp only [start, hg]
    rfl
  rw [hstart, settle_draw]

theorem start_of_ok {session : Session} (hg : gate op stored code = .ok session) :
    d.start op stored code =
      (((d.draw op).settle op (d.board.latest + 1) .pending (Display.pending op)).1.call
        (.ofOperation op session.user code),
        .waiting ⟨op, d.board.latest + 1, session.user, code⟩) := by
  simp only [start, hg]
  rfl

end Desk

namespace State

variable {s : State} {op : Operation} {code : Submission}

theorem step_start_of_error {message : String} (hg : gate op s.store.get code = .error message)
    (name : String) :
    s.step (.start name op code) =
      ({ s with desk := ((s.desk.draw op).settle op (s.desk.board.latest + 1) .failed
          (Display.failure message)).1 }, some ⟨op, .failed, true, .absent⟩) := by
  simp only [step, start, Desk.start_of_error _ hg]

theorem step_start_of_ok {session : Session} (hg : gate op s.store.get code = .ok session)
    (name : String) :
    s.step (.start name op code) =
      ({ s with
          desk := ((s.desk.draw op).settle op (s.desk.board.latest + 1) .pending
            (Display.pending op)).1.call (.ofOperation op session.user code)
          waiting := s.without name ++
            [(name, ⟨op, s.desk.board.latest + 1, session.user, code⟩)] }, none) := by
  simp only [step, start, Desk.start_of_ok _ hg]

/-- An operation that is turned away has no answer to wait for. -/
theorem step_run_of_error {message : String} (hg : gate op s.store.get code = .error message)
    (name : String) (answers : Answers) (handling : Handling) :
    s.step (.run name op code answers handling) = s.step (.start name op code) := by
  simp only [step, start, Desk.start_of_error _ hg]

/-- An operation that is run is started, and answered then. -/
theorem step_run_of_ok {session : Session} (hg : gate op s.store.get code = .ok session)
    (name : String) (answers : Answers) (handling : Handling) :
    s.step (.run name op code answers handling) =
      (s.step (.start name op code)).1.step (.resolve name answers handling) := by
  simp only [step, start, Desk.start_of_ok _ hg]

theorem after_append (s : State) (steps : List Step) (st : Step) :
    s.after (steps ++ [st]) = ((s.after steps).step st).1 := by
  simp only [after, List.foldl_append, List.foldl_cons, List.foldl_nil]

end State

/-! ### Taking in the news of an invocation -/

/-- The call that news of an invocation brings with it. -/
def Invocation.call? (i : Invocation) : Option Call :=
  match i.fate with
  | .admitted _ (.answered _) => i.registration?
  | _ => i.beginning.request?

/-- Where an invocation stands in the list of those that wait at the desk. -/
def Invocation.asWaiting? (i : Invocation) : Option (String × Waiting) :=
  match i.fate with
  | .admitted session .waiting => some (i.name, ⟨i.operation, i.number, session.user, i.code⟩)
  | _ => none

/-- The desk after news of an invocation: it is settled, and the call is made. -/
def Desk.take (d : Desk) (i : Invocation) : Desk :=
  { (d.settle i.operation i.number i.phase i.fragment).1 with
    calls := d.calls ++ i.call?.toList }

namespace Invocation

variable {i : Invocation} {name : String} {progress : Operation → Progress}

theorem any_asWaiting? : (i.asWaiting?.any fun e => e.1 == name) = i.waitsAs name := by
  unfold asWaiting? waitsAs
  cases i.fate with
  | refused message => rfl
  | admitted session progress => cases progress <;> rfl

/-- Only those that wait under the name leave the list. -/
theorem asWaiting?_advance (hp : ∀ op, progress op ≠ .waiting) :
    (i.advance name progress).asWaiting? = i.asWaiting?.filter fun e => e.1 != name := by
  cases hw : i.waitsAs name with
  | true =>
    obtain ⟨hn, session, hf⟩ := waitsAs_iff.mp hw
    rw [advance_of_waitsAs hf hn]
    have hopt : i.asWaiting? = some (i.name, ⟨i.operation, i.number, session.user, i.code⟩) := by
      simp only [asWaiting?, hf]
    rw [hopt, Option.filter_some, if_neg (by simp [hn])]
    unfold asWaiting?
    split
    next hf' => exact absurd (Fate.admitted.inj hf').2 (hp _)
    next => rfl
  | false =>
    rw [advance_of_not_waitsAs hw]
    rw [← any_asWaiting?] at hw
    cases he : i.asWaiting? with
    | none => rfl
    | some e =>
      rw [he, Option.any_some] at hw
      rw [Option.filter_some, if_pos (by simp [bne, hw])]

end Invocation

namespace Desk

@[simp] theorem latest_take (d : Desk) (i : Invocation) :
    (d.take i).board.latest = d.board.latest := Board.latest_note ..

@[simp] theorem ticket_take (d : Desk) (i : Invocation) (op : Operation) :
    ((d.take i).board.slot op).ticket = (d.board.slot op).ticket := Board.ticket_note ..

theorem take_opened_of_error {h : History} {op : Operation} {code : Submission} {message : String}
    (hg : gate op h.store.get code = .error message) (d : Desk) (name : String)
    (progress : Progress) :
    d.take (h.opened name op code progress) =
      (d.settle op (h.invocations.length + 1) .failed (Display.failure message)).1 := by
  simp only [take, History.opened, hg, Invocation.call?, Invocation.phase, Invocation.fragment,
    Invocation.beginning, Beginning.request?, Option.toList_none, List.append_nil]
  rfl

theorem take_opened_of_ok {h : History} {op : Operation} {code : Submission} {session : Session}
    (hg : gate op h.store.get code = .ok session) (d : Desk) (name : String) :
    d.take (h.opened name op code .waiting) =
      (d.settle op (h.invocations.length + 1) .pending (Display.pending op)).1.call
        (.ofOperation op session.user code) := by
  simp only [take, History.opened, hg, Invocation.call?, Invocation.phase, Invocation.fragment,
    Invocation.beginning, Beginning.request?, Option.toList_some]
  rfl

/-- An answer is news of the invocation that waited for it. -/
theorem finish_eq (d : Desk) (i : Invocation) (session : Session) (answers : Answers)
    (handling : Handling) :
    d.finish ⟨i.operation, i.number, session.user, i.code⟩ answers handling =
      (d.take { i with fate := .admitted session (.answered (answers.reply i.operation)) },
        { operation := i.operation
          phase := phaseOf (answers.reply i.operation)
          isShown := d.board.ownsRegion d.policy i.number
          bookkeeping :=
            if isValid (answers.reply i.operation) then bookkeepingOf handling answers.register
            else .absent }) := by
  cases hv : isValid (answers.reply i.operation) <;>
    simp only [finish, take, Invocation.call?, Invocation.registration?, Invocation.phase,
      Invocation.fragment, hv, settle, call, if_true, Bool.false_eq_true, if_false,
      Option.toList_some, Option.toList_none, List.append_nil]

end Desk

/-! ### In lockstep -/

/-- What starts, answers and the steps beside them keep of a history and a state is kept by every
step: to run an operation is to start it, and to answer it if it is let in. -/
theorem lockstep_step {P : History → State → Prop}
    (store : ∀ {h s}, P h s → s.store = h.store)
    (start : ∀ {h s}, P h s → ∀ name op code,
      P (h.step (.start name op code)) (s.step (.start name op code)).1)
    (resolve : ∀ {h s}, P h s → ∀ name answers handling,
      P (h.step (.resolve name answers handling)) (s.step (.resolve name answers handling)).1)
    (cancel : ∀ {h s}, P h s → ∀ name, P (h.step (.cancel name)) (s.step (.cancel name)).1)
    (session : ∀ {h s}, P h s → ∀ session,
      P (h.step (.session session)) (s.step (.session session)).1)
    (fault : ∀ {h s}, P h s → ∀ e, P (h.step (.fault e)) (s.step (.fault e)).1)
    {h : History} {s : State} (hP : P h s) (st : Step) : P (h.step st) (s.step st).1 := by
  cases st with
  | start name op code => exact start hP name op code
  | resolve name answers handling => exact resolve hP name answers handling
  | run name op code answers handling =>
    cases hg : gate op h.store.get code with
    | error message =>
      rw [(History.step_run_of_error hg ..).1, State.step_run_of_error (by rwa [store hP])]
      exact start hP name op code
    | ok session =>
      rw [(History.step_run_of_ok hg ..).1, State.step_run_of_ok (by rwa [store hP])]
      exact resolve (start hP name op code) name answers handling
  | cancel name => exact cancel hP name
  | session value => exact session hP value
  | fault e => exact fault hP e

/-- What every step keeps of a history and a state is true after every run. -/
theorem lockstep_after {P : History → State → Prop} {policy : Policy} {session : Option Session}
    (init : P (.init session) (.init policy session))
    (step : ∀ {h s}, P h s → ∀ st, P (h.step st) (s.step st).1) (steps : List Step) :
    P ((History.init session).after steps) ((State.init policy session).after steps) := by
  induction steps using List.reverseRecOn with
  | nil => exact init
  | append_singleton steps st ih =>
    rw [History.after_append, State.after_append]
    exact step ih st

/-! ### Agreement -/

/-- A desk and a history that tell of the same run. -/
structure Agrees (h : History) (s : State) : Prop where
  /-- The history is one. -/
  inv : h.Inv
  /-- No invocation changes the store. -/
  store : s.store = h.store
  /-- A ticket is drawn for each invocation. -/
  latest : s.desk.board.latest = h.invocations.length
  /-- The ticket of an operation is the number of its last invocation. -/
  ticket : ∀ op, (s.desk.board.slot op).ticket = ((h.mostRecentOf? op).map (·.number)).getD 0
  /-- The same invocations wait. -/
  waiting : s.waiting = h.invocations.filterMap Invocation.asWaiting?

namespace Agrees

variable {h : History} {s : State}

theorem init (policy : Policy) (session : Option Session) :
    Agrees (.init session) (.init policy session) where
  inv := .init session
  store := rfl
  latest := rfl
  ticket := fun _ => rfl
  waiting := rfl

theorem without (a : Agrees h s) (name : String) (progress : Operation → Progress)
    (hp : ∀ op, progress op ≠ .waiting) :
    s.without name = (h.advance name progress).invocations.filterMap Invocation.asWaiting? := by
  simp only [State.without, a.waiting, List.filter_filterMap, History.advance, List.filterMap_map,
    Function.comp_def, Invocation.asWaiting?_advance hp]

theorem find? (a : Agrees h s) (name : String) :
    s.find? name = (h.waiting? name).bind fun i => i.asWaiting?.map (·.2) := by
  simp only [State.find?, a.waiting, List.find?_filterMap, Invocation.any_asWaiting?, History.waiting?]
  cases h.invocations.find? (·.waitsAs name) <;> rfl

/-- What waits under a name at the desk waits under it in the history. -/
theorem find?_of_waiting? (a : Agrees h s) {name : String} {i : Invocation}
    (hw : h.waiting? name = some i) :
    ∃ session, i.fate = .admitted session .waiting ∧ i.name = name ∧
      s.find? name = some ⟨i.operation, i.number, session.user, i.code⟩ := by
  obtain ⟨hn, session, hf⟩ := Invocation.waitsAs_iff.mp (History.waiting?_spec hw).2
  refine ⟨session, hf, hn, ?_⟩
  simp only [a.find?, hw, Option.bind_some, Invocation.asWaiting?, hf, Option.map_some]

/-- The answer that a step brings is taken in like any other news. -/
theorem step_resolve (a : Agrees h s) {name : String} {i : Invocation}
    (hw : h.waiting? name = some i) (answers : Answers) (handling : Handling) :
    s.step (.resolve name answers handling) =
      ({ s with
          desk := s.desk.take (i.advance name fun op => .answered (answers.reply op))
          waiting := s.without name },
        some { operation := i.operation
               phase := phaseOf (answers.reply i.operation)
               isShown := s.desk.board.ownsRegion s.desk.policy i.number
               bookkeeping :=
                if isValid (answers.reply i.operation) then bookkeepingOf handling answers.register
                else .absent }) := by
  obtain ⟨session, hf, hn, hfind⟩ := a.find?_of_waiting? hw
  simp only [State.step, State.resolve, hfind, Desk.finish_eq s.desk i session,
    Invocation.advance_of_waitsAs hf hn]

/-- Without an invocation of that name nothing happens. -/
theorem step_resolve_of_none (a : Agrees h s) {name : String} (hw : h.waiting? name = none)
    (answers : Answers) (handling : Handling) :
    s.step (.resolve name answers handling) = (s, none) ∧
      h.step (.resolve name answers handling) = h := by
  have hfind : s.find? name = none := by simp only [a.find?, hw, Option.bind_none]
  refine ⟨by simp only [State.step, State.resolve, hfind], ?_⟩
  have hnone : ∀ i ∈ h.invocations, i.waitsAs name = false := by
    simpa [History.waiting?] using hw
  have hmap : h.invocations.map (Invocation.advance name fun op => .answered (answers.reply op)) =
      h.invocations :=
    (List.map_congr_left fun i hi => Invocation.advance_of_not_waitsAs (hnone i hi)).trans
      (List.map_id' _)
  simp only [History.step, History.advance, hmap]

/-- What is started is news, whether it is let in or not. -/
theorem step_start (a : Agrees h s) (name : String) (op : Operation) (code : Submission) :
    s.step (.start name op code) =
      ({ s with
          desk := (s.desk.draw op).take (h.opened name op code .waiting)
          waiting := (h.start name op code .waiting).invocations.filterMap Invocation.asWaiting? },
        match gate op h.store.get code with
        | .error _ => some ⟨op, .failed, true, .absent⟩
        | .ok _ => none) := by
  have hstore := congrArg (fun m => gate op (Session.Memory.get m) code) a.store
  cases hg : gate op h.store.get code with
  | error message =>
    rw [State.step_start_of_error (hstore.trans hg), Desk.take_opened_of_error hg, a.latest]
    have hlist : (h.opened name op code .waiting).asWaiting? = none := by
      simp only [Invocation.asWaiting?, History.opened, hg]
    simp only [History.start, hg, List.filterMap_append, ← a.waiting, List.filterMap_cons, hlist,
      List.filterMap_nil, List.append_nil]
  | ok session =>
    rw [State.step_start_of_ok (hstore.trans hg), Desk.take_opened_of_ok hg, a.latest,
      a.without name (fun _ => .abandoned) fun _ h => by cases h]
    have hlist : (h.opened name op code .waiting).asWaiting? =
        some (name, ⟨op, h.invocations.length + 1, session.user, code⟩) := by
      simp only [Invocation.asWaiting?, History.opened, hg]
    simp only [History.start, hg, List.filterMap_append, List.filterMap_cons, hlist,
      List.filterMap_nil]

/-- An answer changes no ticket. -/
theorem advance (a : Agrees h s) {name : String} {progress : Operation → Progress} {desk : Desk}
    (hl : desk.board.latest = s.desk.board.latest)
    (ht : ∀ op, (desk.board.slot op).ticket = (s.desk.board.slot op).ticket)
    (hp : ∀ op, progress op ≠ .waiting) :
    Agrees (h.advance name progress)
      { s with desk := desk, waiting := s.without name } where
  inv := a.inv.advance name progress
  store := a.store
  latest := by simp only [hl, a.latest, History.advance, List.length_map]
  ticket := by
    intro op
    rw [ht, a.ticket, History.mostRecentOf?_advance]
    cases h.mostRecentOf? op <;> simp
  waiting := a.without name progress hp

/-- A start draws the next ticket. -/
theorem start (a : Agrees h s) (name : String) (op : Operation) (code : Submission) :
    Agrees (h.step (.start name op code)) (s.step (.start name op code)).1 := by
  rw [a.step_start]
  refine ⟨a.inv.step _, a.store, ?_, ?_, rfl⟩
  · have hlen : (h.start name op code .waiting).invocations.length =
        h.invocations.length + 1 := by
      cases hg : gate op h.store.get code <;> simp [History.start, hg, History.advance]
    rw [Desk.latest_take, History.step, hlen, ← a.latest]
    rfl
  · intro o
    rw [Desk.ticket_take, History.step]
    change ((s.desk.board.draw op).slot o).ticket = _
    rw [Board.ticket_draw]
    split
    next ho => rw [ho, History.mostRecentOf?_start, a.latest]; rfl
    next ho =>
      rw [a.ticket, History.mostRecentOf?_start_of_ne Invocation.number
        (Invocation.number_advance name _) ho]

theorem resolve (a : Agrees h s) (name : String) (answers : Answers) (handling : Handling) :
    Agrees (h.step (.resolve name answers handling))
      (s.step (.resolve name answers handling)).1 := by
  cases hw : h.waiting? name with
  | none =>
    obtain ⟨hs, hh⟩ := a.step_resolve_of_none hw answers handling
    rwa [hs, hh]
  | some i =>
    rw [a.step_resolve hw]
    exact a.advance (Desk.latest_take ..) (Desk.ticket_take _ _) fun _ => nofun

/-- Desk and history agree after every step. -/
theorem step (a : Agrees h s) (st : Step) : Agrees (h.step st) (s.step st).1 := by
  refine lockstep_step store start resolve ?_ ?_ ?_ a st
  · intro h s a name
    exact a.advance rfl (fun _ => rfl) fun _ => nofun
  · intro h s a session
    refine ⟨a.inv.step _, ?_, a.latest, a.ticket, a.waiting⟩
    simp only [State.step, History.step, a.store]
  · intro h s a e
    refine ⟨a.inv.step _, ?_, a.latest, a.ticket, a.waiting⟩
    simp only [State.step, History.step, a.store]

/-- Desk and history agree along every run. -/
theorem after (policy : Policy) (session : Option Session) (steps : List Step) :
    Agrees ((History.init session).after steps) ((State.init policy session).after steps) :=
  lockstep_after (init policy session) step steps

end Agrees

/-! ### What a step does, read off the history -/

/-- The desk once a step has drawn its ticket, if it starts an operation. -/
def Desk.drawFor (d : Desk) (st : Step) : Desk :=
  match st.start? with
  | some (op, _) => d.draw op
  | none => d

/-- What is reported of the registration, if the answer in a step brings one. -/
def Step.bookkeeping : Step → Bookkeeping
  | .resolve _ answers handling => bookkeepingOf handling answers.register
  | .run _ _ _ answers handling => bookkeepingOf handling answers.register
  | _ => .absent

/-- What is reported of an invocation that has come to its end. -/
def Invocation.report (i : Invocation) (isShown : Bool) (st : Step) : Report where
  operation := i.operation
  phase := i.phase
  isShown := isShown
  bookkeeping := if i.registration?.isSome then st.bookkeeping else .absent

namespace History

variable {h : History} {name : String} {op : Operation} {code : Submission}

theorem length_start (h : History) (name : String) (op : Operation) (code : Submission)
    (progress : Progress) :
    (h.start name op code progress).invocations.length = h.invocations.length + 1 := by
  simpa using congrArg List.length (beginnings_start h name op code progress)

theorem ended?_start_of_error {message : String} (hg : gate op h.store.get code = .error message)
    (name : String) :
    h.ended? (.start name op code) = some (h.opened name op code .waiting) := by
  simp [ended?, news, opened, hg, Invocation.isOver]

theorem ended?_start_of_ok {session : Session} (hg : gate op h.store.get code = .ok session)
    (name : String) : h.ended? (.start name op code) = none := by
  simp [ended?, news, opened, hg, Invocation.isOver]

theorem ended?_resolve_of_some {i : Invocation} (hw : h.waiting? name = some i) (answers : Answers)
    (handling : Handling) :
    h.ended? (.resolve name answers handling) =
      some (i.advance name fun op => .answered (answers.reply op)) := by
  obtain ⟨hn, session, hf⟩ := Invocation.waitsAs_iff.mp (waiting?_spec hw).2
  simp [ended?, news, hw, Invocation.advance_of_waitsAs hf hn, Invocation.isOver]

theorem ended?_resolve_of_none (hw : h.waiting? name = none) (answers : Answers)
    (handling : Handling) : h.ended? (.resolve name answers handling) = none := by
  simp [ended?, news, hw]

theorem ended?_run_of_error {message : String} (hg : gate op h.store.get code = .error message)
    (name : String) (answers : Answers) (handling : Handling) :
    h.ended? (.run name op code answers handling) = some (h.opened name op code .waiting) := by
  rw [ended?, (step_run_of_error hg name answers handling).2]
  exact ended?_start_of_error hg name

/-- An operation that is let in and answered at once ends with its answer. -/
theorem ended?_run_of_ok {session : Session} (hg : gate op h.store.get code = .ok session)
    (name : String) (answers : Answers) (handling : Handling) :
    h.ended? (.run name op code answers handling) =
      (h.step (.start name op code)).ended? (.resolve name answers handling) := by
  have hstart := ended?_start_of_ok hg name
  rw [ended?, (step_run_of_ok hg name answers handling).2, List.find?_append]
  rw [ended?] at hstart
  rw [hstart, Option.none_or]
  rfl

/-- An invocation that ends in the step that starts it is the last one then. -/
theorem number_of_ended?_of_start {st : Step} {i : Invocation} {start : Operation × Submission}
    (hst : st.start? = some start) (hi : h.ended? st = some i) :
    i.number = (h.step st).invocations.length := by
  have hmem := List.mem_of_find?_eq_some hi
  cases st with
  | start name op code =>
    rw [step, length_start]
    simp only [news, List.mem_singleton] at hmem
    rw [hmem]
    rfl
  | run name op code answers handling =>
    rw [step, length_start]
    cases hg : gate op h.store.get code <;>
      simp only [news, hg, List.mem_cons, List.not_mem_nil, or_false] at hmem
    · rw [hmem]
      rfl
    · rcases hmem with rfl | rfl <;> rfl
  | resolve | cancel | session | fault => cases hst

/-- Nobody has a number that was not given yet. -/
theorem number_of_ended?_le (hinv : h.Inv) {st : Step} {i : Invocation}
    (hi : h.ended? st = some i) : i.number ≤ (h.step st).invocations.length := by
  cases st with
  | start name op code => exact Nat.le_of_eq (number_of_ended?_of_start rfl hi)
  | run name op code answers handling => exact Nat.le_of_eq (number_of_ended?_of_start rfl hi)
  | resolve name answers handling =>
    cases hw : h.waiting? name with
    | none => rw [ended?_resolve_of_none hw] at hi; cases hi
    | some j =>
      rw [ended?_resolve_of_some hw] at hi
      obtain rfl := Option.some.inj hi
      rw [Invocation.number_advance, step, advance, List.length_map]
      exact hinv.number_le (waiting?_spec hw).1
  | cancel | session | fault => cases hi

/-- Nothing is registered of an operation that was turned away. -/
theorem report_opened_of_error {message : String}
    (hg : gate op h.store.get code = .error message) (name : String) (progress : Progress)
    (isShown : Bool) (st : Step) :
    (h.opened name op code progress).report isShown st = ⟨op, .failed, isShown, .absent⟩ := by
  simp [opened, hg, Invocation.report, Invocation.registration?, Invocation.phase]

end History

namespace Agrees

variable {h : History} {s : State}

/-- **The desk takes in the news.** -/
theorem desk_step (a : Agrees h s) (st : Step) :
    (s.step st).1.desk = (h.news st).foldl Desk.take (s.desk.drawFor st) := by
  have hstart : ∀ name op code, (s.step (.start name op code)).1.desk =
      (h.news (.start name op code)).foldl Desk.take (s.desk.drawFor (.start name op code)) := by
    intro name op code
    rw [a.step_start]
    rfl
  have hresolve : ∀ {h s}, Agrees h s → ∀ name answers handling,
      (s.step (.resolve name answers handling)).1.desk =
        (h.news (.resolve name answers handling)).foldl Desk.take s.desk := by
    intro h s a name answers handling
    cases hw : h.waiting? name with
    | none =>
      rw [(a.step_resolve_of_none hw answers handling).1, History.news, hw]
      rfl
    | some i =>
      rw [a.step_resolve hw, History.news, hw]
      rfl
  cases st with
  | start name op code => exact hstart name op code
  | resolve name answers handling => exact hresolve a name answers handling
  | run name op code answers handling =>
    cases hg : gate op h.store.get code with
    | error message =>
      rw [State.step_run_of_error (by rwa [a.store]), (History.step_run_of_error hg ..).2]
      exact hstart name op code
    | ok session =>
      rw [State.step_run_of_ok (by rwa [a.store]), (History.step_run_of_ok hg ..).2,
        hresolve (a.start name op code), List.foldl_append, hstart]
      rfl
  | cancel name => rfl
  | session session => rfl
  | fault e => rfl

theorem policy_step (a : Agrees h s) (st : Step) :
    (s.step st).1.desk.policy = s.desk.policy := by
  have htake : ∀ (l : List Invocation) (d : Desk), (l.foldl Desk.take d).policy = d.policy := by
    intro l
    induction l with
    | nil => exact fun _ => rfl
    | cons i l ih => exact fun d => ih (d.take i)
  rw [a.desk_step, htake]
  unfold Desk.drawFor
  split <;> rfl

/-- **The report is that of the invocation that ends**, and says that its end was shown if
nothing was started after it, or if everything is shown. -/
theorem report_step (a : Agrees h s) (st : Step) :
    (s.step st).2 = (h.ended? st).map fun i =>
      i.report (s.desk.policy == .lastArrival ||
        i.number == (h.step st).invocations.length) st := by
  have hresolve : ∀ {h s}, Agrees h s → ∀ name answers handling,
      (s.step (.resolve name answers handling)).2 =
        (h.ended? (.resolve name answers handling)).map fun i =>
          i.report (s.desk.policy == .lastArrival ||
            i.number == (h.step (.resolve name answers handling)).invocations.length)
            (.resolve name answers handling) := by
    intro h s a name answers handling
    cases hw : h.waiting? name with
    | none =>
      rw [(a.step_resolve_of_none hw answers handling).1, History.ended?_resolve_of_none hw]
      rfl
    | some i =>
      obtain ⟨hn, session, hf⟩ := Invocation.waitsAs_iff.mp (History.waiting?_spec hw).2
      rw [a.step_resolve hw, History.ended?_resolve_of_some hw,
        Invocation.advance_of_waitsAs hf hn]
      cases hv : isValid (answers.reply i.operation) <;>
        simp [Invocation.report, Invocation.registration?, Invocation.phase, hv, Step.bookkeeping,
          Board.ownsRegion, a.latest, History.step, History.advance]
  cases st with
  | start name op code =>
    rw [a.step_start]
    cases hg : gate op h.store.get code with
    | error message =>
      rw [History.ended?_start_of_error hg, History.step, History.length_start, Option.map_some,
        History.report_opened_of_error hg]
      simp [History.opened]
    | ok session => rw [History.ended?_start_of_ok hg]; rfl
  | resolve name answers handling => exact hresolve a name answers handling
  | run name op code answers handling =>
    cases hg : gate op h.store.get code with
    | error message =>
      rw [State.step_run_of_error (by rwa [a.store]), a.step_start, hg,
        History.ended?_run_of_error hg, History.step, History.length_start, Option.map_some,
        History.report_opened_of_error hg]
      simp [History.opened]
    | ok session =>
      rw [State.step_run_of_ok (by rwa [a.store]), hresolve (a.start name op code),
        History.ended?_run_of_ok hg, (History.step_run_of_ok hg ..).1, a.policy_step]
      rfl
  | cancel name => rfl
  | session session => rfl
  | fault e => rfl

end Agrees

end Workbench.Workflow
