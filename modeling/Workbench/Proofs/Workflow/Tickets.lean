import Workbench.Proofs.Workflow.Agreement
import Workbench.Workflow.Script

/-!
# Tickets, and what they are good for

Each invocation draws a ticket, and all that a desk knows of the order of its invocations is in the
tickets on its board. This module keeps the books that the desk does not keep: which tickets were
drawn, for which operation, and which operation has shown which fragment. Drawing a ticket and
settling an invocation keep the board in line with the books.

* `Ledger.draw`, `Ledger.note` — the tickets on the board are the last ones in the ledger.
* `Ledger.ownsSlot` — whoever may write to the region speaks for its operation as well.
* `Region.settles` — settling keeps the region in line with the phase of whoever wrote to it last,
  be it to begin, to turn away or to finish.
* `desk_in_order` — so a desk is in order after every run, and whenever a ticket was just drawn.

A start draws its ticket and settles in one go here: nobody else draws a ticket in between. Tickets
are numbers without bound; `Desk.InOrder.latest` says how many are needed.
-/

namespace Workbench.Workflow

open Workbench.Markup (Fragment)

/-! ### The tickets that were drawn -/

/-- The tickets that were drawn so far, each with the operation that it was drawn for, and a board
that tells of them. -/
structure Ledger (issued : List (Operation × Nat)) (b : Board) : Prop where
  /-- The board knows how many there are. -/
  latest : b.latest = issued.length
  /-- They are numbered from one, without gaps. -/
  numbers : issued.map Prod.snd = List.range' 1 issued.length
  /-- The ticket of an operation is the last one that was drawn for it. -/
  ticket : ∀ op, (b.slot op).ticket = ((issued.filter (·.1 = op)).getLast?.map Prod.snd).getD 0

namespace Ledger

variable {issued : List (Operation × Nat)} {b : Board} {op o : Operation} {t : Nat}

theorem empty : Ledger [] .empty := ⟨rfl, rfl, fun _ => rfl⟩

/-- One more ticket is drawn. -/
theorem draw (l : Ledger issued b) (op : Operation) :
    Ledger (issued ++ [(op, b.latest + 1)]) (b.draw op) where
  latest := by
    rw [Board.latest_draw, l.latest, List.length_append, List.length_singleton]
  numbers := by
    simp only [List.map_append, List.map_cons, List.map_nil, l.numbers, l.latest,
      List.length_append, List.length_singleton, List.range'_concat, Nat.one_mul, Nat.add_comm 1]
  ticket := by
    intro o
    rw [Board.ticket_draw, List.filter_append, List.getLast?_append]
    by_cases ho : o = op
    · subst ho
      simp
    · have hnot : [(op, b.latest + 1)].filter (·.1 = o) = [] := by simpa using Ne.symm ho
      rw [if_neg ho, l.ticket, hnot]
      rfl

/-- Settling an invocation draws no ticket. -/
theorem note (l : Ledger issued b) (policy : Policy) (op : Operation) (t : Nat) (p : Phase) :
    Ledger issued (b.note policy op t p) where
  latest := by rw [Board.latest_note, l.latest]
  numbers := l.numbers
  ticket := by
    intro o
    rw [Board.ticket_note, l.ticket]

theorem nodup (l : Ledger issued b) : (issued.map Prod.snd).Nodup := by
  rw [l.numbers]
  exact List.nodup_range'

theorem bounds (l : Ledger issued b) (h : (op, t) ∈ issued) : 1 ≤ t ∧ t ≤ b.latest := by
  have ht : t ∈ issued.map Prod.snd := List.mem_map_of_mem h
  rw [l.numbers, List.mem_range'_1] at ht
  rw [l.latest]
  omega

/-- A ticket was drawn for one operation only. -/
theorem eq_of_mem (l : Ledger issued b) (h : (op, t) ∈ issued) (h' : (o, t) ∈ issued) : op = o :=
  congrArg Prod.fst (List.inj_on_of_nodup_map l.nodup h h' rfl)

/-- The ticket of an operation that has one was drawn for it. -/
theorem mem_of_ticket_ne_zero (l : Ledger issued b) (h : (b.slot op).ticket ≠ 0) :
    (op, (b.slot op).ticket) ∈ issued := by
  rw [l.ticket] at h ⊢
  cases hlast : (issued.filter (·.1 = op)).getLast? with
  | none =>
    rw [hlast] at h
    exact absurd rfl h
  | some e =>
    obtain ⟨hmem, hop⟩ := List.mem_filter.mp (List.mem_of_getLast? hlast)
    rw [decide_eq_true_eq] at hop
    rw [← hop]
    exact hmem

/-- No two operations have the same ticket. -/
theorem apart (l : Ledger issued b) (hne : op ≠ o) (h : (b.slot op).ticket ≠ 0) :
    (b.slot op).ticket ≠ (b.slot o).ticket := by
  intro hsame
  have hop := l.mem_of_ticket_ne_zero h
  have ho := l.mem_of_ticket_ne_zero (hsame ▸ h)
  rw [hsame] at hop
  exact hne (l.eq_of_mem hop ho)

/-- The last ticket of all is the last one of the operation that it was drawn for. -/
theorem ticket_of_latest (l : Ledger issued b) (h : (op, b.latest) ∈ issued) :
    (b.slot op).ticket = b.latest := by
  obtain ⟨before, ⟨o, t⟩, rfl⟩ := (List.eq_nil_or_concat' issued).resolve_left (List.ne_nil_of_mem h)
  have hlength : b.latest = before.length + 1 := by simpa using l.latest
  have hlast : t = before.length + 1 := by
    simpa [List.getLast?_range'] using congrArg List.getLast? l.numbers
  obtain rfl : t = b.latest := by omega
  obtain rfl : op = o := l.eq_of_mem h (List.mem_append_right _ (List.mem_singleton.mpr rfl))
  rw [l.ticket, List.filter_append, List.getLast?_append]
  simp

/-- Whoever may write to the region speaks for its operation as well. -/
theorem ownsSlot (l : Ledger issued b) (policy : Policy) (hmem : (op, t) ∈ issued)
    (h : b.ownsRegion policy t = true) : b.ownsSlot policy op t = true := by
  cases policy with
  | lastArrival => rfl
  | latestInvocation =>
    have ht : t = b.latest := by simpa [Board.ownsRegion] using h
    subst ht
    simpa [Board.ownsSlot] using l.ticket_of_latest hmem

end Ledger

/-! ### What a fragment says of its operation -/

/-- How far an operation has come whose fragment is shown. -/
def phaseShown (op : Operation) (f : Fragment) : Phase :=
  if f = Display.pending op then .pending
  else if f.style = .success then .succeeded
  else .failed

theorem phaseShown_pending (op : Operation) : phaseShown op (Display.pending op) = .pending :=
  if_pos rfl

theorem phaseShown_of_success {f : Fragment} (h : f.style = .success) (op : Operation) :
    phaseShown op f = .succeeded := by
  have hne : f ≠ Display.pending op := by
    rintro rfl
    cases h
  rw [phaseShown, if_neg hne, if_pos h]

theorem phaseShown_failure (op : Operation) (message : String) :
    phaseShown op (Display.failure message) = .failed := by
  have hne : Display.failure message ≠ Display.pending op := by
    intro h
    cases congrArg Fragment.style h
  rw [phaseShown, if_neg hne, if_neg nofun]

/-- Diagnostics have no style either, but they start with a tag. -/
theorem phaseShown_invalid (op : Operation) (diagnostics : List Diagnostic)
    (stats : Option Stats) :
    phaseShown op (Display.compiled (.invalid diagnostics stats)) = .failed := by
  have hpending : (Display.pending op).markup.toList.head? ≠ some '<' := by
    cases op <;> decide +kernel
  have hne : Display.compiled (.invalid diagnostics stats) ≠ Display.pending op := by
    intro h
    apply hpending
    rw [← h]
    simp [Display.compiled, Fragment.ofPieces, Markup.write, Markup.element, Markup.Piece.write]
  rw [phaseShown, if_neg hne, if_neg nofun]

/-- An answer is shown as what it is. -/
theorem phaseShown_fragmentOf (op : Operation) (reply : Except GatewayError Outcome) :
    phaseShown op (fragmentOf reply) = phaseOf reply := by
  match reply with
  | .error e => exact phaseShown_failure op e.message
  | .ok (.compile .valid) | .ok (.analyze (.success _)) | .ok (.optimize (.success _ _)) =>
    exact phaseShown_of_success rfl op
  | .ok (.compile (.invalid diagnostics stats)) => exact phaseShown_invalid op diagnostics stats
  | .ok (.analyze (.failure reason)) | .ok (.optimize (.failure reason)) =>
    exact phaseShown_failure op reason

/-! ### Settling -/

/-- What an invocation adds to what is shown: its fragment, if it may write to the region. -/
def Desk.written (d : Desk) (t : Nat) (f : Fragment) : List Fragment :=
  if d.board.ownsRegion d.policy t then [f] else []

/-- From one desk to the next: an invocation was settled, with a fragment and the phase that goes
with it. Be it to begin, to turn away or to finish, it is the same. -/
structure Desk.Settles (d : Desk) (op : Operation) (t : Nat) (f : Fragment) (d' : Desk) : Prop where
  /-- The phase is noted. -/
  board : d'.board = d.board.note d.policy op t (phaseShown op f)
  /-- The fragment is shown. -/
  shown : d'.shown = d.shown ++ d.written t f
  /-- The policy stays. -/
  policy : d'.policy = d.policy

theorem Desk.settles_settle (d : Desk) (t : Nat) {op : Operation} {p : Phase} {f : Fragment}
    (hp : phaseShown op f = p) : d.Settles op t f (d.settle op t p f).1 := by
  subst hp
  refine ⟨rfl, ?_, rfl⟩
  unfold settle written
  dsimp only
  split <;> simp

theorem Desk.Settles.call {d d' : Desk} {op : Operation} {t : Nat} {f : Fragment}
    (h : d.Settles op t f d') (c : Call) : d.Settles op t f (d'.call c) :=
  ⟨h.board, h.shown, h.policy⟩

/-- A ticket that is drawn says nothing of how far its operation has come. -/
theorem Board.phase_draw (b : Board) (op o : Operation) : (b.draw op).phase o = b.phase o := by
  simp only [draw, phase, change]
  split <;> rfl

theorem Board.phase_note (policy : Policy) (b : Board) (op o : Operation) (t : Nat) (p : Phase) :
    (b.note policy op t p).phase o =
      if b.ownsSlot policy op t = true ∧ o = op then p else b.phase o := by
  unfold note change
  split
  next hslot =>
    simp only [Board.phase, hslot, true_and]
    split <;> rfl
  next hslot => rw [if_neg (fun h => hslot h.1)]

/-! ### The region -/

/-- The fragments that were shown so far, each with the operation that has shown it, are those of a
desk, and the last one of them says how far its operation has come. -/
structure Region (rendered : List (Operation × Fragment)) (d : Desk) : Prop where
  /-- Nothing else was shown. -/
  shown : rendered.map Prod.snd = d.shown
  /-- What is shown now is how it is. -/
  phase : ∀ op f, rendered.getLast? = some (op, f) → d.board.phase op = phaseShown op f

/-- No ticket was drawn after that of the operation that has shown the last fragment. Because of
this nobody settles the operation behind the back of the region; where everything is shown nobody
can anyway. -/
def Held (rendered : List (Operation × Fragment)) (d : Desk) : Prop :=
  d.policy = .latestInvocation → ∀ op f, rendered.getLast? = some (op, f) →
    (d.board.slot op).ticket = d.board.latest

namespace Region

variable {issued : List (Operation × Nat)} {rendered : List (Operation × Fragment)} {d d' : Desk}
  {op : Operation} {t : Nat} {f : Fragment}

theorem draw (r : Region rendered d) (op : Operation) : Region rendered (d.draw op) := by
  refine ⟨r.shown, ?_⟩
  intro o f hlast
  show (d.board.draw op).phase o = phaseShown o f
  rw [Board.phase_draw, r.phase o f hlast]

/-- An invocation was settled that may write to the region: it speaks for its operation too. -/
theorem settles_of_owns (r : Region rendered d) (l : Ledger issued d.board)
    (hmem : (op, t) ∈ issued) (howns : d.board.ownsRegion d.policy t = true)
    (h : d.Settles op t f d') :
    Region (rendered ++ [(op, f)]) d' ∧ Held (rendered ++ [(op, f)]) d' := by
  refine ⟨⟨?_, ?_⟩, ?_⟩
  · rw [h.shown, Desk.written, if_pos howns, List.map_append, r.shown]
    rfl
  · intro o g hlast
    simp only [List.getLast?_concat, Option.some.injEq, Prod.mk.injEq] at hlast
    obtain ⟨rfl, rfl⟩ := hlast
    rw [h.board, Board.phase_note, if_pos ⟨l.ownsSlot _ hmem howns, rfl⟩]
  · intro hpolicy o g hlast
    simp only [List.getLast?_concat, Option.some.injEq, Prod.mk.injEq] at hlast
    obtain ⟨rfl, rfl⟩ := hlast
    rw [h.policy] at hpolicy
    obtain rfl : t = d.board.latest := by simpa [Board.ownsRegion, hpolicy] using howns
    rw [h.board, Board.ticket_note, Board.latest_note, l.ticket_of_latest hmem]

/-- An invocation was settled that may not: it does not speak for the operation either that has
shown the last fragment. -/
theorem settles_of_not_owns (r : Region rendered d) (hheld : Held rendered d)
    (howns : d.board.ownsRegion d.policy t = false) (h : d.Settles op t f d') :
    Region rendered d' ∧ Held rendered d' := by
  have hpolicy : d.policy = .latestInvocation := by
    cases hpolicy : d.policy with
    | lastArrival =>
      rw [hpolicy] at howns
      cases howns
    | latestInvocation => rfl
  have ht : t ≠ d.board.latest := by simpa [Board.ownsRegion, hpolicy] using howns
  refine ⟨⟨?_, ?_⟩, ?_⟩
  · rw [h.shown, Desk.written, howns, if_neg Bool.false_ne_true, List.append_nil, r.shown]
  · intro o g hlast
    have hnot : ¬(d.board.ownsSlot d.policy op t = true ∧ o = op) := by
      rintro ⟨hslot, rfl⟩
      have hticket : (d.board.slot o).ticket = t := by simpa [Board.ownsSlot, hpolicy] using hslot
      exact ht (hticket.symm.trans (hheld hpolicy o g hlast))
    rw [h.board, Board.phase_note, if_neg hnot, r.phase o g hlast]
  · intro _ o g hlast
    rw [h.board, Board.ticket_note, Board.latest_note]
    exact hheld hpolicy o g hlast

/-- Settling keeps the region in line with the phase of the operation that it shows. -/
theorem settles (r : Region rendered d) (l : Ledger issued d.board) (hmem : (op, t) ∈ issued)
    (hheld : t = d.board.latest ∨ Held rendered d) (h : d.Settles op t f d') :
    Region (rendered ++ (d.written t f).map (op, ·)) d' ∧
      Held (rendered ++ (d.written t f).map (op, ·)) d' := by
  cases howns : d.board.ownsRegion d.policy t with
  | true =>
    rw [Desk.written, if_pos howns]
    exact r.settles_of_owns l hmem howns h
  | false =>
    have hbefore : Held rendered d := by
      refine hheld.resolve_left ?_
      rintro rfl
      simp [Board.ownsRegion] at howns
    rw [Desk.written, howns, if_neg Bool.false_ne_true, List.map_nil, List.append_nil]
    exact r.settles_of_not_owns hbefore howns h

end Region

/-! ### The books of a run -/

namespace State

variable {α : Type}

/-- What the steps of a run add to a book, the latest last. -/
def gather (entries : State → Step → List α) (s : State) : List Step → List α
  | [] => []
  | st :: steps => entries s st ++ gather entries (s.step st).1 steps

theorem gather_concat (entries : State → Step → List α) (s : State) (steps : List Step)
    (st : Step) :
    s.gather entries (steps ++ [st]) = s.gather entries steps ++ entries (s.after steps) st := by
  induction steps generalizing s with
  | nil => simp [gather, after]
  | cons first steps ih =>
    rw [List.cons_append, gather, ih, gather, List.append_assoc]
    rfl

/-- The ticket that is drawn in a step, with the operation for which it is drawn. -/
def drawn (s : State) (st : Step) : List (Operation × Nat) :=
  match st.start? with
  | some (op, _) => [(op, (s.desk.board.draw op).latest)]
  | none => []

/-- The operation that a step is about. -/
def subject? (s : State) : Step → Option Operation
  | .start _ op _ | .run _ op _ _ _ => some op
  | .resolve name _ _ => (s.find? name).map (·.operation)
  | .cancel _ | .session _ | .fault _ => none

/-- The fragments that are shown in a step, with the operation that shows them. -/
def displayed (s : State) (st : Step) : List (Operation × Fragment) :=
  match s.subject? st with
  | some op => ((s.step st).1.desk.shown.drop s.desk.shown.length).map (op, ·)
  | none => []

/-- The tickets that are drawn in a run, each with the operation for which it is drawn. -/
def issued (s : State) (steps : List Step) : List (Operation × Nat) := s.gather drawn steps

/-- The fragments that are shown in a run, each with the operation that shows it. -/
def rendered (s : State) (steps : List Step) : List (Operation × Fragment) :=
  s.gather displayed steps

/-- A ticket is drawn for each operation that is started. -/
theorem map_fst_issued (s : State) (steps : List Step) :
    (s.issued steps).map Prod.fst = steps.filterMap (fun st => st.start?.map Prod.fst) := by
  induction steps generalizing s with
  | nil => rfl
  | cons st steps ih =>
    have htail := ih (s.step st).1
    rw [issued] at htail
    rw [issued, gather, List.map_append, htail, List.filterMap_cons, drawn]
    cases st.start? <;> rfl

variable {s : State} {st : Step} {op : Operation} {name : String} {w : Waiting}

theorem displayed_eq {new : List Fragment} (hsubject : s.subject? st = some op)
    (hshown : (s.step st).1.desk.shown = s.desk.shown ++ new) :
    s.displayed st = new.map (op, ·) := by
  rw [displayed, hsubject]
  simp only [hshown, List.drop_left]

/-! ### One step -/

/-- A start draws a ticket and settles its invocation. -/
theorem step_start_settles (s : State) (name : String) (op : Operation) (code : Submission) :
    (∃ f, (s.desk.draw op).Settles op (s.desk.board.latest + 1) f
      (s.step (.start name op code)).1.desk) ∧
      ∀ e ∈ (s.step (.start name op code)).1.waiting,
        e ∈ s.waiting ∨ (e.2.operation, e.2.ticket) = (op, s.desk.board.latest + 1) := by
  cases hg : gate op s.store.get code with
  | error message =>
    rw [step_start_of_error hg]
    exact ⟨⟨_, Desk.settles_settle _ _ (phaseShown_failure op message)⟩, fun e he => .inl he⟩
  | ok session =>
    rw [step_start_of_ok hg]
    refine ⟨⟨_, (Desk.settles_settle _ _ (phaseShown_pending op)).call _⟩, ?_⟩
    intro e he
    rcases List.mem_append.mp he with he | he
    · exact .inl (List.mem_of_mem_filter he)
    · rw [List.mem_singleton.mp he]
      exact .inr rfl

/-- An answer settles the invocation that has waited for it. -/
theorem step_resolve_settles (hw : s.find? name = some w) (answers : Answers)
    (handling : Handling) :
    (∃ f, s.desk.Settles w.operation w.ticket f
      (s.step (.resolve name answers handling)).1.desk) ∧
      (s.step (.resolve name answers handling)).1.waiting = s.without name := by
  have hstep : (s.step (.resolve name answers handling)).1 =
      { s with desk := (s.desk.finish w answers handling).1, waiting := s.without name } := by
    simp only [step, resolve, hw]
  rw [hstep]
  have hsettles := s.desk.settles_settle w.ticket
    (phaseShown_fragmentOf w.operation (answers.reply w.operation))
  refine ⟨⟨fragmentOf (answers.reply w.operation), ?_⟩, rfl⟩
  unfold Desk.finish
  dsimp only
  split
  · exact hsettles.call _
  · exact hsettles

theorem step_resolve_of_none (hw : s.find? name = none) (answers : Answers)
    (handling : Handling) : s.step (.resolve name answers handling) = (s, none) := by
  simp only [step, resolve, hw]

theorem mem_waiting_of_find? (hw : s.find? name = some w) : ∃ e ∈ s.waiting, e.2 = w := by
  obtain ⟨e, he, rfl⟩ := Option.map_eq_some_iff.mp hw
  exact ⟨e, List.mem_of_find?_eq_some he, rfl⟩

/-- An operation that is let in waits under its name. -/
theorem find?_start_of_ok {code : Submission} {session : Session}
    (hg : gate op s.store.get code = .ok session) (name : String) :
    ∃ w, (s.step (.start name op code)).1.find? name = some w ∧ w.operation = op := by
  refine ⟨⟨op, s.desk.board.latest + 1, session.user, code⟩, ?_, rfl⟩
  have hothers : (s.without name).find? (fun e => e.1 == name) = none := by
    simp [without]
  rw [step_start_of_ok hg, find?]
  simp only [List.find?_append, hothers, Option.none_or, List.find?_cons, beq_self_eq_true,
    Option.map_some]

/-- An operation that is run shows what starting it shows, and then what its answer shows. -/
theorem displayed_run_of_ok {code : Submission} {session : Session}
    (hg : gate op s.store.get code = .ok session) (name : String) (answers : Answers)
    (handling : Handling) :
    s.displayed (.run name op code answers handling) =
      s.displayed (.start name op code) ++
        (s.step (.start name op code)).1.displayed (.resolve name answers handling) := by
  obtain ⟨w, hw, rfl⟩ := find?_start_of_ok hg name
  obtain ⟨⟨f, hstart⟩, -⟩ := s.step_start_settles name w.operation code
  obtain ⟨⟨g, hresolve⟩, -⟩ := step_resolve_settles hw answers handling
  have hsubject : (s.step (.start name w.operation code)).1.subject?
      (.resolve name answers handling) = some w.operation := by
    rw [subject?, hw, Option.map_some]
  have hrun : (s.step (.run name w.operation code answers handling)).1.desk.shown =
      s.desk.shown ++ ((s.desk.draw w.operation).written (s.desk.board.latest + 1) f ++
        (s.step (.start name w.operation code)).1.desk.written w.ticket g) := by
    rw [step_run_of_ok hg, hresolve.shown, hstart.shown, List.append_assoc]
    rfl
  rw [displayed_eq rfl hrun, displayed_eq rfl hstart.shown, displayed_eq hsubject hresolve.shown,
    List.map_append]

end State

/-! ### The books are kept -/

/-- A run up to now, by its books and by what it has left. -/
structure Booked (issued : List (Operation × Nat)) (rendered : List (Operation × Fragment))
    (s : State) : Prop where
  /-- The tickets are in the ledger. -/
  ledger : Ledger issued s.desk.board
  /-- The region shows what was shown last. -/
  region : Region rendered s.desk
  /-- And no ticket was drawn since, if that matters. -/
  held : Held rendered s.desk
  /-- Those who wait have drawn their tickets. -/
  waiting : ∀ e ∈ s.waiting, (e.2.operation, e.2.ticket) ∈ issued

namespace Booked

variable {issued : List (Operation × Nat)} {rendered : List (Operation × Fragment)} {s : State}

theorem init (policy : Policy) (session : Option Session) : Booked [] [] (.init policy session) where
  ledger := .empty
  region := by
    refine ⟨rfl, ?_⟩
    intro op f hlast
    cases hlast
  held := by
    intro _ op f hlast
    cases hlast
  waiting := by
    intro e he
    cases he

theorem start (k : Booked issued rendered s) (name : String) (op : Operation) (code : Submission) :
    Booked (issued ++ s.drawn (.start name op code)) (rendered ++ s.displayed (.start name op code))
      (s.step (.start name op code)).1 := by
  obtain ⟨⟨f, hsettles⟩, hwaiting⟩ := s.step_start_settles name op code
  have l : Ledger (issued ++ s.drawn (.start name op code)) (s.desk.draw op).board :=
    k.ledger.draw op
  have hmem : (op, s.desk.board.latest + 1) ∈ issued ++ s.drawn (.start name op code) :=
    List.mem_append_right _ (List.mem_singleton.mpr rfl)
  obtain ⟨r, hheld⟩ := (k.region.draw op).settles l hmem (.inl rfl) hsettles
  rw [State.displayed_eq rfl hsettles.shown]
  refine ⟨?_, r, hheld, ?_⟩
  · rw [hsettles.board]
    exact l.note _ _ _ _
  · intro e he
    rcases hwaiting e he with he | he
    · exact List.mem_append_left _ (k.waiting e he)
    · rw [he]
      exact hmem

theorem resolve (k : Booked issued rendered s) (name : String) (answers : Answers)
    (handling : Handling) :
    Booked issued (rendered ++ s.displayed (.resolve name answers handling))
      (s.step (.resolve name answers handling)).1 := by
  cases hw : s.find? name with
  | none =>
    have hdisplayed : s.displayed (.resolve name answers handling) = [] := by
      simp only [State.displayed, State.subject?, hw, Option.map_none]
    rw [hdisplayed, State.step_resolve_of_none hw, List.append_nil]
    exact k
  | some w =>
    obtain ⟨e, he, rfl⟩ := State.mem_waiting_of_find? hw
    obtain ⟨⟨f, hsettles⟩, hwaiting⟩ := State.step_resolve_settles hw answers handling
    have hsubject : s.subject? (.resolve name answers handling) = some e.2.operation := by
      rw [State.subject?, hw, Option.map_some]
    obtain ⟨r, hheld⟩ := k.region.settles k.ledger (k.waiting e he) (.inr k.held) hsettles
    rw [State.displayed_eq hsubject hsettles.shown]
    refine ⟨?_, r, hheld, ?_⟩
    · rw [hsettles.board]
      exact k.ledger.note _ _ _ _
    · intro e he
      rw [hwaiting] at he
      exact k.waiting e (List.mem_of_mem_filter he)

/-- The books are kept in every step. -/
theorem step (k : Booked issued rendered s) (st : Step) :
    Booked (issued ++ s.drawn st) (rendered ++ s.displayed st) (s.step st).1 := by
  have hnothing {s' : State} (hdesk : s'.desk = s.desk)
      (hwaiting : ∀ e ∈ s'.waiting, e ∈ s.waiting) : Booked (issued ++ []) (rendered ++ []) s' := by
    rw [List.append_nil, List.append_nil]
    refine ⟨?_, ?_, ?_, fun e he => k.waiting e (hwaiting e he)⟩
    all_goals rw [hdesk]
    · exact k.ledger
    · exact k.region
    · exact k.held
  cases st with
  | start name op code => exact k.start name op code
  | resolve name answers handling =>
    have h := k.resolve name answers handling
    rwa [← List.append_nil issued] at h
  | run name op code answers handling =>
    cases hg : gate op s.store.get code with
    | error message =>
      have h := k.start name op code
      rwa [State.displayed, ← State.step_run_of_error hg name answers handling] at h
    | ok session =>
      rw [State.step_run_of_ok hg, State.displayed_run_of_ok hg, ← List.append_assoc]
      exact (k.start name op code).resolve name answers handling
  | cancel name => exact hnothing rfl fun e he => List.mem_of_mem_filter he
  | session session => exact hnothing rfl fun e he => he
  | fault e => exact hnothing rfl fun e he => he

theorem after (policy : Policy) (session : Option Session) (steps : List Step) :
    Booked ((State.init policy session).issued steps) ((State.init policy session).rendered steps)
      ((State.init policy session).after steps) := by
  induction steps using List.reverseRecOn with
  | nil => exact .init policy session
  | append_singleton steps st ih =>
    rw [State.issued, State.rendered, State.gather_concat, State.gather_concat,
      State.after_append]
    exact ih.step st

end Booked

/-! ### A desk in order -/

/-- A desk that is in order, by the tickets that were drawn at it and the fragments that it has
shown. -/
structure Desk.InOrder (d : Desk) (issued : List (Operation × Nat))
    (rendered : List (Operation × Fragment)) : Prop where
  /-- The board knows how many tickets were drawn. -/
  latest : d.board.latest = issued.length
  /-- No ticket was drawn twice. -/
  distinct : (issued.map Prod.snd).Nodup
  /-- Tickets lie between one and the last one. -/
  bounds : ∀ e ∈ issued, 1 ≤ e.2 ∧ e.2 ≤ d.board.latest
  /-- The ticket of an operation is the last one that was drawn for it, zero if there is none. -/
  ticket : ∀ op,
    (d.board.slot op).ticket = ((issued.filter (·.1 = op)).getLast?.map Prod.snd).getD 0
  /-- No two operations have the same ticket, unless they have none. -/
  apart : ∀ op o, op ≠ o → (d.board.slot op).ticket ≠ 0 →
    (d.board.slot op).ticket ≠ (d.board.slot o).ticket
  /-- Under either policy, who may write to the region speaks for its operation as well. -/
  owns : ∀ policy, ∀ e ∈ issued, d.board.ownsRegion policy e.2 = true →
    d.board.ownsSlot policy e.1 e.2 = true
  /-- The fragments were shown by these operations. -/
  shown : rendered.map Prod.snd = d.shown
  /-- The one that is shown now says how far its operation has come. -/
  phase : ∀ op f, rendered.getLast? = some (op, f) → d.board.phase op = phaseShown op f

theorem Desk.inOrder_of_ledger {d : Desk} {issued : List (Operation × Nat)}
    {rendered : List (Operation × Fragment)} (l : Ledger issued d.board) (r : Region rendered d) :
    d.InOrder issued rendered where
  latest := l.latest
  distinct := l.nodup
  bounds := fun _ he => l.bounds he
  ticket := l.ticket
  apart := fun _ _ hne h => l.apart hne h
  owns := fun policy _ he h => l.ownsSlot policy he h
  shown := r.shown
  phase := r.phase

/-- **The desk is in order.** Under either policy and after any run, as many tickets were drawn as
operations were started, one for each in their order, all of them different and between one and the
last one. Each operation has the ticket of its most recent invocation, so that whoever may write to
the region speaks for its operation as well. And the fragment that the region shows is in line with
the phase of the operation that has shown it: it is under way where that is shown, it has succeeded
where the fragment has the style of success, and it has failed otherwise. This is so as well at the
moment when the next ticket was drawn and its invocation is not settled yet. -/
theorem desk_in_order (policy : Policy) (session : Option Session) (steps : List Step) :
    let start := State.init policy session
    let s := start.after steps
    (start.issued steps).map Prod.fst = steps.filterMap (fun st => st.start?.map Prod.fst) ∧
      (∀ e ∈ s.waiting, (e.2.operation, e.2.ticket) ∈ start.issued steps) ∧
      s.desk.InOrder (start.issued steps) (start.rendered steps) ∧
      ∀ op, (s.desk.draw op).InOrder (start.issued steps ++ [(op, s.desk.board.latest + 1)])
        (start.rendered steps) := by
  intro start s
  have k : Booked (start.issued steps) (start.rendered steps) s := .after policy session steps
  refine ⟨start.map_fst_issued steps, k.waiting, ?_, ?_⟩
  · exact Desk.inOrder_of_ledger k.ledger k.region
  · intro op
    exact Desk.inOrder_of_ledger (k.ledger.draw op) (k.region.draw op)

/-- A late answer settles its operation, and the region goes on showing another one. -/
example (session : Session) :
    let steps := [.start "a" .compile ⟨"x"⟩, .start "b" .analyze ⟨"x"⟩,
      .resolve "a" .standard .awaited]
    let start := State.init .latestInvocation (some session)
    start.issued steps = [(.compile, 1), (.analyze, 2)] ∧
      start.rendered steps =
        [(.compile, Display.pending .compile), (.analyze, Display.pending .analyze)] :=
  ⟨rfl, rfl⟩

end Workbench.Workflow
