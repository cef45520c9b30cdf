import Workbench.Proofs.Workflow.Admission
import Workbench.Workflow.Script

/-!
# The registration of valid code

A compilation that is answered with valid code has a sequel: the code is registered. The answer
may come late, when somebody else is signed in, when nobody cares for the result any more, or with
nobody to wait for the registration; all this must not matter.

* `delivery?` — the compilation to which a step delivers that its code is valid, by the history
  alone.
* `registers_valid_code` — along every run, and under either policy, the registrations are those
  of the deliveries, each with what was fixed when its compilation was started.
-/

namespace Workbench.Workflow

/-! ### Registrations and news -/

namespace Desk

/-- The calls that file valid code. -/
def registrations (d : Desk) : List Call := d.calls.filter Call.isRegistration

theorem calls_foldl_take (news : List Invocation) (d : Desk) :
    (news.foldl take d).calls = d.calls ++ news.filterMap Invocation.call? := by
  induction news generalizing d with
  | nil => simp
  | cons i news ih =>
    rw [List.foldl_cons, ih, take, List.append_assoc]
    cases hc : i.call? <;> simp [hc]

end Desk

namespace Invocation

/-- The call that registers the code of an invocation, for whoever it was let in for. -/
def filing? (i : Invocation) : Option Call :=
  match i.fate with
  | .refused _ => none
  | .admitted session _ => some (.register session.user i.code)

/-- The news of an invocation brings a registration if it is the answer that its code is valid,
and no other. -/
theorem filter_call? (i : Invocation) :
    i.call?.filter Call.isRegistration = i.registration? := by
  unfold call? registration? beginning Beginning.request?
  cases i.fate with
  | refused message => rfl
  | admitted session progress =>
    cases progress with
    | waiting => simp
    | abandoned => simp
    | answered reply => cases hv : isValid reply <;> simp [Call.isRegistration, hv]

end Invocation

/-! ### Answers that find code valid -/

theorem bookkeepingOf_ne_absent (handling : Handling) (register : Registration) :
    bookkeepingOf handling register ≠ .absent := by
  cases handling <;> cases register <;> nofun

/-- Whether the answer to a compilation is that the code is valid. -/
def Answers.findValid (a : Answers) : Bool :=
  match a.check with
  | .ok .valid => true
  | _ => false

/-- The answer to an operation says that code is valid only if it answers a compilation. -/
theorem isValid_reply (answers : Answers) (op : Operation) :
    isValid (answers.reply op) = (op == .compile && answers.findValid) := by
  cases op with
  | compile =>
    cases hc : answers.check with
    | error e => simp [Answers.reply, hc, Except.map, isValid, Answers.findValid]
    | ok o => cases o <;> simp [Answers.reply, hc, Except.map, isValid, Answers.findValid]
  | analyze => cases hc : answers.analyze <;> simp [Answers.reply, hc, Except.map, isValid]
  | optimize => cases hc : answers.optimize <;> simp [Answers.reply, hc, Except.map, isValid]

namespace History

/-- The compilation to which a step delivers the answer that its code is valid: one that waits
under the name, or one that is run while somebody is signed in. -/
def delivery? (h : History) : Step → Option Invocation
  | .resolve name answers _ =>
    (h.waiting? name).filter fun i => i.operation == .compile && answers.findValid
  | .run name op code answers _ =>
    match h.store.get with
    | .ok (some _) =>
      if op == .compile && answers.findValid then some (h.opened name op code .waiting) else none
    | _ => none
  | _ => none

/-- The compilations to which the steps deliver that answer, in their order. -/
def deliveries (h : History) : List Step → List Invocation
  | [] => []
  | st :: steps => (h.delivery? st).toList ++ (h.step st).deliveries steps

theorem deliveries_append (h : History) (steps : List Step) (st : Step) :
    h.deliveries (steps ++ [st]) =
      h.deliveries steps ++ ((h.after steps).delivery? st).toList := by
  induction steps generalizing h with
  | nil => simp [deliveries, after]
  | cons st' steps ih => simp [deliveries, after, ih]

variable {h : History} {op : Operation} {code : Submission}

theorem delivery?_resolve_of_none {name : String} (hw : h.waiting? name = none)
    (answers : Answers) (handling : Handling) :
    h.delivery? (.resolve name answers handling) = none := by
  simp only [delivery?, hw, Option.filter_none]

theorem delivery?_resolve_of_some {name : String} {i : Invocation}
    (hw : h.waiting? name = some i) (answers : Answers) (handling : Handling) :
    h.delivery? (.resolve name answers handling) =
      if isValid (answers.reply i.operation) then some i else none := by
  simp only [delivery?, hw, Option.filter_some, isValid_reply]

theorem delivery?_run_of_error {message : String} (hg : gate op h.store.get code = .error message)
    (name : String) (answers : Answers) (handling : Handling) :
    h.delivery? (.run name op code answers handling) = none := by
  simp only [delivery?]
  split
  next session hs =>
    refine if_neg fun hv => ?_
    simp only [Bool.and_eq_true, beq_iff_eq] at hv
    rw [gate_eq_ok_iff.mpr ⟨hs, .inl hv.1⟩] at hg
    cases hg
  next => rfl

/-- An answer that comes at once is delivered like one that comes later. -/
theorem delivery?_run_of_ok {session : Session} (hg : gate op h.store.get code = .ok session)
    (name : String) (answers : Answers) (handling : Handling) :
    h.delivery? (.run name op code answers handling) =
      (h.step (.start name op code)).delivery? (.resolve name answers handling) := by
  rw [step, delivery?_resolve_of_some (waiting?_start hg name), isValid_reply]
  simp only [delivery?, (gate_eq_ok_iff.mp hg).1]
  rfl

/-- What is delivered to an invocation that waits is registered, and ends it. -/
theorem registration?_advance {name : String} {i : Invocation} (hw : h.waiting? name = some i)
    (answers : Answers) (handling : Handling) :
    (i.advance name fun op => .answered (answers.reply op)).registration? =
      (h.delivery? (.resolve name answers handling)).bind Invocation.filing? := by
  obtain ⟨hn, session, hf⟩ := Invocation.waitsAs_iff.mp (waiting?_spec hw).2
  rw [delivery?_resolve_of_some hw, Invocation.advance_of_waitsAs hf hn]
  simp only [Invocation.registration?]
  split
  · simp only [Option.bind_some, Invocation.filing?, hf]
  · rfl

/-- Nothing is registered when an operation is started. -/
theorem registration?_opened (h : History) (name : String) (op : Operation) (code : Submission) :
    (h.opened name op code .waiting).registration? = none := by
  cases hg : gate op h.store.get code <;> simp [opened, hg, Invocation.registration?]

/-- The news of a step bring one registration if the step delivers that code is valid, and none
otherwise. -/
theorem registrations_news (h : History) (st : Step) :
    (h.news st).filterMap Invocation.registration? =
      ((h.delivery? st).bind Invocation.filing?).toList := by
  have hresolve : ∀ (h : History) name answers handling,
      (h.news (.resolve name answers handling)).filterMap Invocation.registration? =
        ((h.delivery? (.resolve name answers handling)).bind Invocation.filing?).toList := by
    intro h name answers handling
    cases hw : h.waiting? name with
    | none => simp [news, hw, delivery?_resolve_of_none hw]
    | some i =>
      rw [← registration?_advance hw]
      simp only [news, hw, Option.map_some, Option.toList_some, List.filterMap_cons,
        List.filterMap_nil]
      split <;> simp_all
  have hstart : ∀ name op code,
      (h.news (.start name op code)).filterMap Invocation.registration? = [] := by
    intro name op code
    simp only [news, List.filterMap_cons, registration?_opened, List.filterMap_nil]
  cases st with
  | start name op code => exact hstart name op code
  | resolve name answers handling => exact hresolve h name answers handling
  | run name op code answers handling =>
    cases hg : gate op h.store.get code with
    | error message =>
      rw [(step_run_of_error hg name answers handling).2, delivery?_run_of_error hg]
      exact hstart name op code
    | ok session =>
      rw [(step_run_of_ok hg name answers handling).2, delivery?_run_of_ok hg,
        List.filterMap_append, hresolve, hstart, List.nil_append]
  | cancel | session | fault => rfl

/-- The invocation that ends in a step is registered exactly if the step delivers that its code is
valid. -/
theorem registration?_ended? (h : History) (st : Step) :
    (h.ended? st).bind Invocation.registration? =
      (h.delivery? st).bind Invocation.filing? := by
  have hresolve : ∀ (h : History) name answers handling,
      (h.ended? (.resolve name answers handling)).bind Invocation.registration? =
        (h.delivery? (.resolve name answers handling)).bind Invocation.filing? := by
    intro h name answers handling
    cases hw : h.waiting? name with
    | none => rw [ended?_resolve_of_none hw, delivery?_resolve_of_none hw]; rfl
    | some i => rw [ended?_resolve_of_some hw, ← registration?_advance hw]; rfl
  cases st with
  | start name op code =>
    cases hg : gate op h.store.get code with
    | error message =>
      rw [ended?_start_of_error hg, Option.bind_some, registration?_opened]
      rfl
    | ok session => rw [ended?_start_of_ok hg]; rfl
  | resolve name answers handling => exact hresolve h name answers handling
  | run name op code answers handling =>
    cases hg : gate op h.store.get code with
    | error message =>
      rw [ended?_run_of_error hg, Option.bind_some, registration?_opened,
        delivery?_run_of_error hg]
      rfl
    | ok session => rw [ended?_run_of_ok hg, delivery?_run_of_ok hg, hresolve]
  | cancel | session | fault => rfl

/-- A delivery is an answer to a compilation that waits, perhaps since this very step. -/
theorem delivery?_elim {st : Step} {i : Invocation} (hd : h.delivery? st = some i) :
    i.operation = .compile ∧ st.bookkeeping ≠ .absent ∧
      ∃ before name answers handling, (h.after before).waiting? name = some i ∧
        h.step st = (h.after before).step (.resolve name answers handling) := by
  have hresolve : ∀ {h : History} {name answers handling},
      h.delivery? (.resolve name answers handling) = some i →
        i.operation = .compile ∧ h.waiting? name = some i := by
    intro h name answers handling hd
    obtain ⟨hw, hv⟩ := Option.filter_eq_some_iff.mp hd
    simp only [Bool.and_eq_true, beq_iff_eq] at hv
    exact ⟨hv.1, hw⟩
  cases st with
  | resolve name answers handling =>
    obtain ⟨hop, hw⟩ := hresolve hd
    exact ⟨hop, bookkeepingOf_ne_absent _ _, [], name, answers, handling, hw, rfl⟩
  | run name op code answers handling =>
    cases hg : gate op h.store.get code with
    | error message => rw [delivery?_run_of_error hg] at hd; cases hd
    | ok session =>
      rw [delivery?_run_of_ok hg] at hd
      obtain ⟨hop, hw⟩ := hresolve hd
      exact ⟨hop, bookkeepingOf_ne_absent _ _, [.start name op code], name, answers, handling, hw,
        (step_run_of_ok hg name answers handling).1⟩
  | start | cancel | session | fault => cases hd

/-- What was noted of a compilation at its start is still there when its answer is delivered. -/
theorem delivery?_beginning {st : Step} {i : Invocation} (hd : h.delivery? st = some i) :
    i.beginning ∈ (h.step st).invocations.map Invocation.beginning ∧
      ∃ session, i.fate = .admitted session .waiting := by
  obtain ⟨-, -, before, name, answers, handling, hw, hstep⟩ := delivery?_elim hd
  obtain ⟨hmi, hwi⟩ := waiting?_spec hw
  refine ⟨?_, (Invocation.waitsAs_iff.mp hwi).2⟩
  rw [hstep, step, beginnings_advance]
  exact List.mem_map_of_mem hmi

/-! ### No compilation is delivered to twice -/

/-- Nothing becomes of an invocation that has come to its end. -/
theorem mem_step_of_isOver {i : Invocation} (hmi : i ∈ h.invocations) (ho : i.isOver) (st : Step) :
    i ∈ (h.step st).invocations := by
  have hadv : ∀ name progress, i.advance name progress = i := by
    intro name progress
    refine Invocation.advance_of_not_waitsAs (Bool.eq_false_iff.mpr fun hw => ?_)
    obtain ⟨-, session, hf⟩ := Invocation.waitsAs_iff.mp hw
    simp [Invocation.isOver, hf] at ho
  have hmem : ∀ name progress, i ∈ (h.advance name progress).invocations := fun name progress =>
    List.mem_map.mpr ⟨i, hmi, hadv name progress⟩
  have hstart : ∀ name op code progress, i ∈ (h.start name op code progress).invocations := by
    intro name op code progress
    refine List.mem_append_left _ ?_
    cases gate op h.store.get code with
    | error message => exact hmi
    | ok session => exact hmem ..
  cases st with
  | start name op code => exact hstart ..
  | resolve name answers handling => exact hmem ..
  | run name op code answers handling => exact hstart ..
  | cancel name => exact hmem ..
  | session session => exact hmi
  | fault e => exact hmi

theorem mem_after_of_isOver {i : Invocation} (hmi : i ∈ h.invocations) (ho : i.isOver)
    (steps : List Step) : i ∈ (h.after steps).invocations := by
  induction steps generalizing h with
  | nil => exact hmi
  | cons st steps ih => exact ih (mem_step_of_isOver hmi ho st)

/-- A delivery ends an invocation that had not come to its end before. -/
theorem delivery?_ends (hinv : h.Inv) {st : Step} {i : Invocation} (hd : h.delivery? st = some i) :
    (∃ j ∈ (h.step st).invocations, j.isOver ∧ j.number = i.number) ∧
      ∀ j ∈ h.invocations, j.isOver → j.number ≠ i.number := by
  obtain ⟨-, -, before, name, answers, handling, hw, hstep⟩ := delivery?_elim hd
  obtain ⟨hmi, hwi⟩ := waiting?_spec hw
  obtain ⟨hn, session, hf⟩ := Invocation.waitsAs_iff.mp hwi
  constructor
  · rw [hstep]
    refine ⟨_, List.mem_map_of_mem hmi, ?_, Invocation.number_advance ..⟩
    rw [Invocation.advance_of_waitsAs hf hn]
    rfl
  · intro j hmj ho hnum
    obtain rfl := (hinv.after before).eq_of_number_eq (mem_after_of_isOver hmj ho before) hmi hnum
    simp [Invocation.isOver, hf] at ho

/-- The compilations that answers are delivered to have come to their ends, and they are different
ones. -/
theorem deliveries_after (session : Option Session) (steps : List Step) :
    (∀ i ∈ (init session).deliveries steps, ∃ j ∈ ((init session).after steps).invocations,
        j.isOver ∧ j.number = i.number) ∧
      (((init session).deliveries steps).map (·.number)).Nodup := by
  induction steps using List.reverseRecOn with
  | nil => simp [deliveries]
  | append_singleton steps st ih =>
    obtain ⟨hover, hnodup⟩ := ih
    have hkept : ∀ i ∈ (init session).deliveries steps,
        ∃ j ∈ (((init session).after steps).step st).invocations,
          j.isOver ∧ j.number = i.number := by
      intro i hi
      obtain ⟨j, hmj, ho, hn⟩ := hover i hi
      exact ⟨j, mem_step_of_isOver hmj ho st, ho, hn⟩
    rw [deliveries_append, after_append]
    cases hd : ((init session).after steps).delivery? st with
    | none => simpa using ⟨hkept, hnodup⟩
    | some i =>
      obtain ⟨hnew, hfresh⟩ := delivery?_ends ((Inv.init session).after steps) hd
      simp only [Option.toList_some, List.mem_append, List.mem_singleton, List.map_append,
        List.map_cons, List.map_nil]
      refine ⟨?_, List.nodup_append.mpr ⟨hnodup, List.nodup_singleton _, ?_⟩⟩
      · rintro k (hk | rfl)
        · exact hkept k hk
        · exact hnew
      · simp only [List.mem_map, List.mem_singleton]
        rintro _ ⟨k, hk, rfl⟩ _ rfl
        obtain ⟨j, hmj, ho, hn⟩ := hover k hk
        rw [← hn]
        exact hfresh j hmj ho

end History

/-! ### Registrations -/

namespace Desk

theorem registrations_foldl_take (news : List Invocation) (d : Desk) :
    (news.foldl take d).registrations =
      d.registrations ++ news.filterMap Invocation.registration? := by
  simp only [registrations, calls_foldl_take, List.filter_append, List.filter_filterMap,
    Invocation.filter_call?]

@[simp] theorem calls_drawFor (d : Desk) (st : Step) : (d.drawFor st).calls = d.calls := by
  unfold drawFor
  split <;> rfl

end Desk

/-- A call that files the code of a compilation: some step of the run has started it, and the call
is for whoever the store held in that step. -/
def Files (policy : Policy) (session : Option Session) (steps : List Step) (call : Call)
    (i : Invocation) : Prop :=
  ∃ before st rest found, steps = before ++ st :: rest ∧
    st.start? = some (.compile, i.code) ∧
    i.number = (before.filterMap Step.start?).length + 1 ∧
    ((State.init policy session).after before).store.get = .ok (some found) ∧
    call = .register found.user i.code

theorem Files.append {policy : Policy} {session : Option Session} {steps : List Step}
    {call : Call} {i : Invocation} (hf : Files policy session steps call i) (st : Step) :
    Files policy session (steps ++ [st]) call i := by
  obtain ⟨before, st', rest, found, rfl, hrest⟩ := hf
  exact ⟨before, st', rest ++ [st], found, by simp, hrest⟩

/-- What is registered once an answer is delivered was fixed when the compilation was started. -/
theorem files_of_beginning {policy : Policy} {session : Option Session} {steps : List Step}
    {i : Invocation} {found : Session} (hop : i.operation = .compile)
    (hf : i.fate = .admitted found .waiting)
    (hb : i.beginning ∈ ((History.init session).after steps).invocations.map Invocation.beginning) :
    Files policy session steps (.register found.user i.code) i := by
  obtain ⟨before, st, rest, rfl, hst, hbeg⟩ := History.exists_start_of_mem hb
  have hlen := congrArg List.length (History.starts_after (History.init session) before)
  simp only [History.init, List.map_nil, List.nil_append, List.length_map] at hlen
  simp only [Invocation.beginning, History.beginning, hf, hop, Beginning.mk.injEq] at hst hbeg
  obtain ⟨hnum, -, -, hgate⟩ := hbeg
  refine ⟨before, st, rest, found, rfl, hst, hnum.trans (congrArg (· + 1) hlen), ?_, rfl⟩
  rw [(Agrees.after policy session before).store]
  exact (gate_eq_ok_iff.mp hgate.symm).1

namespace Agrees

variable {h : History} {s : State}

/-- A step makes a registration if it delivers that code is valid, and no other step does. -/
theorem registrations_step (a : Agrees h s) (st : Step) :
    (s.step st).1.desk.registrations =
      s.desk.registrations ++ ((h.delivery? st).bind Invocation.filing?).toList := by
  rw [a.desk_step, Desk.registrations_foldl_take, History.registrations_news, Desk.registrations,
    Desk.calls_drawFor, ← Desk.registrations]

/-- A report tells of a registration exactly if one was made. -/
theorem bookkeeping_step (a : Agrees h s) (st : Step) :
    (∃ report, (s.step st).2 = some report ∧ report.bookkeeping ≠ .absent) ↔
      (h.delivery? st).isSome := by
  have hend := History.registration?_ended? h st
  rw [a.report_step]
  constructor
  · rintro ⟨report, hr, hb⟩
    obtain ⟨i, hi, rfl⟩ := Option.map_eq_some_iff.mp hr
    rw [hi, Option.bind_some] at hend
    cases hd : h.delivery? st with
    | none =>
      rw [hd, Option.bind_none] at hend
      simp [Invocation.report, hend] at hb
    | some j => rfl
  · intro hsome
    obtain ⟨i, hd⟩ := Option.isSome_iff_exists.mp hsome
    have hb := (History.delivery?_elim hd).2.1
    obtain ⟨-, found, hf⟩ := History.delivery?_beginning hd
    rw [hd, Option.bind_some, Invocation.filing?, hf] at hend
    obtain ⟨j, hj, hreg⟩ := Option.bind_eq_some_iff.mp hend
    refine ⟨_, congrArg _ hj, ?_⟩
    simpa only [Invocation.report, hreg, Option.isSome_some, if_true] using hb

end Agrees

/-- What a step registers is the code of the compilation that it delivers to. -/
theorem files_step (policy : Policy) (session : Option Session) (steps : List Step) (st : Step) :
    let delivered := ((History.init session).after steps).delivery? st
    List.Forall₂ (Files policy session (steps ++ [st]))
      (delivered.bind Invocation.filing?).toList delivered.toList := by
  intro delivered
  cases hd : delivered with
  | none => exact .nil
  | some i =>
    obtain ⟨hb, found, hf⟩ := History.delivery?_beginning hd
    rw [← History.after_append] at hb
    simp only [Option.bind_some, Invocation.filing?, hf, Option.toList_some]
    exact .cons (files_of_beginning (History.delivery?_elim hd).1 hf hb) .nil

/-- The registrations of a run are those of its deliveries. -/
theorem files_registrations (policy : Policy) (session : Option Session) (steps : List Step) :
    List.Forall₂ (Files policy session steps)
      ((State.init policy session).after steps).desk.registrations
      ((History.init session).deliveries steps) := by
  induction steps using List.reverseRecOn with
  | nil => exact .nil
  | append_singleton steps st ih =>
    rw [State.after_append, (Agrees.after policy session steps).registrations_step,
      History.deliveries_append]
    exact List.rel_append (ih.imp fun _ _ hf => hf.append st)
      (files_step policy session steps st)

/-- **Valid code is registered exactly once.** The registrations of a run are, one by one and in
the same order, those of the compilations to which a step delivered that their code is valid, and
no two of them are of one compilation. Each files the code of its compilation, for whoever was
signed in when this was started. One more step makes a registration exactly if it delivers such an
answer, and only then its report tells of one. -/
theorem registers_valid_code (policy : Policy) (session : Option Session) (steps : List Step) :
    let h := (History.init session).after steps
    let s := (State.init policy session).after steps
    List.Forall₂ (Files policy session steps) s.desk.registrations
        ((History.init session).deliveries steps) ∧
      (((History.init session).deliveries steps).map (·.number)).Nodup ∧
      ∀ st, ∃ made, (s.step st).1.desk.registrations = s.desk.registrations ++ made ∧
        List.Forall₂ (Files policy session (steps ++ [st])) made (h.delivery? st).toList ∧
        ((∃ report, (s.step st).2 = some report ∧ report.bookkeeping ≠ .absent) ↔
          (h.delivery? st).isSome) := by
  intro h s
  have a : Agrees h s := .after policy session steps
  refine ⟨files_registrations policy session steps, (History.deliveries_after session steps).2,
    fun st => ⟨_, a.registrations_step st, files_step policy session steps st, ?_⟩⟩
  exact a.bookkeeping_step st

/-- A late answer is registered for whoever had started the compilation, though somebody else has
signed in meanwhile and started another. -/
example (first second : Session) (code : Submission) :
    ((State.init .latestInvocation (some first)).after
      [.start "a" .compile code, .session (some second), .start "b" .compile code,
        .resolve "a" .standard .dropped]).desk.calls =
      [.check code, .check code, .register first.user code] := rfl

end Workbench.Workflow
