import Mathlib.Data.List.Induction
import Mathlib.Data.List.Nodup
import Workbench.Workflow.Run

/-!
# The history of a run

What happened in a run can be told without a desk: whoever watches the steps notes down each
invocation when it starts, who was signed in then or why it was turned away, and what became of
it afterwards. Such a history knows no tickets, no board and no policy. The modules that follow
measure against it what the desk shows, remembers and calls.

* `Inv.step` — the invocations are numbered in the order in which they were started, and no two
  of them wait under one name.
* `starts_after` — a history has one invocation for each start of the run, in their order.
* `exists_start_of_mem` — what a history notes of an invocation is what its start said, with the
  session that the store held in that step.
-/

namespace Workbench.Workflow

open Workbench.Markup (Fragment)
open Workbench.Session (Memory)

/-- What has become of an invocation that was let in. -/
inductive Progress where
  /-- It waits for its answer. -/
  | waiting
  /-- It was given up, or its name went to another invocation. -/
  | abandoned
  /-- It was answered. -/
  | answered (reply : Except GatewayError Outcome)

/-- What has become of an invocation. -/
inductive Fate where
  /-- It was turned away with a message. -/
  | refused (message : String)
  /-- It was let in, for whoever was signed in at that moment. -/
  | admitted (session : Session) (progress : Progress)

/-- An invocation as a history knows it. -/
structure Invocation where
  /-- Its place among all that were started, the first being one. -/
  number : Nat
  /-- The name under which it waits. -/
  name : String
  /-- The operation. -/
  operation : Operation
  /-- The code. -/
  code : Submission
  /-- What has become of it. -/
  fate : Fate

/-- What is noted of an invocation when it starts, and never changes. -/
structure Beginning where
  /-- Its place among all that were started, the first being one. -/
  number : Nat
  /-- The operation. -/
  operation : Operation
  /-- The code. -/
  code : Submission
  /-- Who it was let in for, or why it was turned away. -/
  admission : Except String Session

/-- The call by which an invocation is passed on to the backend, if it is let in. -/
def Beginning.request? (b : Beginning) : Option Call :=
  match b.admission with
  | .error _ => none
  | .ok session => some (.ofOperation b.operation session.user b.code)

/-- The operation that a step starts, and the code that it hands in. -/
def Step.start? : Step → Option (Operation × Submission)
  | .start _ op code => some (op, code)
  | .run _ op code _ _ => some (op, code)
  | _ => none

namespace Invocation

/-- What was noted when it started. -/
def beginning (i : Invocation) : Beginning where
  number := i.number
  operation := i.operation
  code := i.code
  admission :=
    match i.fate with
    | .refused message => .error message
    | .admitted session _ => .ok session

/-- Whether it waits under a name. -/
def waitsAs (i : Invocation) (name : String) : Bool :=
  match i.fate with
  | .admitted _ .waiting => i.name == name
  | _ => false

/-- Whether it has come to its end. -/
def isOver (i : Invocation) : Bool :=
  match i.fate with
  | .refused _ | .admitted _ (.answered _) => true
  | _ => false

/-- How far it brings its operation. -/
def phase (i : Invocation) : Phase :=
  match i.fate with
  | .refused _ => .failed
  | .admitted _ (.answered reply) => phaseOf reply
  | .admitted _ _ => .pending

/-- What there is to show of it: why it was turned away, that it is under way, or its answer. -/
def fragment (i : Invocation) : Fragment :=
  match i.fate with
  | .refused message => Display.failure message
  | .admitted _ (.answered reply) => fragmentOf reply
  | .admitted _ _ => Display.pending i.operation

/-- The call that registers its code, once the code was found valid. -/
def registration? (i : Invocation) : Option Call :=
  match i.fate with
  | .admitted session (.answered reply) =>
    if isValid reply then some (.register session.user i.code) else none
  | _ => none

/-- What becomes of it when the invocation that waits under a name gets further. -/
def advance (name : String) (progress : Operation → Progress) (i : Invocation) : Invocation :=
  match i.fate with
  | .admitted session .waiting =>
    if i.name = name then { i with fate := .admitted session (progress i.operation) } else i
  | _ => i

end Invocation

/-- What was noted down of a run. -/
structure History where
  /-- The store, as those who sign in and out have left it. -/
  store : Memory
  /-- The invocations, the latest last. -/
  invocations : List Invocation

namespace History

/-- The history of a run that has not begun. -/
def init (session : Option Session) : History := ⟨.holding session, []⟩

/-- The note taken when an operation is started; `progress` is what becomes of it if it is let
in. -/
def opened (h : History) (name : String) (op : Operation) (code : Submission)
    (progress : Progress) : Invocation where
  number := h.invocations.length + 1
  name := name
  operation := op
  code := code
  fate :=
    match gate op h.store.get code with
    | .error message => .refused message
    | .ok session => .admitted session progress

/-- The invocation that waits under a name gets further. -/
def advance (h : History) (name : String) (progress : Operation → Progress) : History :=
  { h with invocations := h.invocations.map (Invocation.advance name progress) }

/-- An operation is started. If it is let in, whatever waited under its name is given up. -/
def start (h : History) (name : String) (op : Operation) (code : Submission)
    (progress : Progress) : History :=
  let before :=
    match gate op h.store.get code with
    | .error _ => h
    | .ok _ => h.advance name fun _ => .abandoned
  { h with invocations := before.invocations ++ [h.opened name op code progress] }

/-- The history after one more step. -/
def step (h : History) : Step → History
  | .start name op code => h.start name op code .waiting
  | .resolve name answers _ => h.advance name fun op => .answered (answers.reply op)
  | .run name op code answers _ => h.start name op code (.answered (answers.reply op))
  | .cancel name => h.advance name fun _ => .abandoned
  | .session session => { h with store := { h.store with current := session } }
  | .fault e => { h with store := { h.store with faults := ⟨e, none, none⟩ } }

/-- The history after a run. -/
def after (h : History) (steps : List Step) : History := steps.foldl step h

/-- The invocation that waits under a name. -/
def waiting? (h : History) (name : String) : Option Invocation :=
  h.invocations.find? (·.waitsAs name)

/-- The invocation that was started last. -/
def mostRecent? (h : History) : Option Invocation := h.invocations.getLast?

/-- The invocation of an operation that was started last. -/
def mostRecentOf? (h : History) (op : Operation) : Option Invocation :=
  (h.invocations.filter (·.operation = op)).getLast?

/-- The invocations on which a step has news, as they stand when the news comes: an invocation
that is started, and one that is answered. -/
def news (h : History) : Step → List Invocation
  | .start name op code => [h.opened name op code .waiting]
  | .resolve name answers _ =>
    ((h.waiting? name).map
      (Invocation.advance name fun op => .answered (answers.reply op))).toList
  | .run name op code answers _ =>
    match gate op h.store.get code with
    | .error _ => [h.opened name op code .waiting]
    | .ok _ => [h.opened name op code .waiting, h.opened name op code (.answered (answers.reply op))]
  | _ => []

/-- The invocation that comes to its end in a step. -/
def ended? (h : History) (step : Step) : Option Invocation :=
  (h.news step).find? Invocation.isOver

end History

/-! ### One invocation -/

namespace Invocation

theorem waitsAs_iff {i : Invocation} {name : String} :
    i.waitsAs name ↔ i.name = name ∧ ∃ session, i.fate = .admitted session .waiting := by
  unfold waitsAs
  split <;> simp_all

variable (name : String) (progress : Operation → Progress) (i : Invocation)

/-- Getting further changes nothing but the progress. -/
theorem advance_eq_or :
    i.advance name progress = i ∨ ∃ session, i.fate = .admitted session .waiting ∧
      i.advance name progress = { i with fate := .admitted session (progress i.operation) } := by
  unfold advance
  split
  next session hi =>
    split
    · exact .inr ⟨session, hi, rfl⟩
    · exact .inl rfl
  next => exact .inl rfl

@[simp] theorem beginning_advance : (i.advance name progress).beginning = i.beginning := by
  rcases advance_eq_or name progress i with h | ⟨session, hi, h⟩
  · rw [h]
  · simp only [h, beginning, hi]

@[simp] theorem number_advance : (i.advance name progress).number = i.number :=
  congrArg Beginning.number (beginning_advance name progress i)

@[simp] theorem operation_advance : (i.advance name progress).operation = i.operation :=
  congrArg Beginning.operation (beginning_advance name progress i)

variable {name progress i}

theorem advance_of_not_waitsAs (h : i.waitsAs name = false) : i.advance name progress = i := by
  unfold advance
  unfold waitsAs at h
  split <;> simp_all

theorem advance_of_waitsAs {session : Session} (hf : i.fate = .admitted session .waiting)
    (hn : i.name = name) :
    i.advance name progress = { i with fate := .admitted session (progress i.operation) } := by
  simp only [advance, hf, hn, if_true]

/-- Whoever waits after some invocation got further was waiting before. -/
theorem waitsAs_of_advance {other : String} (h : (i.advance name progress).waitsAs other) :
    i.waitsAs other := by
  rcases advance_eq_or name progress i with hi | ⟨session, hf, hi⟩
  · rwa [hi] at h
  · rw [hi, waitsAs_iff] at h
    exact waitsAs_iff.mpr ⟨h.1, session, hf⟩

/-- An invocation that gets further waits no longer. -/
theorem not_waitsAs_advance (hp : ∀ op, progress op ≠ .waiting) :
    ¬ (i.advance name progress).waitsAs name := by
  intro h
  have hi := waitsAs_iff.mp (waitsAs_of_advance h)
  obtain ⟨hn, session, hf⟩ := hi
  rw [advance_of_waitsAs hf hn, waitsAs_iff] at h
  obtain ⟨-, session', h⟩ := h
  exact hp _ (by simpa using (Fate.admitted.inj h).2)

/-- Nobody who was started leaves the operation idle. -/
theorem phase_ne_idle (i : Invocation) : i.phase ≠ .idle := by
  have hreply : ∀ reply, phaseOf reply ≠ .idle := by
    intro reply
    unfold phaseOf
    split
    · split <;> decide
    · decide
  unfold phase
  split
  · decide
  · exact hreply _
  · decide

theorem phase_answer (h : i.waitsAs name) (answers : Answers) :
    (i.advance name fun op => .answered (answers.reply op)).phase =
      phaseOf (answers.reply i.operation) := by
  obtain ⟨hn, session, hf⟩ := waitsAs_iff.mp h
  rw [advance_of_waitsAs hf hn]
  rfl

@[simp] theorem phase_abandon : (i.advance name fun _ => .abandoned).phase = i.phase := by
  rcases advance_eq_or name (fun _ => .abandoned) i with h | ⟨session, hi, h⟩
  · rw [h]
  · simp only [h, phase, hi]

@[simp] theorem fragment_abandon :
    (i.advance name fun _ => .abandoned).fragment = i.fragment := by
  rcases advance_eq_or name (fun _ => .abandoned) i with h | ⟨session, hi, h⟩
  · rw [h]
  · simp only [h, fragment, hi]

end Invocation

/-! ### Numbers and names -/

namespace History

/-- What is true of every history. -/
structure Inv (h : History) : Prop where
  /-- The invocations are numbered from one, without gaps. -/
  numbers : h.invocations.map (·.number) = List.range' 1 h.invocations.length
  /-- No two of them wait under one name. -/
  names : ∀ i ∈ h.invocations, ∀ j ∈ h.invocations, ∀ name,
    i.waitsAs name → j.waitsAs name → i = j

variable {h : History}

theorem Inv.init (session : Option Session) : Inv (init session) where
  numbers := rfl
  names := by simp [History.init]

theorem Inv.advance (hi : Inv h) (name : String) (progress : Operation → Progress) :
    Inv (h.advance name progress) where
  numbers := by
    simpa [History.advance, List.map_map, Function.comp_def] using hi.numbers
  names := by
    simp only [History.advance, List.mem_map]
    rintro _ ⟨i, hmi, rfl⟩ _ ⟨j, hmj, rfl⟩ other hwi hwj
    rw [hi.names i hmi j hmj other (Invocation.waitsAs_of_advance hwi)
      (Invocation.waitsAs_of_advance hwj)]

/-- One more invocation keeps the invariant, if nobody waits under its name. -/
theorem Inv.append {i : Invocation} (hi : Inv h) (hn : i.number = h.invocations.length + 1)
    (hw : ∀ j ∈ h.invocations, ∀ name, i.waitsAs name → ¬ j.waitsAs name) :
    Inv { h with invocations := h.invocations ++ [i] } where
  numbers := by
    simp only [List.map_append, List.map_cons, List.map_nil, hi.numbers, hn, List.length_append,
      List.length_singleton, List.range'_concat, Nat.one_mul, Nat.add_comm 1]
  names := by
    simp only [List.mem_append, List.mem_singleton]
    rintro j (hj | rfl) k (hk | rfl) name hwj hwk
    · exact hi.names j hj k hk name hwj hwk
    · exact absurd hwj (hw j hj name hwk)
    · exact absurd hwk (hw k hk name hwj)
    · rfl

theorem Inv.start (hi : Inv h) (name : String) (op : Operation) (code : Submission)
    (progress : Progress) : Inv (h.start name op code progress) := by
  cases hg : gate op h.store.get code with
  | error message =>
    simp only [History.start, hg]
    refine hi.append rfl fun j _ other hw => ?_
    simp [Invocation.waitsAs, opened, hg] at hw
  | ok session =>
    simp only [History.start, hg]
    refine (hi.advance name fun _ => .abandoned).append (by simp [opened, History.advance]) ?_
    simp only [History.advance, List.mem_map]
    rintro _ ⟨j, -, rfl⟩ other hw
    obtain ⟨rfl, -⟩ := Invocation.waitsAs_iff.mp hw
    exact Invocation.not_waitsAs_advance fun _ => nofun

/-- The invariant is kept by every step. -/
theorem Inv.step (hi : Inv h) (st : Step) : Inv (h.step st) := by
  cases st with
  | start name op code => exact hi.start name op code _
  | resolve name answers handling => exact hi.advance name _
  | run name op code answers handling => exact hi.start name op code _
  | cancel name => exact hi.advance name _
  | session session => exact ⟨hi.numbers, hi.names⟩
  | fault e => exact ⟨hi.numbers, hi.names⟩

theorem Inv.after (hi : Inv h) (steps : List Step) : Inv (h.after steps) := by
  induction steps generalizing h with
  | nil => exact hi
  | cons st steps ih => exact ih (hi.step st)

/-- An invocation is known by its number. -/
theorem Inv.eq_of_number_eq (hi : Inv h) {i j : Invocation} (hmi : i ∈ h.invocations)
    (hmj : j ∈ h.invocations) (hn : i.number = j.number) : i = j := by
  refine List.inj_on_of_nodup_map ?_ hmi hmj hn
  rw [hi.numbers]
  exact List.nodup_range'

theorem Inv.number_le (hi : Inv h) {i : Invocation} (hmi : i ∈ h.invocations) :
    i.number ≤ h.invocations.length := by
  have := List.mem_map_of_mem (f := (·.number)) hmi
  rw [hi.numbers, List.mem_range'_1] at this
  omega

/-- The invocation that was started last has the highest number. -/
theorem Inv.number_mostRecent (hi : Inv h) {i : Invocation} (hm : h.mostRecent? = some i) :
    i.number = h.invocations.length := by
  have := congrArg (Option.map Invocation.number) hm
  rw [mostRecent?, ← List.getLast?_map, hi.numbers, List.getLast?_range'] at this
  split at this
  · cases this
  · simp only [Option.map_some, Option.some.injEq] at this
    omega

/-- A number is the highest exactly if nothing was started after it. -/
theorem Inv.eq_length_iff (hi : Inv h) {n : Nat} (hn : n ≤ h.invocations.length) :
    n = h.invocations.length ↔ ∀ j ∈ h.invocations, j.number ≤ n := by
  constructor
  · rintro rfl j hj
    exact hi.number_le hj
  · intro hall
    cases hm : h.mostRecent? with
    | none =>
      rw [mostRecent?, List.getLast?_eq_none_iff] at hm
      simpa [hm] using hn
    | some j =>
      have hj := hall j (List.mem_of_getLast? hm)
      rw [hi.number_mostRecent hm] at hj
      omega

theorem waiting?_spec {name : String} {i : Invocation} (hw : h.waiting? name = some i) :
    i ∈ h.invocations ∧ i.waitsAs name := by
  unfold waiting? at hw
  exact ⟨List.mem_of_find?_eq_some hw, by simpa using List.find?_some hw⟩

/-- The invocation that waits under a name, and no other, gets further. -/
theorem Inv.advance_of_waiting? (hi : Inv h) {name : String} {progress : Operation → Progress}
    {i j : Invocation} (hw : h.waiting? name = some i) (hmj : j ∈ h.invocations) :
    j.advance name progress = if j.number = i.number then i.advance name progress else j := by
  obtain ⟨hmi, hwi⟩ := waiting?_spec hw
  split
  next hn => rw [hi.eq_of_number_eq hmj hmi hn]
  next hn =>
    refine Invocation.advance_of_not_waitsAs (Bool.eq_false_iff.mpr fun hj => hn ?_)
    rw [hi.names j hmj i hmi name hj hwi]

/-! ### The last invocations -/

theorem mostRecent?_advance (h : History) (name : String) (progress : Operation → Progress) :
    (h.advance name progress).mostRecent? =
      h.mostRecent?.map (Invocation.advance name progress) := by
  simp only [mostRecent?, advance, List.getLast?_map]

theorem mostRecentOf?_advance (h : History) (name : String) (progress : Operation → Progress)
    (op : Operation) :
    (h.advance name progress).mostRecentOf? op =
      (h.mostRecentOf? op).map (Invocation.advance name progress) := by
  simp only [mostRecentOf?, advance, List.filter_map, Function.comp_def,
    Invocation.operation_advance, List.getLast?_map]

/-- What is started is the last of all. -/
theorem mostRecent?_start (h : History) (name : String) (op : Operation) (code : Submission)
    (progress : Progress) :
    (h.start name op code progress).mostRecent? = some (h.opened name op code progress) := by
  simp only [mostRecent?, start, List.getLast?_concat]

theorem mostRecentOf?_start (h : History) (name : String) (op : Operation) (code : Submission)
    (progress : Progress) :
    (h.start name op code progress).mostRecentOf? op = some (h.opened name op code progress) := by
  simp only [mostRecentOf?, start, List.filter_append]
  rw [List.filter_cons_of_pos (by simp [opened]), List.filter_nil, List.getLast?_concat]

/-- A start changes nothing about the last invocation of another operation but, perhaps, that it
is given up. -/
theorem mostRecentOf?_start_of_ne {α : Type} (f : Invocation → α) {name : String}
    (hf : ∀ i : Invocation, f (i.advance name fun _ => .abandoned) = f i) {op o : Operation}
    (ho : o ≠ op) (h : History) (code : Submission) (progress : Progress) :
    ((h.start name op code progress).mostRecentOf? o).map f = (h.mostRecentOf? o).map f := by
  have hnew : [h.opened name op code progress].filter (fun i => decide (i.operation = o)) = [] := by
    simp [opened, Ne.symm ho]
  cases hg : gate op h.store.get code with
  | error message => simp only [mostRecentOf?, start, hg, List.filter_append, hnew, List.append_nil]
  | ok session =>
    have hadv := h.mostRecentOf?_advance name (fun _ => .abandoned) o
    simp only [mostRecentOf?] at hadv
    simp only [mostRecentOf?, start, hg, List.filter_append, hnew, List.append_nil, hadv,
      Option.map_map, Function.comp_def, hf]

/-! ### A run step by step -/

theorem after_append (h : History) (steps : List Step) (st : Step) :
    h.after (steps ++ [st]) = (h.after steps).step st := by
  simp only [after, List.foldl_append, List.foldl_cons, List.foldl_nil]

/-- An operation that is turned away has no answer to wait for. -/
theorem step_run_of_error {op : Operation} {code : Submission} {message : String}
    (hg : gate op h.store.get code = .error message) (name : String) (answers : Answers)
    (handling : Handling) :
    h.step (.run name op code answers handling) = h.step (.start name op code) ∧
      h.news (.run name op code answers handling) = h.news (.start name op code) := by
  simp only [step, start, opened, news, hg, and_self]

/-- Nobody waits under the name of an operation that was just let in, but the new invocation. -/
theorem waiting?_start {op : Operation} {code : Submission} {session : Session}
    (hg : gate op h.store.get code = .ok session) (name : String) :
    (h.start name op code .waiting).waiting? name = some (h.opened name op code .waiting) := by
  simp only [start, hg, waiting?, advance, List.find?_append]
  rw [List.find?_eq_none.mpr]
  · simp [opened, Invocation.waitsAs, hg]
  · simp only [List.mem_map]
    rintro _ ⟨j, -, rfl⟩
    exact Invocation.not_waitsAs_advance fun _ => nofun

/-- An operation that is let in and answered at once is one that is started and answered then. -/
theorem step_run_of_ok {op : Operation} {code : Submission} {session : Session}
    (hg : gate op h.store.get code = .ok session) (name : String) (answers : Answers)
    (handling : Handling) :
    h.step (.run name op code answers handling) =
        (h.step (.start name op code)).step (.resolve name answers handling) ∧
      h.news (.run name op code answers handling) = h.news (.start name op code) ++
        (h.step (.start name op code)).news (.resolve name answers handling) := by
  have hopen : (h.opened name op code .waiting).advance name
      (fun op => .answered (answers.reply op)) =
        h.opened name op code (.answered (answers.reply op)) := by
    simp [opened, Invocation.advance, hg]
  constructor
  · simp only [step, start, advance, hg, List.map_append, List.map_cons, List.map_nil, hopen,
      List.map_map]
    congr 2
    refine List.map_congr_left fun j _ => (Invocation.advance_of_not_waitsAs ?_).symm
    exact Bool.eq_false_iff.mpr (Invocation.not_waitsAs_advance fun _ => nofun)
  · simp only [news, hg, step, waiting?_start hg, Option.map_some, Option.toList_some, hopen,
      List.singleton_append]

/-! ### What was noted at the start -/

/-- What is noted when an operation is started now. -/
def beginning (h : History) (op : Operation) (code : Submission) : Beginning :=
  ⟨h.invocations.length + 1, op, code, gate op h.store.get code⟩

theorem beginning_opened (h : History) (name : String) (op : Operation) (code : Submission)
    (progress : Progress) : (h.opened name op code progress).beginning = h.beginning op code := by
  simp only [opened, Invocation.beginning, beginning]
  cases gate op h.store.get code <;> rfl

theorem beginnings_advance (h : History) (name : String) (progress : Operation → Progress) :
    (h.advance name progress).invocations.map Invocation.beginning =
      h.invocations.map Invocation.beginning := by
  simp only [advance, List.map_map, Function.comp_def, Invocation.beginning_advance]

theorem beginnings_start (h : History) (name : String) (op : Operation) (code : Submission)
    (progress : Progress) :
    (h.start name op code progress).invocations.map Invocation.beginning =
      h.invocations.map Invocation.beginning ++ [h.beginning op code] := by
  cases hg : gate op h.store.get code <;>
    simp only [start, hg, List.map_append, beginnings_advance, List.map_cons, List.map_nil,
      beginning_opened]

/-- A step adds a note if it starts an operation, and changes no note taken at a start. -/
theorem beginnings_step (h : History) (st : Step) :
    (h.step st).invocations.map Invocation.beginning =
      h.invocations.map Invocation.beginning ++
        (st.start?.map fun s => h.beginning s.1 s.2).toList := by
  cases st with
  | start name op code => exact beginnings_start h name op code _
  | run name op code answers handling => exact beginnings_start h name op code _
  | resolve name answers handling =>
    simp only [Step.start?, Option.map_none, Option.toList_none, List.append_nil]
    exact beginnings_advance h name _
  | cancel name =>
    simp only [Step.start?, Option.map_none, Option.toList_none, List.append_nil]
    exact beginnings_advance h name _
  | session session =>
    simp only [Step.start?, Option.map_none, Option.toList_none, List.append_nil, step]
  | fault e =>
    simp only [Step.start?, Option.map_none, Option.toList_none, List.append_nil, step]

/-- A history has one invocation for each start, in the order of the starts. -/
theorem starts_after (h : History) (steps : List Step) :
    (h.after steps).invocations.map (fun i => (i.operation, i.code)) =
      h.invocations.map (fun i => (i.operation, i.code)) ++ steps.filterMap Step.start? := by
  induction steps generalizing h with
  | nil => simp [after]
  | cons st steps ih =>
    have hst := congrArg (List.map fun b : Beginning => (b.operation, b.code))
      (beginnings_step h st)
    simp only [List.map_append, List.map_map, Function.comp_def, Invocation.beginning] at hst
    rw [after, List.foldl_cons, ← after, ih, hst]
    cases hs : st.start? <;> simp [hs, beginning]

/-- An operation has no last invocation exactly if no step has started it. -/
theorem mostRecentOf?_eq_none_iff (session : Option Session) (steps : List Step)
    (op : Operation) :
    ((init session).after steps).mostRecentOf? op = none ↔
      ∀ st ∈ steps, st.start?.map (·.1) ≠ some op := by
  have hstarts : ((init session).after steps).invocations.map (·.operation) =
      (steps.filterMap Step.start?).map (·.1) := by
    have := congrArg (List.map Prod.fst) (starts_after (init session) steps)
    simpa [init, Function.comp_def] using this
  have hmem : ∀ l : List Invocation,
      (l.filter (·.operation = op)).getLast? = none ↔ op ∉ l.map (·.operation) := by
    intro l
    simp only [List.getLast?_eq_none_iff, List.filter_eq_nil_iff, decide_eq_true_eq, List.mem_map,
      not_exists, not_and]
  rw [mostRecentOf?, hmem, hstarts, List.map_filterMap, List.mem_filterMap]
  simp only [not_exists, not_and]

/-- What a history notes of the start of an invocation is what some step of the run started, and
what the store said in that step. -/
theorem exists_start_of_mem {session : Option Session} {steps : List Step} {b : Beginning}
    (hb : b ∈ ((init session).after steps).invocations.map Invocation.beginning) :
    ∃ before st rest, steps = before ++ st :: rest ∧ st.start? = some (b.operation, b.code) ∧
      b = ((init session).after before).beginning b.operation b.code := by
  induction steps using List.reverseRecOn with
  | nil => simp [after, init] at hb
  | append_singleton steps st ih =>
    rw [after_append, beginnings_step, List.mem_append] at hb
    rcases hb with hb | hb
    · obtain ⟨before, st', rest, rfl, hst, hb⟩ := ih hb
      exact ⟨before, st', rest ++ [st], by simp, hst, hb⟩
    · simp only [Option.mem_toList, Option.map_eq_some_iff] at hb
      obtain ⟨⟨op, code⟩, hst, rfl⟩ := hb
      exact ⟨steps, st, [], rfl, hst, rfl⟩

end History

end Workbench.Workflow
