import Mathlib.Data.List.Find
import Mathlib.Data.List.Forall2
import Workbench.Proofs.Workflow.Policies

/-!
# Operations keep apart

The operations share a region, a counter of tickets and the names under which they wait. Apart
from what is shown, none of them notices the others: if all steps of the others are left out of a
run, an operation makes the same calls, ends in the same ways and comes as far as before.

A name goes with the operation that was let in under it last, and so does an answer or a giving up
under that name. The two runs are compared through their histories. Each invocation of the
operation has a twin in the run without the others, with another number perhaps (`Mirrors`). Only
one thing can keep twins apart for a while: if an invocation of another operation takes over a
name, then whatever waited under it is given up, whereas its twin waits on. But nothing reaches the
twin either until the operation takes the name back.

* `Mirrors.keep`, `Mirrors.drop` — the two runs stay in step.
* `operations_keep_apart` — what an operation does is what it would do alone.
-/

namespace Workbench.Workflow

/-! ### Whose step it is -/

/-- Whether an invocation was let in under a name. -/
def Invocation.goesUnder (i : Invocation) (name : String) : Bool :=
  match i.fate with
  | .refused _ => false
  | .admitted _ _ => i.name == name

namespace History

/-- The operation that goes under a name: that of the invocation let in under it last. -/
def holder? (h : History) (name : String) : Option Operation :=
  (h.invocations.filter (·.goesUnder name)).getLast?.map (·.operation)

/-- Whether a step is one of an operation, or of none at all: a start is one of the operation that
it starts, and whatever comes under a name is of the operation that goes under it. -/
def concerns (h : History) (op : Operation) : Step → Bool
  | .start _ o _ => o == op
  | .run _ o _ _ _ => o == op
  | .resolve name _ _ => (h.holder? name).all (· == op)
  | .cancel name => (h.holder? name).all (· == op)
  | .session _ => true
  | .fault _ => true

/-- A run without the steps of all operations but one. -/
def only (h : History) (op : Operation) : List Step → List Step
  | [] => []
  | st :: steps =>
    if h.concerns op st then st :: (h.step st).only op steps else (h.step st).only op steps

end History

/-- The operation that a call belongs to; code is registered for a compilation. -/
def Call.operation : Call → Operation
  | .check _ => .compile
  | .analyze _ _ => .analyze
  | .optimize _ _ => .optimize
  | .register _ _ => .compile

/-- The reports of a run, the latest last. -/
def State.reports (s : State) (steps : List Step) : List Report :=
  (s.run steps).filterMap fun r => r.2

/-! ### Names -/

namespace History

variable {h : History} {name other : String} {op : Operation} {code : Submission}
  {progress : Progress}

@[simp] theorem goesUnder_advance (i : Invocation) (step : Operation → Progress) :
    (i.advance name step).goesUnder other = i.goesUnder other := by
  rcases Invocation.advance_eq_or name step i with h | ⟨session, hf, h⟩
  · rw [h]
  · simp only [h, Invocation.goesUnder, hf]

/-- Whatever becomes of those that wait, the names stay where they are. -/
@[simp] theorem holder?_advance (h : History) (step : Operation → Progress) :
    (h.advance name step).holder? other = h.holder? other := by
  simp only [holder?, advance, List.filter_map, Function.comp_def, goesUnder_advance,
    List.getLast?_map, Option.map_map, Invocation.operation_advance]

/-- An invocation that is turned away takes no name. -/
theorem holder?_start_of_error {message : String} (hg : gate op h.store.get code = .error message) :
    (h.start name op code progress).holder? other = h.holder? other := by
  simp [holder?, start, opened, hg, Invocation.goesUnder]

/-- An invocation that is let in takes the name that it is given. -/
theorem holder?_start_of_ok {session : Session} (hg : gate op h.store.get code = .ok session) :
    (h.start name op code progress).holder? other =
      if other = name then some op else h.holder? other := by
  have hadv : (h.advance name fun _ => .abandoned).holder? other = h.holder? other :=
    holder?_advance h fun _ => .abandoned
  simp only [holder?] at hadv
  simp only [holder?, start, hg, List.filter_append]
  split
  next ho =>
    rw [List.filter_cons_of_pos (by simp [opened, hg, Invocation.goesUnder, ho]), List.filter_nil,
      List.getLast?_concat]
    rfl
  next ho =>
    rw [List.filter_cons_of_neg (by simp [opened, hg, Invocation.goesUnder, Ne.symm ho]),
      List.filter_nil, List.append_nil, hadv]

/-- Whoever waits under a name is of the operation that goes under it. -/
def Held (h : History) : Prop :=
  ∀ i ∈ h.invocations, ∀ name, i.waitsAs name → h.holder? name = some i.operation

theorem Held.init (session : Option Session) : (init session).Held := by
  intro i hi
  cases hi

theorem Held.advance (hh : h.Held) (step : Operation → Progress) :
    (h.advance name step).Held := by
  intro i hi other hw
  obtain ⟨j, hj, rfl⟩ := List.mem_map.mp hi
  rw [holder?_advance, Invocation.operation_advance]
  exact hh j hj other (Invocation.waitsAs_of_advance hw)

theorem Held.start (hh : h.Held) : (h.start name op code progress).Held := by
  intro i hi other hw
  cases hg : gate op h.store.get code with
  | error message =>
    rw [holder?_start_of_error hg]
    simp only [History.start, hg, List.mem_append, List.mem_singleton] at hi
    rcases hi with hi | rfl
    · exact hh i hi other hw
    · simp [Invocation.waitsAs, opened, hg] at hw
  | ok session =>
    rw [holder?_start_of_ok hg]
    simp only [History.start, hg, List.mem_append, List.mem_singleton] at hi
    rcases hi with hi | rfl
    · split
      next ho =>
        -- whoever waited under the name was given up
        subst ho
        obtain ⟨j, -, rfl⟩ := List.mem_map.mp hi
        exact absurd hw (Invocation.not_waitsAs_advance fun _ h => by cases h)
      next => simpa using (hh.advance _) i hi other hw
    · obtain ⟨hn, -⟩ := Invocation.waitsAs_iff.mp hw
      exact if_pos hn.symm

end History

/-! ### Twins -/

/-- An invocation but for its number. -/
def Invocation.unnumbered (i : Invocation) : Invocation := { i with number := 0 }

/-- Getting further has nothing to do with the number. -/
theorem Invocation.unnumbered_advance (name : String) (progress : Operation → Progress)
    (i : Invocation) :
    (i.advance name progress).unnumbered = i.unnumbered.advance name progress := by
  have hwaits : i.unnumbered.waitsAs name = i.waitsAs name := rfl
  cases hw : i.waitsAs name with
  | false => rw [advance_of_not_waitsAs hw, advance_of_not_waitsAs (hwaits.trans hw)]
  | true =>
    obtain ⟨hn, session, hf⟩ := waitsAs_iff.mp hw
    rw [advance_of_waitsAs hf hn, advance_of_waitsAs (i := i.unnumbered) hf hn]
    rfl

/-- The name of an invocation was taken over by another operation, and it was given up. Its twin
did not notice and waits on. -/
def Displaced (h : History) (op : Operation) (i i' : Invocation) : Prop :=
  (∃ session, i.fate = .admitted session .abandoned ∧ i'.fate = .admitted session .waiting) ∧
    ∃ o, h.holder? i.name = some o ∧ o ≠ op

/-- Two invocations of an operation that differ in their numbers alone, or would, had no other
operation taken over the name. -/
structure Twin (h : History) (op : Operation) (i i' : Invocation) : Prop where
  /-- The first one is of the operation. -/
  left : i.operation = op
  /-- So is the second one. -/
  right : i'.operation = op
  /-- They have the same name. -/
  name : i'.name = i.name
  /-- They have the same code. -/
  code : i'.code = i.code
  /-- The same has become of them, but for those whose name was taken over. -/
  fate : i'.fate = i.fate ∨ Displaced h op i i'

namespace Twin

variable {h : History} {op : Operation} {i i' : Invocation} {name : String}

theorem unnumbered_eq (t : Twin h op i i') (hf : i'.fate = i.fate) :
    i'.unnumbered = i.unnumbered := by
  simp only [Invocation.unnumbered, t.name, t.left, t.right, t.code, hf]

/-- Who waits and who was given up have both come as far as any. -/
theorem phase_eq (t : Twin h op i i') : i'.phase = i.phase := by
  rcases t.fate with hf | ⟨⟨session, hf, hf'⟩, -⟩
  · simp only [Invocation.phase, hf]
  · simp only [Invocation.phase, hf, hf']

/-- Names may move on, except away from those that keep a twin waiting. -/
theorem congr {h₁ : History} (t : Twin h op i i')
    (hholder : ∀ o, h.holder? i.name = some o → o ≠ op →
      ∃ o', h₁.holder? i.name = some o' ∧ o' ≠ op) : Twin h₁ op i i' := by
  refine ⟨t.left, t.right, t.name, t.code, ?_⟩
  rcases t.fate with hf | ⟨hfates, o, ho, hne⟩
  · exact .inl hf
  · exact .inr ⟨hfates, hholder o ho hne⟩

/-- Under a name that no other operation goes under, the same has become of twins. -/
theorem fate_eq (t : Twin h op i i') (hown : (h.holder? name).all (· == op))
    (hname : i.name = name) : i'.fate = i.fate := by
  rcases t.fate with hf | ⟨-, o, ho, hne⟩
  · exact hf
  · rw [← hname, ho, Option.all_some, beq_iff_eq] at hown
    exact absurd hown hne

theorem waitsAs_eq (t : Twin h op i i') (hown : (h.holder? name).all (· == op)) :
    i'.waitsAs name = i.waitsAs name := by
  by_cases hname : i.name = name
  · simp only [Invocation.waitsAs, t.fate_eq hown hname, t.name]
  · have hnot {j : Invocation} (hj : j.name = i.name) : j.waitsAs name = false :=
      Bool.eq_false_iff.mpr fun hw => hname (hj ▸ (Invocation.waitsAs_iff.mp hw).1)
    rw [hnot t.name, hnot rfl]

/-- Twins of the same fate get further together. -/
theorem advance_of_fate_eq (t : Twin h op i i') (hf : i'.fate = i.fate) (h₁ : History)
    (progress : Operation → Progress) :
    Twin h₁ op (i.advance name progress) (i'.advance name progress) := by
  have heq : (i'.advance name progress).unnumbered = (i.advance name progress).unnumbered := by
    simp only [Invocation.advance, Invocation.unnumbered, hf, t.name, t.left, t.right]
    split
    · split <;> simp only [t.left, t.right, t.code, t.name, hf]
    · simp only [t.left, t.right, t.code, t.name, hf]
  obtain ⟨-, hname, -, hcode, hfate⟩ := Invocation.mk.inj heq
  exact ⟨(Invocation.operation_advance ..).trans t.left,
    (Invocation.operation_advance ..).trans t.right, hname, hcode, .inl hfate⟩

/-- So do all twins, under a name that no other operation goes under. -/
theorem advance (t : Twin h op i i') (hown : (h.holder? name).all (· == op))
    (progress : Operation → Progress) :
    Twin (h.advance name progress) op (i.advance name progress) (i'.advance name progress) := by
  rcases t.fate with hf | ⟨⟨session, hf, -⟩, -⟩
  · exact t.advance_of_fate_eq hf _ progress
  · have hnot : i.waitsAs name = false := by simp only [Invocation.waitsAs, hf]
    rw [Invocation.advance_of_not_waitsAs hnot,
      Invocation.advance_of_not_waitsAs ((t.waitsAs_eq hown).trans hnot)]
    refine t.congr fun o ho hne => ⟨o, ?_, hne⟩
    rwa [History.holder?_advance]

variable {o : Operation} {code : Submission} {session : Session} {progress : Progress}

/-- A new invocation of the operation takes the name from both. -/
theorem start (t : Twin h op i i') (hg : gate op h.store.get code = .ok session) :
    Twin (h.start name op code progress) op (i.advance name fun _ => .abandoned)
      (i'.advance name fun _ => .abandoned) := by
  rcases t.fate with hf | ⟨⟨found, hf, hf'⟩, hholder⟩
  · exact t.advance_of_fate_eq hf _ _
  · have hnot : i.waitsAs name = false := by simp only [Invocation.waitsAs, hf]
    rw [Invocation.advance_of_not_waitsAs hnot]
    by_cases hname : i'.name = name
    · rw [Invocation.advance_of_waitsAs hf' hname]
      exact ⟨t.left, t.right, t.name, t.code, .inl hf.symm⟩
    · have hnot' : i'.waitsAs name = false :=
        Bool.eq_false_iff.mpr fun hw => hname (Invocation.waitsAs_iff.mp hw).1
      rw [Invocation.advance_of_not_waitsAs hnot']
      refine t.congr fun o ho hne => ⟨o, ?_, hne⟩
      rwa [History.holder?_start_of_ok hg, if_neg (by rwa [← t.name])]

/-- A new invocation of another operation takes the name from one of them alone. -/
theorem start_other (t : Twin h op i i') (hg : gate o h.store.get code = .ok session)
    (hne : o ≠ op) :
    Twin (h.start name o code progress) op (i.advance name fun _ => .abandoned) i' := by
  have hholder (o' : Operation) (ho : h.holder? i.name = some o') (hne' : o' ≠ op) :
      ∃ o', (h.start name o code progress).holder? i.name = some o' ∧ o' ≠ op := by
    rw [History.holder?_start_of_ok hg]
    split
    · exact ⟨o, rfl, hne⟩
    · exact ⟨o', ho, hne'⟩
  cases hw : i.waitsAs name with
  | false =>
    rw [Invocation.advance_of_not_waitsAs hw]
    exact t.congr hholder
  | true =>
    obtain ⟨hname, found, hf⟩ := Invocation.waitsAs_iff.mp hw
    have hf' : i'.fate = .admitted found .waiting := by
      rcases t.fate with heq | ⟨⟨found', habandoned, -⟩, -⟩
      · rw [heq, hf]
      · rw [hf] at habandoned
        cases habandoned
    rw [Invocation.advance_of_waitsAs hf hname]
    refine ⟨t.left, t.right, t.name, t.code, .inr ⟨⟨found, rfl, hf'⟩, o, ?_, hne⟩⟩
    rw [History.holder?_start_of_ok hg]
    exact if_pos hname

end Twin

/-! ### The run without the others -/

/-- The history of a run and that of the same run without the other operations. -/
structure Mirrors (op : Operation) (h h' : History) : Prop where
  /-- Whoever signs in or out is in both runs, so the store is the same. -/
  store : h'.store = h.store
  /-- Whoever waits under a name is of the operation that goes under it. -/
  held : h.Held
  /-- Every invocation of the operation has its twin. -/
  twins : List.Forall₂ (Twin h op) (h.invocations.filter (·.operation = op)) h'.invocations

/-- Where two lists match, so do the first members of a kind. -/
theorem find?_map_eq_of_forall₂ {α β : Type} {R : α → α → Prop} {l l' : List α} {p : α → Bool}
    {f : α → β} (hl : List.Forall₂ R l l') (hp : ∀ a b, R a b → p b = p a)
    (hf : ∀ a b, R a b → p a → f b = f a) : (l'.find? p).map f = (l.find? p).map f := by
  induction hl with
  | nil => rfl
  | @cons a b l l' hab _ ih =>
    rw [List.find?_cons, List.find?_cons, hp a b hab]
    split
    next ha => exact congrArg some (hf a b hab ha)
    next => exact ih

namespace History

theorem filter_advance (h : History) (op : Operation) (name : String)
    (progress : Operation → Progress) :
    (h.advance name progress).invocations.filter (·.operation = op) =
      (h.invocations.filter (·.operation = op)).map (Invocation.advance name progress) := by
  simp only [advance, List.filter_map, Function.comp_def, Invocation.operation_advance]

variable {h : History} {op : Operation} {code : Submission}

theorem invocations_start_of_error {message : String}
    (hg : gate op h.store.get code = .error message) (name : String) (progress : Progress) :
    (h.start name op code progress).invocations =
      h.invocations ++ [h.opened name op code progress] := by
  simp only [start, hg]

theorem invocations_start_of_ok {session : Session} (hg : gate op h.store.get code = .ok session)
    (name : String) (progress : Progress) :
    (h.start name op code progress).invocations =
      (h.advance name fun _ => .abandoned).invocations ++ [h.opened name op code progress] := by
  simp only [start, hg]

end History

namespace Mirrors

variable {op : Operation} {h h' : History} {name : String} {o : Operation} {code : Submission}
  {progress : Progress}

theorem init (op : Operation) (session : Option Session) :
    Mirrors op (.init session) (.init session) :=
  ⟨rfl, .init session, .nil⟩

/-- What comes under the operation's own name reaches both. -/
theorem advance (m : Mirrors op h h') (hown : (h.holder? name).all (· == op))
    (step : Operation → Progress) : Mirrors op (h.advance name step) (h'.advance name step) := by
  refine ⟨m.store, m.held.advance step, ?_⟩
  rw [History.filter_advance]
  exact List.forall₂_map_left_iff.mpr
    (List.forall₂_map_right_iff.mpr (m.twins.imp fun _ _ t => t.advance hown step))

/-- What comes under the name of another operation reaches none of this one. -/
theorem advance_other (m : Mirrors op h h') (hown : (h.holder? name).all (· == op) = false)
    (step : Operation → Progress) : Mirrors op (h.advance name step) h' := by
  refine ⟨m.store, m.held.advance step, ?_⟩
  have hid : (h.invocations.filter (·.operation = op)).map (Invocation.advance name step) =
      h.invocations.filter (·.operation = op) := by
    refine (List.map_congr_left fun i hi => ?_).trans (List.map_id' _)
    obtain ⟨hmi, hop⟩ := List.mem_filter.mp hi
    refine Invocation.advance_of_not_waitsAs (Bool.eq_false_iff.mpr fun hw => ?_)
    rw [m.held i hmi name hw, Option.all_some] at hown
    simp only [decide_eq_true_eq] at hop
    exact beq_eq_false_iff_ne.mp hown hop
  rw [History.filter_advance, hid]
  refine m.twins.imp fun i i' t => t.congr fun o ho hne => ⟨o, ?_, hne⟩
  rwa [History.holder?_advance]

/-- The operation is started in both. -/
theorem start (m : Mirrors op h h') :
    Mirrors op (h.start name op code progress) (h'.start name op code progress) := by
  refine ⟨m.store, m.held.start, ?_⟩
  have hnew : Twin (h.start name op code progress) op (h.opened name op code progress)
      (h'.opened name op code progress) :=
    ⟨rfl, rfl, rfl, rfl, .inl (by simp only [History.opened, m.store])⟩
  have hown : [h.opened name op code progress].filter (·.operation = op) =
      [h.opened name op code progress] := by simp [History.opened]
  cases hg : gate op h.store.get code with
  | error message =>
    rw [History.invocations_start_of_error hg, List.filter_append, hown,
      History.invocations_start_of_error (by rwa [m.store])]
    refine List.rel_append (m.twins.imp fun i i' t => ?_) (.cons hnew .nil)
    refine t.congr fun o ho hne => ⟨o, ?_, hne⟩
    rwa [History.holder?_start_of_error hg]
  | ok session =>
    have hg' : gate op h'.store.get code = .ok session := by rwa [m.store]
    rw [History.invocations_start_of_ok hg, List.filter_append, hown,
      History.invocations_start_of_ok hg', History.filter_advance]
    refine List.rel_append ?_ (.cons hnew .nil)
    exact List.forall₂_map_left_iff.mpr
      (List.forall₂_map_right_iff.mpr (m.twins.imp fun _ _ t => t.start hg))

/-- Another operation is started in one of them alone. -/
theorem start_other (m : Mirrors op h h') (hne : o ≠ op) :
    Mirrors op (h.start name o code progress) h' := by
  refine ⟨m.store, m.held.start, ?_⟩
  have hother : [h.opened name o code progress].filter (·.operation = op) = [] := by
    simp [History.opened, hne]
  cases hg : gate o h.store.get code with
  | error message =>
    rw [History.invocations_start_of_error hg, List.filter_append, hother, List.append_nil]
    refine m.twins.imp fun i i' t => t.congr fun o ho hne => ⟨o, ?_, hne⟩
    rwa [History.holder?_start_of_error hg]
  | ok session =>
    rw [History.invocations_start_of_ok hg, List.filter_append, hother, List.append_nil,
      History.filter_advance]
    exact List.forall₂_map_left_iff.mpr (m.twins.imp fun _ _ t => t.start_other hg hne)

/-- What waits under the operation's own name is of the operation, and its twin waits too. -/
theorem waiting? (m : Mirrors op h h') (hown : (h.holder? name).all (· == op)) :
    (h'.waiting? name).map Invocation.unnumbered = (h.waiting? name).map Invocation.unnumbered ∧
      ∀ i, h.waiting? name = some i → i.operation = op := by
  have hop (i : Invocation) (hi : i ∈ h.invocations) (hw : i.waitsAs name) : i.operation = op := by
    rw [m.held i hi name hw, Option.all_some, beq_iff_eq] at hown
    exact hown
  have hfilter : h.waiting? name =
      (h.invocations.filter (·.operation = op)).find? (·.waitsAs name) := by
    rw [List.find?_filter]
    refine List.find?_congr fun i hi => ?_
    cases hw : i.waitsAs name with
    | false => simp
    | true => simp [hop i hi hw]
  refine ⟨?_, fun i hi => ?_⟩
  · rw [hfilter]
    refine find?_map_eq_of_forall₂ m.twins (fun i i' t => t.waitsAs_eq hown) fun i i' t hw => ?_
    exact t.unnumbered_eq (t.fate_eq hown (Invocation.waitsAs_iff.mp hw).1)
  · obtain ⟨hmi, hw⟩ := History.waiting?_spec hi
    exact hop i hmi hw

end Mirrors

/-! ### One step -/

/-- A step that both runs take brings both the same news, of this operation only. -/
structure Kept (op : Operation) (h h' : History) (st : Step) : Prop where
  /-- The runs stay in step. -/
  mirrors : Mirrors op (h.step st) (h'.step st)
  /-- The news are the same. -/
  news : (h'.news st).map Invocation.unnumbered = (h.news st).map Invocation.unnumbered
  /-- They are of this operation. -/
  own : ∀ i ∈ h.news st, i.operation = op

/-- A step that is left out brings news of other operations only. -/
structure Dropped (op : Operation) (h h' : History) (st : Step) : Prop where
  /-- The runs stay in step. -/
  mirrors : Mirrors op (h.step st) h'
  /-- The news are of other operations. -/
  others : ∀ i ∈ h.news st, i.operation ≠ op

namespace Mirrors

variable {op : Operation} {h h' : History} {name : String} {o : Operation} {code : Submission}

theorem kept_start (m : Mirrors op h h') (name : String) (code : Submission) :
    Kept op h h' (.start name op code) where
  mirrors := m.start
  news := by simp only [History.news, List.map_cons, List.map_nil, History.opened,
    Invocation.unnumbered, m.store]
  own := by
    intro i hi
    obtain rfl := List.mem_singleton.mp hi
    rfl

theorem dropped_start (m : Mirrors op h h') (hne : o ≠ op) (name : String) (code : Submission) :
    Dropped op h h' (.start name o code) where
  mirrors := m.start_other hne
  others := by
    intro i hi
    obtain rfl := List.mem_singleton.mp hi
    exact hne

theorem kept_resolve (m : Mirrors op h h') (hown : (h.holder? name).all (· == op))
    (answers : Answers) (handling : Handling) :
    Kept op h h' (.resolve name answers handling) where
  mirrors := m.advance hown _
  news := by
    have hw := congrArg (fun w => (w.map
      (Invocation.advance name fun op => .answered (answers.reply op))).toList) (m.waiting? hown).1
    simp only [Option.map_map, Function.comp_def] at hw
    simp only [History.news, ← Option.toList_map, Option.map_map, Function.comp_def,
      Invocation.unnumbered_advance, hw]
  own := by
    intro i hi
    obtain ⟨j, hw, rfl⟩ := History.mem_news_resolve hi
    rw [Invocation.operation_advance]
    exact (m.waiting? hown).2 j hw

theorem dropped_resolve (m : Mirrors op h h') (hown : (h.holder? name).all (· == op) = false)
    (answers : Answers) (handling : Handling) :
    Dropped op h h' (.resolve name answers handling) where
  mirrors := m.advance_other hown _
  others := by
    intro i hi hop
    obtain ⟨j, hw, rfl⟩ := History.mem_news_resolve hi
    obtain ⟨hmj, hwj⟩ := History.waiting?_spec hw
    rw [Invocation.operation_advance] at hop
    rw [m.held j hmj name hwj, Option.all_some, hop, beq_self_eq_true] at hown
    cases hown

/-- A step of the operation is taken in both runs alike. -/
theorem keep (m : Mirrors op h h') {st : Step} (hst : h.concerns op st) : Kept op h h' st := by
  cases st with
  | start name o code =>
    obtain rfl : o = op := beq_iff_eq.mp hst
    exact m.kept_start name code
  | resolve name answers handling => exact m.kept_resolve hst answers handling
  | run name o code answers handling =>
    obtain rfl : o = op := beq_iff_eq.mp hst
    have hstart := m.kept_start name code
    cases hg : gate o h.store.get code with
    | error message =>
      obtain ⟨hstep, hnews⟩ := History.step_run_of_error hg name answers handling
      have hg' : gate o h'.store.get code = .error message := by rwa [m.store]
      obtain ⟨hstep', hnews'⟩ := History.step_run_of_error hg' name answers handling
      exact ⟨by rw [hstep, hstep']; exact hstart.mirrors, by rw [hnews, hnews']; exact hstart.news,
        by rw [hnews]; exact hstart.own⟩
    | ok session =>
      obtain ⟨hstep, hnews⟩ := History.step_run_of_ok hg name answers handling
      have hg' : gate o h'.store.get code = .ok session := by rwa [m.store]
      obtain ⟨hstep', hnews'⟩ := History.step_run_of_ok hg' name answers handling
      have hown : ((h.step (.start name o code)).holder? name).all (· == o) := by
        rw [History.step, History.holder?_start_of_ok hg, if_pos rfl, Option.all_some,
          beq_self_eq_true]
      have hresolve := hstart.mirrors.kept_resolve hown answers handling
      refine ⟨by rw [hstep, hstep']; exact hresolve.mirrors, ?_, ?_⟩
      · rw [hnews, hnews', List.map_append, List.map_append, hstart.news, hresolve.news]
      · rw [hnews]
        intro i hi
        rcases List.mem_append.mp hi with hi | hi
        · exact hstart.own i hi
        · exact hresolve.own i hi
  | cancel name => exact ⟨m.advance hst _, rfl, List.forall_mem_nil _⟩
  | session session =>
    refine ⟨⟨by simp only [History.step, m.store], m.held, ?_⟩, rfl, List.forall_mem_nil _⟩
    exact m.twins.imp fun _ _ t => t.congr fun o ho hne => ⟨o, ho, hne⟩
  | fault e =>
    refine ⟨⟨by simp only [History.step, m.store], m.held, ?_⟩, rfl, List.forall_mem_nil _⟩
    exact m.twins.imp fun _ _ t => t.congr fun o ho hne => ⟨o, ho, hne⟩

/-- A step of another operation does not matter. -/
theorem drop (m : Mirrors op h h') {st : Step} (hst : h.concerns op st = false) :
    Dropped op h h' st := by
  cases st with
  | start name o code => exact m.dropped_start (beq_eq_false_iff_ne.mp hst) name code
  | resolve name answers handling => exact m.dropped_resolve hst answers handling
  | run name o code answers handling =>
    have hne : o ≠ op := beq_eq_false_iff_ne.mp hst
    have hstart := m.dropped_start hne name code
    cases hg : gate o h.store.get code with
    | error message =>
      obtain ⟨hstep, hnews⟩ := History.step_run_of_error hg name answers handling
      exact ⟨by rw [hstep]; exact hstart.mirrors, by rw [hnews]; exact hstart.others⟩
    | ok session =>
      obtain ⟨hstep, hnews⟩ := History.step_run_of_ok hg name answers handling
      have hown : ((h.step (.start name o code)).holder? name).all (· == op) = false := by
        rw [History.step, History.holder?_start_of_ok hg, if_pos rfl, Option.all_some,
          beq_eq_false_iff_ne.mpr hne]
      have hresolve := hstart.mirrors.dropped_resolve hown answers handling
      refine ⟨by rw [hstep]; exact hresolve.mirrors, ?_⟩
      rw [hnews]
      intro i hi
      rcases List.mem_append.mp hi with hi | hi
      · exact hstart.others i hi
      · exact hresolve.others i hi
  | cancel name => exact ⟨m.advance_other hst _, List.forall_mem_nil _⟩
  | session session => cases hst
  | fault e => cases hst

end Mirrors

/-! ### Whole runs -/

namespace Mirrors

variable {op : Operation} {h h' : History}

/-- The runs stay in step. -/
theorem after (m : Mirrors op h h') (steps : List Step) :
    Mirrors op (h.after steps) (h'.after (h.only op steps)) := by
  induction steps generalizing h h' with
  | nil => exact m
  | cons st steps ih =>
    rw [History.only]
    split
    next hst => exact ih (m.keep hst).mirrors
    next hst => exact ih (m.drop (Bool.eq_false_iff.mpr hst)).mirrors

/-- The news are those of the operation. -/
theorem chronicle (m : Mirrors op h h') (steps : List Step) :
    (h'.chronicle (h.only op steps)).map Invocation.unnumbered =
      ((h.chronicle steps).filter (·.operation = op)).map Invocation.unnumbered := by
  induction steps generalizing h h' with
  | nil => rfl
  | cons st steps ih =>
    rw [History.only, History.chronicle, List.filter_append, List.map_append]
    split
    next hst =>
      have kept := m.keep hst
      have hown : (h.news st).filter (·.operation = op) = h.news st :=
        List.filter_eq_self.mpr fun i hi => decide_eq_true (kept.own i hi)
      rw [History.chronicle, List.map_append, ih kept.mirrors, kept.news, hown]
    next hst =>
      have dropped := m.drop (Bool.eq_false_iff.mpr hst)
      have hothers : (h.news st).filter (·.operation = op) = [] :=
        List.filter_eq_nil_iff.mpr fun i hi => by simpa using dropped.others i hi
      rw [ih dropped.mirrors, hothers]
      rfl

/-- The last invocation of the operation has come as far. -/
theorem phase_mostRecentOf? (m : Mirrors op h h') :
    (h'.mostRecentOf? op).map Invocation.phase = (h.mostRecentOf? op).map Invocation.phase := by
  have hright : ∀ i' ∈ h'.invocations, i'.operation = op :=
    ((List.forall₂_and_left _ _).mp (m.twins.flip.imp fun _ _ t => ⟨t.right, t⟩)).1
  have hall : h'.invocations.filter (·.operation = op) = h'.invocations :=
    List.filter_eq_self.mpr fun i' hi => decide_eq_true (hright i' hi)
  have hphase : (h.invocations.filter (·.operation = op)).map Invocation.phase =
      h'.invocations.map Invocation.phase := by
    rw [← List.forall₂_eq_eq_eq]
    exact List.forall₂_map_left_iff.mpr
      (List.forall₂_map_right_iff.mpr (m.twins.imp fun _ _ t => t.phase_eq.symm))
  rw [History.mostRecentOf?, History.mostRecentOf?, hall, ← List.getLast?_map, ← List.getLast?_map,
    hphase]

end Mirrors

theorem State.reports_cons (s : State) (st : Step) (steps : List Step) :
    s.reports (st :: steps) = (s.step st).2.toList ++ (s.step st).1.reports steps := by
  rw [reports, run, List.filterMap_cons]
  cases hr : (s.step st).2 <;> rfl

/-- A report is one of the operation whose invocation has ended. -/
theorem Agrees.operation_of_report {h : History} {s : State} (a : Agrees h s) {st : Step}
    {report : Report} (hr : (s.step st).2 = some report) :
    ∃ i ∈ h.news st, report.operation = i.operation := by
  rw [a.report_step] at hr
  obtain ⟨i, hi, rfl⟩ := Option.map_eq_some_iff.mp hr
  exact ⟨i, List.mem_of_find?_eq_some hi, rfl⟩

/-- Where both runs take a step, the same is reported in it. -/
theorem Kept.summary {op : Operation} {h h' : History} {s s' : State} {st : Step}
    (k : Kept op h h' st) (a : Agrees h s) (a' : Agrees h' s') :
    (s'.step st).2.map Report.summary = (s.step st).2.map Report.summary := by
  have hsummary {h : History} {s : State} (a : Agrees h s) : (s.step st).2.map Report.summary =
      (((h.news st).map Invocation.unnumbered).find? Invocation.isOver).map
        fun i => (i.report true st).summary := by
    rw [a.report_step, List.find?_map, Option.map_map, Option.map_map]
    rfl
  rw [hsummary a, hsummary a', k.news]

/-- The reports are those of the operation. -/
theorem Mirrors.reports {op : Operation} {h h' : History} {s s' : State} (m : Mirrors op h h')
    (a : Agrees h s) (a' : Agrees h' s') (steps : List Step) :
    (s'.reports (h.only op steps)).map Report.summary =
      ((s.reports steps).filter (·.operation = op)).map Report.summary := by
  induction steps generalizing h h' s s' with
  | nil => rfl
  | cons st steps ih =>
    rw [History.only, State.reports_cons, List.filter_append, List.map_append]
    split
    next hst =>
      have kept := m.keep hst
      have hown : (s.step st).2.toList.filter (·.operation = op) = (s.step st).2.toList := by
        refine List.filter_eq_self.mpr fun report hr => ?_
        obtain ⟨i, hi, hop⟩ := a.operation_of_report (Option.mem_toList.mp hr)
        exact decide_eq_true (hop.trans (kept.own i hi))
      rw [State.reports_cons, List.map_append, ih kept.mirrors (a.step st) (a'.step st), hown,
        ← Option.toList_map, ← Option.toList_map, kept.summary a a']
    next hst =>
      have dropped := m.drop (Bool.eq_false_iff.mpr hst)
      have hothers : (s.step st).2.toList.filter (·.operation = op) = [] := by
        refine List.filter_eq_nil_iff.mpr fun report hr => ?_
        obtain ⟨i, hi, hop⟩ := a.operation_of_report (Option.mem_toList.mp hr)
        simpa [hop] using dropped.others i hi
      rw [ih dropped.mirrors (a.step st) a', hothers]
      rfl

/-! ### Calls -/

/-- The call of an operation belongs to it. -/
theorem Call.operation_ofOperation (op : Operation) (user : Identifier) (code : Submission) :
    (ofOperation op user code).operation = op := by
  cases op <;> rfl

/-- An answer is one to the operation: only a compilation can be told that its code is valid. -/
def Invocation.Plausible (i : Invocation) : Prop :=
  ∀ session reply, i.fate = .admitted session (.answered reply) → isValid reply →
    i.operation = .compile

/-- The number of an invocation does not show in its call. -/
theorem Invocation.call?_unnumbered (i : Invocation) : i.unnumbered.call? = i.call? := by
  unfold call? registration? beginning Beginning.request? unnumbered
  cases i.fate with
  | refused message => rfl
  | admitted session progress => cases progress <;> rfl

/-- The call that an invocation brings with it belongs to its operation. -/
theorem Invocation.Plausible.operation_of_call? {i : Invocation} (hi : i.Plausible) {c : Call}
    (hc : i.call? = some c) : c.operation = i.operation := by
  unfold Invocation.call? at hc
  split at hc
  next session reply hf =>
    simp only [Invocation.registration?, hf, Option.ite_none_right_eq_some,
      Option.some.injEq] at hc
    obtain ⟨hv, rfl⟩ := hc
    exact (hi session reply hf hv).symm
  next =>
    unfold Beginning.request? at hc
    split at hc
    · cases hc
    · obtain rfl := Option.some.inj hc
      exact Call.operation_ofOperation ..

namespace History

/-- All answers that come in a step are to the operation that they reach. -/
theorem plausible_of_mem_news {h : History} {st : Step} {i : Invocation} (hi : i ∈ h.news st) :
    i.Plausible := by
  have hreply {op : Operation} {answers : Answers} (hv : isValid (answers.reply op)) :
      op = .compile := by
    rw [isValid_reply, Bool.and_eq_true, beq_iff_eq] at hv
    exact hv.1
  have hstart {h : History} {name : String} {op : Operation} {code : Submission}
      (hi : i ∈ h.news (.start name op code)) : i.Plausible := by
    obtain rfl := List.mem_singleton.mp hi
    intro session reply hf
    cases hg : gate op h.store.get code <;> simp [opened, hg] at hf
  have hresolve {h : History} {name : String} {answers : Answers} {handling : Handling}
      (hi : i ∈ h.news (.resolve name answers handling)) : i.Plausible := by
    obtain ⟨j, hw, rfl⟩ := mem_news_resolve hi
    obtain ⟨hn, session, hf⟩ := Invocation.waitsAs_iff.mp (waiting?_spec hw).2
    rw [Invocation.advance_of_waitsAs hf hn]
    intro session' reply hf' hv
    cases hf'
    exact hreply hv
  cases st with
  | start => exact hstart hi
  | resolve => exact hresolve hi
  | run name op code answers handling =>
    cases hg : gate op h.store.get code with
    | error message =>
      rw [(step_run_of_error hg name answers handling).2] at hi
      exact hstart hi
    | ok session =>
      rw [(step_run_of_ok hg name answers handling).2] at hi
      rcases List.mem_append.mp hi with hi | hi
      · exact hstart hi
      · exact hresolve hi
  | cancel | session | fault => cases hi

theorem plausible_of_mem_chronicle {h : History} {steps : List Step} {i : Invocation}
    (hi : i ∈ h.chronicle steps) : i.Plausible := by
  induction steps generalizing h with
  | nil => cases hi
  | cons st steps ih =>
    rcases List.mem_append.mp hi with hi | hi
    · exact plausible_of_mem_news hi
    · exact ih hi

end History

/-- The calls that belong to an operation are those that its own news bring. -/
theorem filter_calls {news : List Invocation} (hnews : ∀ i ∈ news, i.Plausible)
    (op : Operation) :
    (news.filterMap Invocation.call?).filter (·.operation = op) =
      (news.filter (·.operation = op)).filterMap Invocation.call? := by
  rw [List.filter_filterMap, List.filterMap_filter]
  refine List.filterMap_congr fun i hi => ?_
  cases hc : i.call? with
  | none => simp
  | some c => simp [(hnews i hi).operation_of_call? hc, Option.filter_some]

/-! ### The theorem -/

/-- **Operations keep apart.** If all steps of the other operations are left out of a run, then an
operation comes as far as before, it makes the same calls, and its invocations are reported to
have ended in the same ways. This is so under either policy. -/
theorem operations_keep_apart (policy : Policy) (session : Option Session) (steps : List Step)
    (op : Operation) :
    let s := State.init policy session
    let own := (History.init session).only op steps
    (s.after own).desk.board.phase op = (s.after steps).desk.board.phase op ∧
      (s.after own).desk.calls = (s.after steps).desk.calls.filter (·.operation = op) ∧
      (s.reports own).map Report.summary =
        ((s.reports steps).filter (·.operation = op)).map Report.summary := by
  intro s own
  have m : Mirrors op (.init session) (.init session) := .init op session
  have hchronicle := m.chronicle steps
  refine ⟨?_, ?_, m.reports (.init policy session) (.init policy session) steps⟩
  · cases policy with
    | lastArrival =>
      have hphases (news : List Invocation) :
          (news.filter (·.operation = op)).map Invocation.phase =
            ((news.map Invocation.unnumbered).filter (·.operation = op)).map Invocation.phase := by
        rw [List.filter_map, List.map_map]
        rfl
      rw [phase_after_of_lastArrival, phase_after_of_lastArrival, ← List.getLast?_map,
        ← List.getLast?_map, hphases, hchronicle, ← hphases, List.filter_filter]
      simp only [Bool.and_self]
    | latestInvocation =>
      rw [(Owned.after session own).phase, (Owned.after session steps).phase,
        (m.after steps).phase_mostRecentOf?]
  · have hcalls (news : List Invocation) : news.filterMap Invocation.call? =
        (news.map Invocation.unnumbered).filterMap Invocation.call? := by
      simp only [List.filterMap_map, Function.comp_def, Invocation.call?_unnumbered]
    rw [calls_after, calls_after, filter_calls fun _ => History.plausible_of_mem_chronicle,
      hcalls, hchronicle, ← hcalls]

end Workbench.Workflow
