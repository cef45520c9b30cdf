import Workbench.Proofs.Account.Navigation

/-!
# What the page says

Two things are on the page at any time: a form with its title, and a line of status. The form is
the one that the user has turned to last, whatever attempts have come to in the meantime. The line
of status is the last one that was set, and what is said can be told from the steps alone: the
words of the backend, the fault of the store, or that a form was not filled in.

* `Page.Turned` — all that a step may change of the form, the title and the line of status.
* `Tracks.turned_step` — a step changes them as the steps so far tell.
* `page_follows_steps` — so a run ends with the form and the title that the user has turned to
  last, and with the last line that was set.
-/

namespace Workbench.Account

open Workbench.Session (Memory)

/-! ### What the steps say -/

/-- The form that the user turns to in a step. -/
def Step.turn? : Step → Option Form
  | .toggle form => some form
  | _ => none

/-- The form that the user has turned to last. -/
def lastTurn? (steps : List Step) : Option Form := (steps.filterMap Step.turn?).getLast?

/-- Whether a form is sent off in a step that was not filled in. -/
def Step.isIncomplete (st : Step) : Bool := st.form?.isSome && st.sending?.isNone

namespace Log

/-- What is said about the reply to an attempt; nothing if it leads to a session. -/
def remark? (l : Log) : Reply → Option String
  | .ok .accepted => l.faults.set.map fun e => "Unable to save session: " ++ e.message
  | .ok (.rejected reason) => some (reason.getD genericFailure)
  | .error e => some ("Network error: " ++ e.message)

/-- The line of status that a step sets, if it sets one: a message, or that there is none. -/
def line? (l : Log) : Step → Option (Option String)
  | .toggle _ => some none
  | .signOut => if l.faults.clear = none then some (some signedOutStatus) else none
  | st =>
    if st.isIncomplete then some (some allFieldsRequired)
    else (l.delivery? st).bind fun d => (l.remark? d.2).map some

/-- The lines of status that the steps of a run set, in their order. -/
def lines (l : Log) : List Step → List (Option String)
  | [] => []
  | st :: steps => (l.line? st).toList ++ (l.step st).lines steps

theorem lines_concat (l : Log) (steps : List Step) (st : Step) :
    l.lines (steps ++ [st]) = l.lines steps ++ ((l.after steps).line? st).toList := by
  induction steps generalizing l with
  | nil => simp [lines, after]
  | cons first steps ih =>
    rw [List.cons_append, lines, ih, lines, List.append_assoc]
    rfl

end Log

theorem lastTurn?_concat (steps : List Step) (st : Step) :
    lastTurn? (steps ++ [st]) = st.turn?.or (lastTurn? steps) := by
  rw [lastTurn?, List.filterMap_append, List.getLast?_append]
  cases st <;> rfl

/-! ### One step -/

/-- From one page to the next: the user has turned to a form, or not, and a line of status was
set, or not. -/
structure Page.Turned (turn : Option Form) (line : Option (Option String)) (p p' : Page) :
    Prop where
  /-- The form is the one that was turned to. -/
  form : p'.form = turn.or p.form
  /-- And the title is that of the form. -/
  title : p'.title = (turn.map Form.title).or p.title
  /-- The line of status is the one that was set. -/
  status : p'.status = line.getD p.status

theorem Page.Turned.refl (p : Page) : p.Turned none none p := ⟨rfl, rfl, rfl⟩

namespace Tracks

variable {l : Log} {s : State}

/-- The end of an attempt shows in the line of status, and nowhere else unless there is a session.
-/
theorem turned_complete (t : Tracks l s) (a : Attempt) (reply : Reply) :
    s.page.Turned none ((l.remark? reply).map some) (s.complete a reply).1.page := by
  cases reply with
  | error e => exact ⟨rfl, rfl, rfl⟩
  | ok verdict =>
    cases verdict with
    | rejected reason => exact ⟨rfl, rfl, rfl⟩
    | accepted =>
      have hset : SessionStore.set ⟨a.user⟩ s.store = s.store.set ⟨a.user⟩ := rfl
      simp only [State.complete, Account.complete, establish, hset, Log.remark?, ← t.faults]
      by_cases hsound : s.store.faults.set = none
      · rw [set_of_sound hsound, hsound]
        exact ⟨rfl, rfl, rfl⟩
      · obtain ⟨e, he⟩ := Option.ne_none_iff_exists'.mp hsound
        rw [Memory.set, he]
        exact ⟨rfl, rfl, rfl⟩

/-- Signing out is told on the page once it is done. -/
theorem turned_signOut (t : Tracks l s) :
    s.page.Turned none (l.line? .signOut) (s.step .signOut).1.page := by
  have hclear : SessionStore.clear s.store = s.store.clear := rfl
  simp only [State.step, Account.signOut, hclear, Log.line?, ← t.faults]
  by_cases hsound : s.store.faults.clear = none
  · rw [Memory.clear, hsound, if_pos rfl]
    exact ⟨rfl, rfl, rfl⟩
  · obtain ⟨e, he⟩ := Option.ne_none_iff_exists'.mp hsound
    rw [Memory.clear, he, if_neg (Option.some_ne_none e)]
    exact .refl _

/-- A step changes the form, the title and the line of status as the steps so far tell. -/
theorem turned_step (t : Tracks l s) (st : Step) :
    s.page.Turned st.turn? (l.line? st) (s.step st).1.page := by
  cases hform : st.form? with
  | some form =>
    have hturn : st.turn? = none := by cases st <;> first | rfl | cases hform
    have hline : l.line? st = if st.sending?.isNone then some (some allFieldsRequired)
        else (l.delivery? st).bind fun d => (l.remark? d.2).map some := by
      cases st with
      | signUp | signIn => rfl
      | _ => cases hform
    rw [hturn, hline]
    rcases s.step_form hform with ⟨hsend, hstep, -⟩ | ⟨f, user, calls, hsend, hstep, -⟩
    · rw [hstep, hsend, Option.isNone_none, if_pos rfl]
      exact ⟨rfl, rfl, rfl⟩
    · have hdelivery : l.delivery? st = f.reply.map (f.email, ·) := by
        cases st with
        | signUp | signIn => simp only [Log.delivery?, hsend, Option.bind_some]
        | _ => cases hform
      rw [hstep, hsend, hdelivery, Option.isNone_some, if_neg Bool.false_ne_true]
      cases f.reply with
      | none => exact .refl _
      | some reply => exact t.turned_complete ⟨form, user⟩ reply
  | none =>
    cases st with
    | signUp | signIn => cases hform
    | resolve name reply =>
      have hdelivery : l.line? (.resolve name reply) =
          (l.email? name).bind fun _ => (l.remark? reply).map some := Option.bind_map ..
      have hfind := congrArg Option.isSome (t.waiting name)
      rw [Option.isSome_map, Option.isSome_map] at hfind
      rw [hdelivery]
      simp only [State.step, State.observed, State.resolve]
      cases ha : s.find? name with
      | none =>
        rw [ha, Option.isSome_none, eq_comm, Option.isSome_eq_false_iff, Option.isNone_iff_eq_none]
          at hfind
        rw [hfind]
        exact .refl _
      | some a =>
        rw [ha, Option.isSome_some, eq_comm, Option.isSome_iff_exists] at hfind
        obtain ⟨email, hemail⟩ := hfind
        rw [hemail]
        exact (t.forget name).turned_complete a reply
    | signOut => exact t.turned_signOut
    | toggle form => exact ⟨rfl, rfl, rfl⟩
    | cancel | session | fault => exact .refl _

end Tracks

/-! ### Runs -/

/-- After a run the page is the one that the last turn and the last line have left. -/
theorem turned_after (session : Option Session) (steps : List Step) :
    Page.empty.Turned (lastTurn? steps) (Log.start.lines steps).getLast?
      ((State.init session).after steps).page := by
  induction steps using List.reverseRecOn with
  | nil => exact .refl _
  | append_singleton steps st ih =>
    obtain ⟨hform, htitle, hstatus⟩ := (tracks_after session steps).turned_step st
    rw [State.after_concat, lastTurn?_concat, Log.lines_concat, List.getLast?_append]
    constructor
    · rw [hform, ih.form, Option.or_assoc]
    · rw [htitle, ih.title, Option.map_or, Option.or_assoc]
    · rw [hstatus, ih.status]
      cases (Log.start.after steps).line? st <;> rfl

/-- **The page follows the steps.** After any run, with any number of attempts under way, the form
and the title are those that the user has turned to last, and there are none before that. The line
of status is the last one that was set: turning to a form removes it; a form that was not filled
in, a reply that does not lead to a session and signing out, once it is done, set it; and nothing
else does. The same is so of every single step, so that a form, its title and the line stay what
they were wherever nothing is said of them; and turning to a form twice is turning to it once. -/
theorem page_follows_steps (session : Option Session) (steps : List Step) :
    let s := (State.init session).after steps
    let l := Log.start.after steps
    (s.page.form = lastTurn? steps ∧ s.page.title = (lastTurn? steps).map Form.title ∧
        s.page.status = (Log.start.lines steps).getLast?.join) ∧
      ((∀ found, (s.store.set found).1 = l.faults.set.elim (.ok ()) .error) ∧
        s.store.clear.1 = l.faults.clear.elim (.ok ()) .error) ∧
      (∀ st, s.page.Turned st.turn? (l.line? st) (s.step st).1.page) ∧
      ∀ form, ((s.step (.toggle form)).1.step (.toggle form)).1 = (s.step (.toggle form)).1 := by
  intro s l
  have t : Tracks l s := tracks_after session steps
  have hpage : Page.empty.Turned _ _ s.page := turned_after session steps
  refine ⟨⟨?_, ?_, ?_⟩, ⟨fun found => ?_, ?_⟩, t.turned_step, fun _ => rfl⟩
  · rw [hpage.form]
    exact Option.or_none
  · rw [hpage.title]
    exact Option.or_none
  · rw [hpage.status]
    cases (Log.start.lines steps).getLast? <;> rfl
  · rw [← t.faults, Memory.set]
    cases s.store.faults.set <;> rfl
  · rw [← t.faults, Memory.clear]
    cases s.store.faults.clear <;> rfl

/-- The reply to an attempt comes when the user has turned to the other form. -/
example :
    let s := (State.init none).after [.toggle .signUp, .signUp "a" "n" "x" "p" none,
      .toggle .signIn, .resolve "a" (.ok (.rejected none))]
    s.page.title = some "Sign In" ∧ s.page.status = some "Request failed" := by
  decide +kernel

end Workbench.Account
