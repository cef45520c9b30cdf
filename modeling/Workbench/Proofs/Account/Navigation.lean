import Mathlib.Data.List.Induction
import Workbench.Proofs.Account.SessionWrites

/-!
# Who is taken where

A user is taken to the dashboard when an attempt has led to a session, and to the page with the
forms after signing out, and never otherwise. This needs the order in which the client acts: the
session must be kept before the user hears of it. So what the client does in a step is told once
more, act by act, and performing these acts is what the step does.

* `State.step_eq_outcome` — the acts of the client, one after another, come to what it does at
  once.
* `Shows` — all that can be seen of a step, and `State.shows_step`, that nothing else is seen.
* `visits_follow_results` — the visits and notices of a run are as many as its results ask for,
  and whoever comes to the dashboard finds the session kept.
-/

namespace Workbench.Account

open Workbench.Session (Memory Faults)

/-! ### One act after another -/

/-- What the client does, one act after another. -/
inductive Acts (α : Type) where
  /-- It has come to its end. -/
  | done (result : α)
  /-- It keeps a session, and goes on as the store answers. -/
  | keep (session : Session) (next : Except StoreError Unit → Acts α)
  /-- It removes the session, and goes on as the store answers. -/
  | remove (next : Except StoreError Unit → Acts α)
  /-- It lets something happen to the page. -/
  | emit (event : Event) (next : Acts α)

namespace Acts

variable {α β σ : Type}

/-- The same acts, with another result. -/
def map (f : α → β) : Acts α → Acts β
  | done result => .done (f result)
  | keep session next => .keep session fun answer => (next answer).map f
  | remove next => .remove fun answer => (next answer).map f
  | emit event next => .emit event (next.map f)

/-- Performs the acts: the result, the events, each with the store as it is when the event
happens, and the store in the end. -/
def perform [SessionStore σ] : Acts α → σ → α × List (Event × σ) × σ
  | done result, store => (result, [], store)
  | keep session next, store =>
    let (answer, store) := SessionStore.set session store
    (next answer).perform store
  | remove next, store =>
    let (answer, store) := SessionStore.clear store
    (next answer).perform store
  | emit event next, store =>
    let (result, moments, last) := next.perform store
    (result, (event, store) :: moments, last)

theorem perform_map [SessionStore σ] (f : α → β) (acts : Acts α) (store : σ) :
    (acts.map f).perform store = (f (acts.perform store).1, (acts.perform store).2) := by
  induction acts generalizing store with
  | done result => rfl
  | keep session next ih => exact ih _ _
  | remove next ih => exact ih _ _
  | emit event next ih => simp only [map, perform, ih]

end Acts

/-- An attempt is rejected with a line of status. -/
def rejecting (message : String) : Acts AttemptResult :=
  .emit (.showStatus message) (.done .rejected)

/-- The session comes first, then the notice, then the dashboard. -/
def establishing (form : Form) (user : Identifier) : Acts AttemptResult :=
  .keep ⟨user⟩ fun
    | .ok () =>
      .emit (.notify form.notice) (.emit (.navigate .dashboard) (.done (.signedIn ⟨user⟩)))
    | .error e => rejecting ("Unable to save session: " ++ e.message)

/-- The end of an attempt. -/
def completing (form : Form) (user : Identifier) : Reply → Acts AttemptResult
  | .ok .accepted => establishing form user
  | .ok (.rejected reason) => rejecting (reason.getD genericFailure)
  | .error e => rejecting ("Network error: " ++ e.message)

/-- Signing out: the page is told only once the session is removed. -/
def signingOut : Acts (Except StoreError Unit) :=
  .remove fun
    | .ok () => .emit (.showStatus signedOutStatus) (.emit (.navigate .landing) (.done (.ok ())))
    | .error e => .done (.error e)

section

variable {σ : Type} [SessionStore σ]

/-- What the acts come to when nobody asks for the order in which they were done. -/
def Acts.outcome {α : Type} (acts : Acts α) (store : σ) : α × List Event × σ :=
  ((acts.perform store).1, (acts.perform store).2.1.map Prod.fst, (acts.perform store).2.2)

theorem complete_eq_outcome (form : Form) (user : Identifier) (reply : Reply) (store : σ) :
    complete form user reply store = (completing form user reply).outcome store := by
  cases reply with
  | error e => rfl
  | ok verdict =>
    cases verdict with
    | rejected reason => rfl
    | accepted =>
      simp only [completing, establishing, Acts.outcome, Acts.perform, complete, establish]
      rcases SessionStore.set ⟨user⟩ store with ⟨_ | _, last⟩ <;> rfl

theorem signOut_eq_outcome (store : σ) : signOut store = signingOut.outcome store := by
  simp only [signingOut, Acts.outcome, Acts.perform, signOut]
  rcases SessionStore.clear store with ⟨_ | _, last⟩ <;> rfl

end

/-! ### The acts of a step -/

/-- The end of an attempt, as a step reports it. -/
def reporting (acts : Acts AttemptResult) : Acts (Option Result) := acts.map (some ∘ .ofAttempt)

/-- What signing out comes to. -/
def Result.ofSignOut : Except StoreError Unit → Result
  | .ok () => .signedOut
  | .error e => .failed e

namespace State

/-- What the client does in a step, and what the step comes to. -/
def acts (s : State) : Step → Acts (Option Result)
  | .signUp _ user email password reply =>
    match SignUp.ofForm user email password with
    | .error _ => reporting (rejecting allFieldsRequired)
    | .ok c => reply.elim (.done none) fun reply => reporting (completing .signUp c.email reply)
  | .signIn _ email password reply =>
    match SignIn.ofForm email password with
    | .error _ => reporting (rejecting allFieldsRequired)
    | .ok c => reply.elim (.done none) fun reply => reporting (completing .signIn c.email reply)
  | .resolve name reply =>
    (s.find? name).elim (.done none) fun a => reporting (completing a.form a.user reply)
  | .signOut => signingOut.map (some ∘ .ofSignOut)
  | .toggle form =>
    .emit .clearStatus (.emit (.setTitle form.title) (.emit (.showForm form) (.done none)))
  | .cancel _ | .session _ | .fault _ => .done none

/-- The store as the client finds it in a step: someone else may have changed it. -/
def found (s : State) : Step → Memory
  | .session session => { s.store with current := session }
  | .fault faults => { s.store with faults := faults }
  | _ => s.store

/-- What happens to the page in a step, each time with the store as it is at that moment. -/
def moments (s : State) (st : Step) : List (Event × Memory) :=
  ((s.acts st).perform (s.found st)).2.1

end State

/-! ### One step -/

/-- The form that a step is about to send off, filled in or not. -/
def Step.form? : Step → Option Form
  | .signUp .. => some .signUp
  | .signIn .. => some .signIn
  | _ => none

namespace State

variable (s : State)

/-- The two forms are treated alike: one with a blank field is refused, and any other is sent
off. -/
theorem step_form {st : Step} {form : Form} (hform : st.form? = some form) :
    st.sending? = none ∧ s.step st = observed [] s.refuse ∧
        s.acts st = reporting (rejecting allFieldsRequired) ∨
      ∃ f user calls, st.sending? = some f ∧
        s.step st = observed calls (s.send f.name ⟨form, user⟩ f.reply) ∧
        s.acts st = f.reply.elim (.done none) fun reply =>
          reporting (completing form user reply) := by
  cases st with
  | signUp name user email password reply =>
    obtain rfl := Option.some.inj hform
    rcases SignUp.ofForm_cases user email password with ⟨hblank, _, h⟩ | ⟨hfilled, c, h, -⟩
    · exact .inl ⟨if_pos hblank, by rw [step, h], by rw [acts, h]⟩
    · have hsend : (Step.signUp name user email password reply).sending? =
          some ⟨name, email, reply⟩ := if_neg (by rw [hfilled]; exact Bool.false_ne_true)
      exact .inr ⟨_, c.email, [.signUp c], hsend, by rw [step, h], by rw [acts, h]⟩
  | signIn name email password reply =>
    obtain rfl := Option.some.inj hform
    rcases SignIn.ofForm_cases email password with ⟨hblank, _, h⟩ | ⟨hfilled, c, h, -⟩
    · exact .inl ⟨if_pos hblank, by rw [step, h], by rw [acts, h]⟩
    · have hsend : (Step.signIn name email password reply).sending? =
          some ⟨name, email, reply⟩ := if_neg (by rw [hfilled]; exact Bool.false_ne_true)
      exact .inr ⟨_, c.email, [.signIn c], hsend, by rw [step, h], by rw [acts, h]⟩
  | resolve | cancel | signOut | toggle | session | fault => cases hform

theorem complete_eq_outcome (a : Attempt) (reply : Reply) :
    ((s.complete a reply).2.1, (s.complete a reply).2.2, (s.complete a reply).1.store) =
      (reporting (completing a.form a.user reply)).outcome s.store := by
  simp only [complete, Account.complete_eq_outcome, reporting, Acts.outcome, Acts.perform_map]
  rfl

/-- **The acts of a step, one after another, come to what the step does at once.** -/
theorem step_eq_outcome (st : Step) :
    ((s.step st).2.result, (s.step st).2.events, (s.step st).1.store) =
      (s.acts st).outcome (s.found st) := by
  cases hform : st.form? with
  | some form =>
    have hfound : s.found st = s.store := by
      cases st <;> first | rfl | cases hform
    rw [hfound]
    rcases s.step_form hform with ⟨-, hstep, hacts⟩ | ⟨f, user, calls, -, hstep, hacts⟩
    · rw [hstep, hacts]
      rfl
    · rw [hstep, hacts]
      cases f.reply with
      | none => rfl
      | some reply => exact s.complete_eq_outcome ⟨form, user⟩ reply
  | none =>
    cases st with
    | signUp | signIn => cases hform
    | resolve name reply =>
      simp only [step, acts, resolve]
      cases s.find? name with
      | none => rfl
      | some a => exact complete_eq_outcome { s with waiting := s.without name } a reply
    | signOut =>
      simp only [step, acts, Account.signOut_eq_outcome, Acts.outcome, Acts.perform_map]
      rfl
    | toggle | cancel | session | fault => rfl

/-- The page is what the events make of it. -/
theorem page_step (st : Step) :
    (s.step st).1.page = s.page.applyAll (s.step st).2.events := by
  cases hform : st.form? with
  | some form =>
    rcases s.step_form hform with ⟨-, hstep, -⟩ | ⟨f, user, calls, -, hstep, -⟩
    · rw [hstep]
      rfl
    · rw [hstep]
      cases f.reply <;> rfl
  | none =>
    cases st with
    | signUp | signIn => cases hform
    | resolve name reply =>
      simp only [step, resolve]
      cases s.find? name <;> rfl
    | signOut | toggle | cancel | session | fault => rfl

end State

/-! ### Which form an attempt belongs to -/

/-- The forms of the attempts under way, by name, after one more step. -/
def Step.forms (forms : String → Option Form) : Step → String → Option Form
  | .resolve name _, other => if name = other then none else forms other
  | .cancel name, other => if name = other then none else forms other
  | st, other =>
    match st.sending? with
    | some ⟨name, _, none⟩ => if name = other then st.form? else forms other
    | _ => forms other

/-- The forms of the attempts under way, by name, as the steps so far tell. -/
def underWay (steps : List Step) : String → Option Form := steps.foldl Step.forms fun _ => none

/-- The form of the attempt that a step brings to its end, as the steps before it tell: the one of
the attempt that is replied to, or the one that is sent off and replied to or refused at once. -/
def ending? (steps : List Step) : Step → Option Form
  | .resolve name _ => underWay steps name
  | st =>
    match st.sending? with
    | some ⟨_, _, none⟩ => none
    | _ => st.form?

theorem underWay_concat (steps : List Step) (st : Step) :
    underWay (steps ++ [st]) = st.forms (underWay steps) := by
  simp only [underWay, List.foldl_append, List.foldl_cons, List.foldl_nil]

section

variable {st : Step} {form : Form}

theorem ending?_of_refused (steps : List Step) (hform : st.form? = some form)
    (h : st.sending? = none) : ending? steps st = some form := by
  cases st with
  | signUp | signIn => simp only [ending?, h, hform]
  | _ => cases hform

theorem ending?_of_sent (steps : List Step) (hform : st.form? = some form) {f : Sending}
    (h : st.sending? = some f) :
    ending? steps st = if f.reply.isSome then some form else none := by
  obtain ⟨name, email, _ | reply⟩ := f <;> cases st with
  | signUp | signIn => simp [ending?, h, hform]
  | _ => cases hform

theorem forms_of_refused (forms : String → Option Form) (hform : st.form? = some form)
    (h : st.sending? = none) : st.forms forms = forms := by
  funext other
  cases st with
  | signUp | signIn => simp only [Step.forms, h]
  | _ => cases hform

theorem forms_of_sent (forms : String → Option Form) (hform : st.form? = some form) {f : Sending}
    (h : st.sending? = some f) (other : String) :
    st.forms forms other =
      if f.reply.isNone ∧ f.name = other then some form else forms other := by
  obtain ⟨name, email, _ | reply⟩ := f <;> cases st with
  | signUp | signIn => simp [Step.forms, h, hform]
  | _ => cases hform

end

namespace State

variable {s : State}

/-- Where the attempts under way have the forms that the steps tell, a step leaves it so. -/
theorem forms_step {forms : String → Option Form}
    (h : ∀ name, (s.find? name).map (·.form) = forms name) (st : Step) (name : String) :
    ((s.step st).1.find? name).map (·.form) = st.forms forms name := by
  have hforget (ended : String) :
      (({ s with waiting := s.without ended } : State).find? name).map (·.form) =
        if ended = name then none else forms name := by
    rw [find?_without, apply_ite (Option.map _), h, Option.map_none]
  cases hform : st.form? with
  | some form =>
    rcases s.step_form hform with ⟨hsend, hstep, -⟩ | ⟨f, user, calls, hsend, hstep, -⟩
    · rw [hstep, forms_of_refused forms hform hsend]
      exact h name
    · rw [hstep, forms_of_sent forms hform hsend]
      cases f.reply with
      | some reply => exact h name
      | none =>
        simp only [observed, find?_send, Option.isNone_none, true_and]
        rw [apply_ite (Option.map _), h, Option.map_some]
  | none =>
    cases st with
    | signUp | signIn => cases hform
    | resolve ended reply =>
      simp only [step, observed, resolve, Step.forms]
      cases ha : s.find? ended with
      | none =>
        by_cases hname : ended = name
        · rw [if_pos hname, ← hname, ha, Option.map_none]
        · rw [if_neg hname]
          exact h name
      | some a => exact hforget ended
    | cancel ended => exact hforget ended
    | signOut | toggle | session | fault => exact h name

theorem forms_after (session : Option Session) (steps : List Step) (name : String) :
    (((State.init session).after steps).find? name).map (·.form) = underWay steps name := by
  induction steps using List.reverseRecOn generalizing name with
  | nil => rfl
  | append_singleton steps st ih =>
    rw [State.after_concat, underWay_concat]
    exact forms_step ih st name

end State

/-! ### What is seen of a step -/

/-- All that can be seen of a step, if it brings an attempt at this form to its end. -/
inductive Shows (form? : Option Form) : Step → Option Result → List Event → Prop where
  /-- The attempt has led to a session. -/
  | signedIn {st : Step} {form : Form} {found : Session} (own : form? = some form) :
    Shows form? st (some (.signedIn found)) [.notify form.notice, .navigate .dashboard]
  /-- The attempt has not led to a session. -/
  | rejected {st : Step} {form : Form} {message : String} (own : form? = some form) :
    Shows form? st (some .rejected) [.showStatus message]
  /-- The user is signed out. -/
  | signedOut : Shows form? .signOut (some .signedOut)
    [.showStatus signedOutStatus, .navigate .landing]
  /-- Signing out failed. -/
  | failed {e : StoreError} : Shows form? .signOut (some (.failed e)) []
  /-- The user turns to a form. -/
  | toggled {form : Form} : Shows form? (.toggle form) none (toggle form)
  /-- No attempt comes to its end, and nothing can be seen. -/
  | nothing {st : Step} (noEnd : form? = none) (stays : st ≠ .signOut)
    (noTurn : ∀ form, st ≠ .toggle form) : Shows form? st none []

/-- Whatever the backend says, an attempt shows one of two things. -/
theorem shows_complete {form? : Option Form} {st : Step} (s : State) {a : Attempt}
    (own : form? = some a.form) (reply : Reply) :
    Shows form? st (s.complete a reply).2.1 (s.complete a reply).2.2 := by
  simp only [State.complete]
  cases reply with
  | error e => exact .rejected own
  | ok verdict =>
    cases verdict with
    | rejected reason => exact .rejected own
    | accepted =>
      simp only [complete, establish]
      split
      next => exact .signedIn own
      next => exact .rejected own

/-- Nothing else is seen of a step. -/
theorem State.shows_step {s : State} {steps : List Step}
    (h : ∀ name, (s.find? name).map (·.form) = underWay steps name) (st : Step) :
    Shows (ending? steps st) st (s.step st).2.result (s.step st).2.events := by
  cases hform : st.form? with
  | some form =>
    rcases s.step_form hform with ⟨hsend, hstep, -⟩ | ⟨f, user, calls, hsend, hstep, -⟩
    · rw [hstep]
      exact .rejected (ending?_of_refused steps hform hsend)
    · have hend := ending?_of_sent steps hform hsend
      rw [hstep]
      cases hreply : f.reply with
      | some reply =>
        rw [hreply, Option.isSome_some, if_pos rfl] at hend
        exact shows_complete s hend reply
      | none =>
        rw [hreply, Option.isSome_none, if_neg Bool.false_ne_true] at hend
        exact .nothing hend (by rintro rfl; cases hform) (by rintro _ rfl; cases hform)
  | none =>
    cases st with
    | signUp | signIn => cases hform
    | resolve name reply =>
      have hend : ending? steps (.resolve name reply) = (s.find? name).map (·.form) :=
        (h name).symm
      simp only [step, observed, resolve]
      cases ha : s.find? name with
      | none => exact .nothing (by rw [hend, ha]; rfl) Step.noConfusion fun _ => Step.noConfusion
      | some a =>
        exact shows_complete { s with waiting := s.without name } (by rw [hend, ha]; rfl) reply
    | signOut =>
      simp only [step, Account.signOut]
      rcases SessionStore.clear s.store with ⟨e | _, last⟩
      · exact .failed
      · exact .signedOut
    | toggle form => exact .toggled
    | cancel | session | fault => exact .nothing rfl Step.noConfusion fun _ => Step.noConfusion

/-! ### Whoever comes to the dashboard -/

/-- The dashboard is reached with the session kept that the attempt has led to. -/
theorem session_of_completing {form : Form} {user : Identifier} {reply : Reply} {store m : Memory}
    (h : (.navigate .dashboard, m) ∈ ((completing form user reply).perform store).2.1) :
    ((completing form user reply).perform store).1 = .signedIn ⟨user⟩ ∧
      m.current = some ⟨user⟩ := by
  cases reply with
  | error e => simp [completing, rejecting, Acts.perform] at h
  | ok verdict =>
    cases verdict with
    | rejected reason => simp [completing, rejecting, Acts.perform] at h
    | accepted =>
      have hset : SessionStore.set ⟨user⟩ store = store.set ⟨user⟩ := rfl
      simp only [completing, establishing, Acts.perform, hset] at h ⊢
      by_cases hsound : store.faults.set = none
      · rw [set_of_sound hsound] at h ⊢
        simp only [Acts.perform, List.mem_cons, Prod.mk.injEq, reduceCtorEq, false_and, true_and,
          List.not_mem_nil, or_false, false_or] at h
        exact ⟨rfl, by rw [h]⟩
      · obtain ⟨e, he⟩ := Option.ne_none_iff_exists'.mp hsound
        rw [Memory.set, he] at h
        simp [rejecting, Acts.perform] at h

namespace State

variable {s : State} {st : Step}

/-- Only an attempt leads to the dashboard, and with the session that it has led to. -/
theorem session_of_dashboard {m : Memory} (h : (.navigate .dashboard, m) ∈ s.moments st) :
    ∃ found, (s.step st).2.result = some (.signedIn found) ∧ m.current = some found := by
  have hresult : (s.step st).2.result = ((s.acts st).perform (s.found st)).1 :=
    congrArg Prod.fst (s.step_eq_outcome st)
  have hcompleting {form : Form} {user : Identifier} {reply : Reply}
      (hacts : s.acts st = reporting (completing form user reply)) :
      ∃ found, (s.step st).2.result = some (.signedIn found) ∧ m.current = some found := by
    rw [moments, hacts, reporting, Acts.perform_map] at h
    obtain ⟨hend, hkept⟩ := session_of_completing h
    refine ⟨⟨user⟩, ?_, hkept⟩
    rw [hresult, hacts, reporting, Acts.perform_map, hend]
    rfl
  cases hform : st.form? with
  | some form =>
    rcases s.step_form hform with ⟨-, -, hacts⟩ | ⟨f, user, calls, -, -, hacts⟩
    · simp [moments, hacts, reporting, Acts.perform_map, rejecting, Acts.perform] at h
    · cases hreply : f.reply with
      | none => simp [moments, hacts, hreply, Acts.perform] at h
      | some reply => exact hcompleting (by rw [hacts, hreply]; rfl)
  | none =>
    cases st with
    | signUp | signIn => cases hform
    | resolve name reply =>
      cases ha : s.find? name with
      | none => simp [moments, acts, ha, Acts.perform] at h
      | some a => exact hcompleting (by rw [acts, ha]; rfl)
    | signOut =>
      simp only [moments, acts, Acts.perform_map, signingOut, Acts.perform] at h
      generalize SessionStore.clear (s.found .signOut) = cleared at h
      obtain ⟨_ | _, last⟩ := cleared <;> simp [Acts.perform] at h
    | toggle | cancel | session | fault => simp [moments, acts, Acts.perform] at h

end State

/-! ### Runs -/

/-- The view that an event takes the user to. -/
def Event.visit? : Event → Option View
  | .navigate view => some view
  | _ => none

/-- The notice that an event makes pop up. -/
def Event.notice? : Event → Option String
  | .notify message => some message
  | _ => none

/-- Whether an attempt has led to a session. -/
def Result.isSignedIn : Result → Bool
  | .signedIn _ => true
  | _ => false

namespace Page

theorem visits_applyAll (p : Page) (events : List Event) :
    (p.applyAll events).visits = p.visits ++ events.filterMap Event.visit? := by
  induction events generalizing p with
  | nil => exact (List.append_nil _).symm
  | cons event events ih =>
    rw [applyAll, List.foldl_cons, ← applyAll, ih]
    cases event <;> simp [apply, Event.visit?, List.filterMap_cons]

theorem notices_applyAll (p : Page) (events : List Event) :
    (p.applyAll events).notices = p.notices ++ events.filterMap Event.notice? := by
  induction events generalizing p with
  | nil => exact (List.append_nil _).symm
  | cons event events ih =>
    rw [applyAll, List.foldl_cons, ← applyAll, ih]
    cases event <;> simp [apply, Event.notice?, List.filterMap_cons]

/-- The visits and notices of a page are as many as some results ask for. -/
structure Tallies (p : Page) (results : List Result) : Prop where
  /-- Each session was followed by a visit to the dashboard. -/
  dashboard : p.visits.count .dashboard = results.countP Result.isSignedIn
  /-- Each session was followed by a notice. -/
  notices : p.notices.length = results.countP Result.isSignedIn
  /-- Each time the user was signed out, the page with the forms was visited. -/
  landing : p.visits.count .landing = results.count .signedOut

theorem Tallies.shows {p : Page} {results : List Result} (t : p.Tallies results)
    {form? : Option Form} {st : Step} {result : Option Result} {events : List Event}
    (h : Shows form? st result events) :
    (p.applyAll events).Tallies (results ++ result.toList) where
  dashboard := by
    rw [visits_applyAll, List.count_append, List.countP_append, t.dashboard]
    cases h <;> rfl
  notices := by
    rw [notices_applyAll, List.length_append, List.countP_append, t.notices]
    cases h <;> rfl
  landing := by
    rw [visits_applyAll, List.count_append, List.count_append, t.landing]
    cases h <;> rfl

end Page

namespace State

/-- What the steps of a run come to, in their order. -/
def results (s : State) (steps : List Step) : List Result :=
  (s.run steps).filterMap (·.2.result)

theorem run_concat (s : State) (steps : List Step) (st : Step) :
    s.run (steps ++ [st]) = s.run steps ++ [(s.after steps).step st] := by
  induction steps generalizing s with
  | nil => rfl
  | cons first steps ih =>
    rw [List.cons_append, run, ih, run, List.cons_append]
    rfl

theorem results_concat (s : State) (steps : List Step) (st : Step) :
    s.results (steps ++ [st]) = s.results steps ++ ((s.after steps).step st).2.result.toList := by
  rw [results, run_concat, List.filterMap_append, List.filterMap_cons]
  cases ((s.after steps).step st).2.result <;> rfl

theorem tallies_after (session : Option Session) (steps : List Step) :
    ((State.init session).after steps).page.Tallies ((State.init session).results steps) := by
  induction steps using List.reverseRecOn with
  | nil => exact ⟨rfl, rfl, rfl⟩
  | append_singleton steps st ih =>
    rw [after_concat, page_step, results_concat]
    exact ih.shows (shows_step (forms_after session steps) st)

end State

/-- **Visits and notices follow the results.** After any run, with any number of attempts under
way, the dashboard has been visited as often as attempts have led to a session, which is also how
many notices there were, and the page with the forms as often as the user was signed out. Whatever
step comes next shows one of the few things there are to show: an attempt that comes to its end
either the notice of its own form and the dashboard, with a session, or a line of status, without
one. The step comes to the same as its acts one after another, and among these the user comes to
the dashboard only when that session is kept already. -/
theorem visits_follow_results (session : Option Session) (steps : List Step) :
    let start := State.init session
    let s := start.after steps
    s.page.Tallies (start.results steps) ∧
      ∀ st, Shows (ending? steps st) st (s.step st).2.result (s.step st).2.events ∧
        ((s.step st).2.result, (s.step st).2.events, (s.step st).1.store) =
          (s.acts st).outcome (s.found st) ∧
        ∀ m, (.navigate .dashboard, m) ∈ s.moments st →
          ∃ found, (s.step st).2.result = some (.signedIn found) ∧ m.current = some found :=
  ⟨State.tallies_after session steps, fun st =>
    ⟨State.shows_step (State.forms_after session steps) st, State.step_eq_outcome _ st,
      fun _ => State.session_of_dashboard⟩⟩

/-- Of two attempts under way one is given up, and the other is told of its own form. -/
example :
    let s := (State.init none).after [.signUp "a" "n" "x" "p" none, .signIn "b" "y" "q" none,
      .cancel "b", .resolve "b" (.ok .accepted), .resolve "a" (.ok .accepted)]
    s.page.notices = [Form.signUp.notice] ∧ s.page.visits = [.dashboard] := by
  decide +kernel

end Workbench.Account
