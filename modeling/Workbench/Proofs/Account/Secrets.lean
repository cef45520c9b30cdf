import Mathlib.Data.List.Forall2
import Workbench.Proofs.Account.SessionWrites

/-!
# Where passwords go

A password is typed in, sent to the backend, and forgotten; nothing that the user sees, and nothing
that is stored, depends on it, and the same is so of the name for a new account. Two runs are
compared that differ in nothing but these texts. Whether such a field is blank does show, since a
form with a blank field is refused; so the fields have to be blank together.

* `Step.SameButSecrets` — two steps that differ in nothing else.
* `State.step_sameButSecrets` — from one state they lead to one state, and are seen alike.
* `secrets_stay_in_calls` — two runs differ only in the calls to the backend, and there only in
  the passwords and names.
-/

namespace Workbench.Account

/-- Two steps that differ only in a password, or in the name for a new account. -/
inductive Step.SameButSecrets : Step → Step → Prop where
  /-- A form for a new account with the same email. -/
  | signUp {name user user' email password password' : String} {reply : Option Reply}
      (blankUser : Text.trimmed user = "" ↔ Text.trimmed user' = "")
      (blankPassword : Text.trimmed password = "" ↔ Text.trimmed password' = "") :
      SameButSecrets (.signUp name user email password reply)
        (.signUp name user' email password' reply)
  /-- A form for an existing account with the same email. -/
  | signIn {name email password password' : String} {reply : Option Reply}
      (blankPassword : Text.trimmed password = "" ↔ Text.trimmed password' = "") :
      SameButSecrets (.signIn name email password reply) (.signIn name email password' reply)
  /-- The same step. -/
  | same (st : Step) : SameButSecrets st st

/-- Two calls that differ only in a password, or in the name for a new account. -/
inductive Call.SameButSecrets : Call → Call → Prop where
  /-- For a new account with the same email. -/
  | signUp {c c' : SignUp} (email : c.email = c'.email) : SameButSecrets (.signUp c) (.signUp c')
  /-- For an existing account with the same email. -/
  | signIn {c c' : SignIn} (email : c.email = c'.email) : SameButSecrets (.signIn c) (.signIn c')

/-- Two observations that differ only in what was sent to the backend, and there only in passwords
and names. -/
structure Observation.SameButSecrets (o o' : Observation) : Prop where
  /-- They come to the same. -/
  result : o.result = o'.result
  /-- The same happens to the page. -/
  events : o.events = o'.events
  /-- And the calls are the same, but for what is secret. -/
  calls : List.Forall₂ Call.SameButSecrets o.calls o'.calls

/-! ### Forms -/

/-- Fields that are blank together are blank alike. -/
theorem isBlankText_congr {field field' : String}
    (h : Text.trimmed field = "" ↔ Text.trimmed field' = "") :
    Text.isBlankText field = Text.isBlankText field' := by
  rw [trimmed_eq_empty_iff, trimmed_eq_empty_iff] at h
  exact Bool.eq_iff_iff.mpr h

/-- Two forms of which one is blank exactly if the other one is are refused together, or taken
together for the same email. -/
theorem taken_together {α ε : Type} {blank : Bool} {text : String} {email : α → Identifier}
    {form form' : Except ε α}
    (h : blank = true ∧ (∃ e, form = .error e) ∨
      blank = false ∧ ∃ c, form = .ok c ∧ (email c).text = text)
    (h' : blank = true ∧ (∃ e, form' = .error e) ∨
      blank = false ∧ ∃ c, form' = .ok c ∧ (email c).text = text) :
    (∃ e e', form = .error e ∧ form' = .error e') ∨
      ∃ c c', form = .ok c ∧ form' = .ok c' ∧ email c = email c' := by
  cases blank with
  | true =>
    obtain ⟨-, e, he⟩ | ⟨hfalse, -⟩ := h
    · obtain ⟨-, e', he'⟩ | ⟨hfalse, -⟩ := h'
      · exact .inl ⟨e, e', he, he'⟩
      · cases hfalse
    · cases hfalse
  | false =>
    obtain ⟨htrue, -⟩ | ⟨-, c, hc, htext⟩ := h
    · cases htrue
    · obtain ⟨htrue, -⟩ | ⟨-, c', hc', htext'⟩ := h'
      · cases htrue
      · exact .inr ⟨c, c', hc, hc', Identifier.eq_of_text (htext.trans htext'.symm)⟩

/-! ### Steps and runs -/

/-- Beside the calls, nothing is seen of a step but where it leads and what it comes to. -/
theorem observed_sameButSecrets {calls calls' : List Call}
    (h : List.Forall₂ Call.SameButSecrets calls calls')
    (r : State × Option Result × List Event) :
    (State.observed calls r).1 = (State.observed calls' r).1 ∧
      (State.observed calls r).2.SameButSecrets (State.observed calls' r).2 :=
  ⟨rfl, rfl, rfl, h⟩

/-- **From one state they lead to one state, and are seen alike.** -/
theorem State.step_sameButSecrets {st st' : Step} (h : st.SameButSecrets st') (s : State) :
    (s.step st).1 = (s.step st').1 ∧ (s.step st).2.SameButSecrets (s.step st').2 := by
  cases h with
  | @signUp name user user' email password password' reply huser hpassword =>
    have hfields : [user, email, password].any Text.isBlankText =
        [user', email, password'].any Text.isBlankText := by
      simp only [List.any_cons, isBlankText_congr huser, isBlankText_congr hpassword]
    have hform := SignUp.ofForm_cases user email password
    rw [hfields] at hform
    rcases taken_together hform (SignUp.ofForm_cases user' email password') with
      ⟨e, e', he, he'⟩ | ⟨c, c', hc, hc', hemail⟩
    · rw [State.step, State.step, he, he']
      exact observed_sameButSecrets .nil _
    · rw [State.step, State.step, hc, hc']
      dsimp only
      rw [hemail]
      exact observed_sameButSecrets (.cons (.signUp hemail) .nil) _
  | @signIn name email password password' reply hpassword =>
    have hfields : [email, password].any Text.isBlankText =
        [email, password'].any Text.isBlankText := by
      simp only [List.any_cons, isBlankText_congr hpassword]
    have hform := SignIn.ofForm_cases email password
    rw [hfields] at hform
    rcases taken_together hform (SignIn.ofForm_cases email password') with
      ⟨e, e', he, he'⟩ | ⟨c, c', hc, hc', hemail⟩
    · rw [State.step, State.step, he, he']
      exact observed_sameButSecrets .nil _
    · rw [State.step, State.step, hc, hc']
      dsimp only
      rw [hemail]
      exact observed_sameButSecrets (.cons (.signIn hemail) .nil) _
  | same =>
    refine ⟨rfl, rfl, rfl, List.forall₂_same.mpr fun call _ => ?_⟩
    cases call with
    | signUp c => exact .signUp rfl
    | signIn c => exact .signIn rfl

/-- **Passwords and names stay in the calls.** Two runs start in the same state, with the same
attempts under way, the same page and the same store, and take the same steps, but for the
passwords and the names for new accounts, which have to be blank together. Then after every step
they are in the same state again, and what the step came to and what happened to the page are the
same; what was sent to the backend is the same but for passwords and names. -/
theorem secrets_stay_in_calls (s : State) (steps steps' : List Step)
    (h : List.Forall₂ Step.SameButSecrets steps steps') :
    List.Forall₂ (fun r r' => r.1 = r'.1 ∧ r.2.SameButSecrets r'.2) (s.run steps)
      (s.run steps') := by
  induction h generalizing s with
  | nil => exact .nil
  | cons hst _ ih =>
    have hstep := State.step_sameButSecrets hst s
    refine .cons hstep ?_
    rw [hstep.1]
    exact ih _

/-- Two attempts are under way when the store breaks down, and a third form has a blank password:
the secrets show in two calls, and in nothing else. -/
theorem secrets_stay_in_calls_broken :
    let steps (user password blank : String) : List Step :=
      [.toggle .signUp, .signUp "a" user "x" password none, .signIn "b" "y" password none,
        .fault ⟨none, some (.unavailable "full"), none⟩, .resolve "b" (.ok .accepted),
        .resolve "a" (.error (.timeout "late")), .signIn "c" "z" blank none]
    let one := (State.init none).run (steps "n" "p" " ")
    let other := (State.init none).run (steps "m" "q" "\t")
    List.Forall₂ Step.SameButSecrets (steps "n" "p" " ") (steps "m" "q" "\t") ∧
      List.Forall₂ (fun r r' => r.1 = r'.1 ∧ r.2.SameButSecrets r'.2) one other ∧
      one.map (·.2.calls) ≠ other.map (·.2.calls) := by
  intro steps one other
  have h : List.Forall₂ Step.SameButSecrets (steps "n" "p" " ") (steps "m" "q" "\t") := by
    refine .cons (.same _) (.cons (.signUp ?_ ?_) (.cons (.signIn ?_) (.cons (.same _)
      (.cons (.same _) (.cons (.same _) (.cons (.signIn ?_) .nil))))))
    all_goals decide
  exact ⟨h, secrets_stay_in_calls _ _ _ h, by decide +kernel⟩

end Workbench.Account
