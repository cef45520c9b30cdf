import Workbench.Proofs.Account.Navigation
import Workbench.Proofs.Display.PlainText
import Workbench.Proofs.Gateway.Failures
import Workbench.Proofs.Text.Blank
import Workbench.Proofs.Workflow.Agreement

/-!
# Failures and their reasons

Whoever is turned down is told why. What the backend gives as the reason may be missing, null or
blank, in which case something else has to be said, and it is said in different places: by the
reader of the response to an operation, and only by the page for credentials. From there the reason
passes through more hands, of which one trims what it shows. This module follows it to the end.

* `GivesReason` — what a response gives as the reason, to the letter, and when it gives none.
* `State.says_of_step` — whoever is rejected finds something on the line of status.
* `State.tells_of_step` — an operation that fails, and shows so, shows a reason.
* `failures_tell_why` — this from the bodies of responses to what is to be seen.
-/

namespace Workbench.Gateway

open Workbench.Json
open Workbench.Text (Bytes IsVisible)

/-! ### What a response gives as the reason -/

/-- The reason that stands under a name in a record: its text, unless that is blank or missing. -/
inductive GivesReason (members : List (String × Tree)) (name : String) : Option String → Prop where
  /-- There is a text that is not blank. It is the reason to the letter. -/
  | told {text : String} (one : HasOne members name (·.IsText text)) (visible : IsVisible text) :
    GivesReason members name (some text)
  /-- There is a text, and it is blank. -/
  | blank {text : String} (one : HasOne members name (·.IsText text))
    (hidden : ¬IsVisible text) : GivesReason members name none
  /-- There is no text: nothing stands there, or the literal `null`. -/
  | missing (null : ∀ m ∈ members, m.1 = name → m.2 = .null) : GivesReason members name none

/-- A body is the text of a record that gives this reason, or none, under a name. -/
def Reasons (names : List String) (field : String) (body : Bytes) (reason : Option String) : Prop :=
  ∃ members, Written names body members ∧ GivesReason members field reason

section

variable {status : Nat} {body : Bytes}

/-- A reason that is given can be seen. -/
theorem Reasons.isVisible {names : List String} {field reason : String}
    (h : Reasons names field body (some reason)) : IsVisible reason := by
  obtain ⟨members, -, hgives⟩ := h
  cases hgives with
  | told one visible => exact visible

/-- A reason that is not given is replaced by one that can be seen. -/
theorem Reasons.isVisible_getD {names : List String} {field : String} {reason : Option String}
    (h : Reasons names field body reason) : IsVisible (reason.getD "Request failed") := by
  cases reason with
  | none =>
    show IsVisible "Request failed"
    decide +kernel
  | some reason => exact h.isVisible

/-- The text of a record, unless it is blank, is the reason that the record gives. -/
theorem givesReason_nonBlank {ρ : Type} {r : ρ} {members : List (String × Tree)} {name : String}
    {get : ρ → Option (Option String)} {set : Option String → ρ → ρ}
    {get_set : ∀ x r, get (set x r) = some x}
    (htells : (textSlot name get set get_set).Tells r members) :
    GivesReason members name (nonBlank (get r).join) := by
  cases htext : (get r).join with
  | none => exact .missing (null_of_textSlot htells htext)
  | some text =>
    have hone : HasOne members name (·.IsText text) := hasOne_text htells htext
    by_cases hvisible : IsVisible text
    · rw [nonBlank, Option.filter_some, Text.isBlankText_eq_false_iff.mpr hvisible]
      exact .told hone hvisible
    · rw [nonBlank, Option.filter_some, Text.isBlankText_iff.mpr hvisible]
      exact .blank hone hvisible

theorem reasons_of_verdictOf {reason : Option String}
    (h : verdictOf status body = .ok (.rejected reason)) :
    Reasons ["success", "message"] "message" body reason := by
  unfold verdictOf at h
  split at h
  next => cases h
  next r hr =>
    obtain ⟨members, hwritten, htells⟩ := written_of_decode AuthResponse.plan rfl hr
    unfold AuthResponse.verdict at h
    split at h
    next => cases h
    next =>
      cases h
      exact ⟨members, hwritten, givesReason_nonBlank (htells _ (.tail _ (.head _)))⟩

/-- The reason of an analysis that fails is that of its record, or a general one. -/
theorem AnalyzeResponse.outcome_failure {r : AnalyzeResponse} {reason : String}
    (h : r.outcome = .ok (.failure reason)) :
    reason = (nonBlank r.error.join).getD "Request failed" := by
  unfold outcome at h
  split at h
  next => split at h <;> cases h
  next =>
    cases h
    rfl

theorem OptimizeResponse.outcome_failure {r : OptimizeResponse} {reason : String}
    (h : r.outcome = .ok (.failure reason)) :
    reason = (nonBlank r.error.join).getD "Request failed" := by
  unfold outcome at h
  split at h
  next => split at h <;> cases h
  next =>
    cases h
    rfl

theorem reasons_of_analyzeOf {reason : String}
    (h : analyzeOf status body = .ok (.failure reason)) :
    ∃ given, Reasons ["success", "complexity", "error"] "error" body given ∧
      reason = given.getD "Request failed" := by
  rw [analyzeOf_eq] at h
  obtain ⟨r, hr, houtcome⟩ := meaningOf_ok h
  obtain ⟨members, hwritten, htells⟩ := written_of_decode AnalyzeResponse.plan rfl hr
  refine ⟨nonBlank r.error.join, ⟨members, hwritten, ?_⟩, AnalyzeResponse.outcome_failure houtcome⟩
  exact givesReason_nonBlank (htells _ (.tail _ (.tail _ (.head _))))

theorem reasons_of_optimizeOf {reason : String}
    (h : optimizeOf status body = .ok (.failure reason)) :
    ∃ given, Reasons ["success", "optimizedCode", "complexity", "error"] "error" body given ∧
      reason = given.getD "Request failed" := by
  rw [optimizeOf_eq] at h
  obtain ⟨r, hr, houtcome⟩ := meaningOf_ok h
  obtain ⟨members, hwritten, htells⟩ := written_of_decode OptimizeResponse.plan rfl hr
  refine ⟨nonBlank r.error.join, ⟨members, hwritten, ?_⟩, OptimizeResponse.outcome_failure houtcome⟩
  exact givesReason_nonBlank (htells _ (.tail _ (.tail _ (.tail _ (.head _)))))

end

/-- A call is answered by the text of a record that gives this reason, or none. -/
def Blames {α : Type} (g : Gateway) (network : Network) (traffic : Traffic) (c : Call α)
    (names : List String) (field : String) (reason : Option String) : Prop :=
  ∃ status body, Answers g network traffic c status body ∧ Reasons names field body reason

section

variable {g : Gateway} {network : Network} {traffic : Traffic}

theorem blames_of_rejected {c : Call Account.Verdict} (hread : c.read = verdictOf)
    {reason : Option String} (h : (g.exchange network traffic c).1 = .ok (.rejected reason)) :
    Blames g network traffic c ["success", "message"] "message" reason := by
  obtain ⟨status, body, hanswers, hok⟩ := answers_of_exchange h
  rw [hread] at hok
  exact ⟨status, body, hanswers, reasons_of_verdictOf hok⟩

theorem blames_of_analyze {user : Identifier} {code : Submission} {reason : String}
    (h : (g.exchange network traffic (analyze user code)).1 = .ok (.failure reason)) :
    ∃ given, Blames g network traffic (analyze user code) ["success", "complexity", "error"]
      "error" given ∧ reason = given.getD "Request failed" := by
  obtain ⟨status, body, hanswers, hok⟩ := answers_of_exchange h
  obtain ⟨given, hreasons, hreason⟩ := reasons_of_analyzeOf hok
  exact ⟨given, ⟨status, body, hanswers, hreasons⟩, hreason⟩

theorem blames_of_optimize {user : Identifier} {code : Submission} {reason : String}
    (h : (g.exchange network traffic (optimize user code)).1 = .ok (.failure reason)) :
    ∃ given, Blames g network traffic (optimize user code)
      ["success", "optimizedCode", "complexity", "error"] "error" given ∧
        reason = given.getD "Request failed" := by
  obtain ⟨status, body, hanswers, hok⟩ := answers_of_exchange h
  obtain ⟨given, hreasons, hreason⟩ := reasons_of_optimizeOf hok
  exact ⟨given, ⟨status, body, hanswers, hreasons⟩, hreason⟩

end

end Workbench.Gateway

namespace Workbench

open Workbench.Text (IsVisible)

/-- The words for a failure can be seen, whatever it is that has failed. -/
theorem GatewayError.isVisible_message (e : GatewayError) : IsVisible e.message := by
  cases e with
  | transport reason => exact IsVisible.append (s := "request failed: ") (by decide +kernel) _
  | timeout reason => exact IsVisible.append (s := "request timed out: ") (by decide +kernel) _
  | decode reason => exact IsVisible.append (s := "unexpected response: ") (by decide +kernel) _
  | status code preview =>
    have hstart : IsVisible "backend returned status " := by decide +kernel
    exact ((hstart.append _).append _).append _

end Workbench

/-! ### Attempts -/

namespace Workbench.Account

open Workbench.Gateway (Network Traffic)
open Workbench.Text (IsVisible)

/-- What an attempt hears through a gateway, over whatever network. -/
inductive Heard : Reply → Prop where
  /-- It has asked for a new account. -/
  | signUp (g : Gateway) (network : Network) (traffic : Traffic) (c : SignUp) :
    Heard (g.exchange network traffic (Gateway.signUp c)).1
  /-- It has asked for access to an account. -/
  | signIn (g : Gateway) (network : Network) (traffic : Traffic) (c : SignIn) :
    Heard (g.exchange network traffic (Gateway.signIn c)).1

/-- A reason that is heard can be seen; where there is none a general one can. -/
theorem Heard.isVisible {reply : Reply} (h : Heard reply) {reason : Option String}
    (hreply : reply = .ok (.rejected reason)) : IsVisible (reason.getD genericFailure) := by
  cases h with
  | signUp g network traffic c =>
    obtain ⟨status, body, -, hreasons⟩ := Gateway.blames_of_rejected rfl hreply
    exact hreasons.isVisible_getD
  | signIn g network traffic c =>
    obtain ⟨status, body, -, hreasons⟩ := Gateway.blames_of_rejected rfl hreply
    exact hreasons.isVisible_getD

/-- There is a line of status, and something can be seen in it. -/
def Page.Says (p : Page) : Prop := ∃ line, p.status = some line ∧ IsVisible line

/-- Whatever the store does, an attempt that is rejected says why. -/
theorem says_of_rejected {σ : Type} [SessionStore σ] {form : Form} {user : Identifier}
    {reply : Reply} (hheard : Heard reply) {store : σ}
    (h : (complete form user reply store).1 = .rejected) (p : Page) :
    (p.applyAll (complete form user reply store).2.1).Says := by
  cases hreply : reply with
  | error e =>
    refine ⟨_, rfl, IsVisible.append (s := "Network error: ") ?_ _⟩
    decide +kernel
  | ok verdict =>
    cases verdict with
    | rejected reason => exact ⟨_, rfl, hheard.isVisible hreply⟩
    | accepted =>
      rcases hset : SessionStore.set ⟨user⟩ store with ⟨answer, last⟩
      simp only [hreply, complete, establish, hset] at h ⊢
      cases answer with
      | ok _ => cases h
      | error e =>
        refine ⟨_, rfl, IsVisible.append (s := "Unable to save session: ") ?_ _⟩
        decide +kernel

/-- The reply that a step brings. -/
def Step.reply? : Step → Option Reply
  | .signUp _ _ _ _ reply | .signIn _ _ _ reply => reply
  | .resolve _ reply => some reply
  | _ => none

namespace State

variable {s : State}

theorem says_of_complete {a : Attempt} {reply : Reply} (hheard : Heard reply)
    (h : (s.complete a reply).2.1 = some .rejected) : (s.complete a reply).1.page.Says := by
  apply says_of_rejected hheard
  show (Account.complete a.form a.user reply s.store).1 = .rejected
  cases hresult : (Account.complete a.form a.user reply s.store).1 with
  | rejected => rfl
  | signedIn session =>
    simp only [complete, hresult] at h
    cases h

theorem says_of_send {name : String} {a : Attempt} {reply : Option Reply}
    (hheard : ∀ r ∈ reply, Heard r) (h : (s.send name a reply).2.1 = some .rejected) :
    (s.send name a reply).1.page.Says := by
  cases reply with
  | none => cases h
  | some reply => exact says_of_complete (hheard reply rfl) h

theorem says_of_refuse : s.refuse.1.page.Says := by
  refine ⟨allFieldsRequired, rfl, ?_⟩
  decide +kernel

/-- Whoever is rejected in a step finds something on the line of status. -/
theorem says_of_step {st : Step} (hheard : ∀ r ∈ st.reply?, Heard r)
    (h : (s.step st).2.result = some .rejected) : (s.step st).1.page.Says := by
  cases st with
  | signUp name user email password reply =>
    simp only [step] at h ⊢
    split at h
    next => exact says_of_refuse
    next => exact says_of_send hheard h
  | signIn name email password reply =>
    simp only [step] at h ⊢
    split at h
    next => exact says_of_refuse
    next => exact says_of_send hheard h
  | resolve name reply =>
    simp only [step, resolve] at h ⊢
    split at h
    next => cases h
    next => exact says_of_complete (hheard reply rfl) h
  | signOut =>
    simp only [step] at h
    split at h <;> cases h
  | cancel | toggle | session | fault => cases h

end State

end Workbench.Account

/-! ### Operations -/

namespace Workbench.Display

open Workbench.Markup
open Workbench.Text (IsVisible)

/-- A failure is shown with its message; only blanks at the end of it go. -/
theorem plainText_failure {message : String} (h : IsVisible message) :
    (failure message).plainText =
      "Error: " ++ String.ofList (Text.trimEnd message.toList) := by
  obtain ⟨texts, -, -, hdecode, hcut, -⟩ := (Announcement.failure message).cut_fragment
  have htext : toText (failure message).markup.toList =
      Text.trim ("Error: " ++ message).toList := by
    apply (toText_eq_layOut hcut).trans
    rw [hdecode, trim_layOut]
    simp [Announcement.lines]
  have hhead : ∀ c ∈ ("Error: " ++ message).toList.head?, Text.isBlank c = false := by
    intro c hc
    rw [String.toList_append] at hc
    cases hc
    decide
  rw [Fragment.plainText, htext, Text.trim_eq_trimEnd hhead, String.toList_append,
    Text.trimEnd_append_of_visible h, String.ofList_append, String.ofList_toList]

end Workbench.Display

namespace Workbench.Workflow

open Workbench.Gateway (Network Traffic)
open Workbench.Markup (Fragment)
open Workbench.Text (IsVisible)

/-- What an operation hears through a gateway, over whatever network. -/
inductive Heard : Operation → Except GatewayError Outcome → Prop where
  /-- It has asked for a compilation. -/
  | compile (g : Gateway) (network : Network) (traffic : Traffic) (code : Submission) :
    Heard .compile ((g.exchange network traffic (Gateway.check code)).1.map .compile)
  /-- It has asked for an analysis. -/
  | analyze (g : Gateway) (network : Network) (traffic : Traffic) (user : Identifier)
    (code : Submission) :
    Heard .analyze ((g.exchange network traffic (Gateway.analyze user code)).1.map .analyze)
  /-- It has asked for an optimization. -/
  | optimize (g : Gateway) (network : Network) (traffic : Traffic) (user : Identifier)
    (code : Submission) :
    Heard .optimize ((g.exchange network traffic (Gateway.optimize user code)).1.map .optimize)

/-- A fragment tells of a failure, with a message in which something can be seen. -/
def Tells (f : Fragment) : Prop := ∃ message, f = Display.failure message ∧ IsVisible message

theorem Tells.plainText {f : Fragment} (h : Tells f) :
    ∃ t, f.plainText = "Error: " ++ t ∧ IsVisible t := by
  obtain ⟨message, rfl, hvisible⟩ := h
  exact ⟨_, Display.plainText_failure hvisible, hvisible.ofList_trimEnd⟩

/-- An answer that is a failure is shown as one, but for compilations, which show diagnostics. -/
theorem Heard.tells {op : Operation} {reply : Except GatewayError Outcome} (h : Heard op reply)
    (hop : op ≠ .compile) (hfailed : phaseOf reply = .failed) : Tells (fragmentOf reply) := by
  cases h with
  | compile => exact absurd rfl hop
  | analyze g network traffic user code =>
    cases hreply : (g.exchange network traffic (Gateway.analyze user code)).1 with
    | error e => exact ⟨e.message, rfl, e.isVisible_message⟩
    | ok o =>
      cases o with
      | success complexity =>
        rw [hreply] at hfailed
        cases hfailed
      | failure reason =>
        obtain ⟨given, ⟨status, body, -, hreasons⟩, rfl⟩ := Gateway.blames_of_analyze hreply
        exact ⟨_, rfl, hreasons.isVisible_getD⟩
  | optimize g network traffic user code =>
    cases hreply : (g.exchange network traffic (Gateway.optimize user code)).1 with
    | error e => exact ⟨e.message, rfl, e.isVisible_message⟩
    | ok o =>
      cases o with
      | success new complexity =>
        rw [hreply] at hfailed
        cases hfailed
      | failure reason =>
        obtain ⟨given, ⟨status, body, -, hreasons⟩, rfl⟩ := Gateway.blames_of_optimize hreply
        exact ⟨_, rfl, hreasons.isVisible_getD⟩

/-- Whoever is turned away is told why. -/
theorem isVisible_of_gate {op : Operation} {stored : Except StoreError (Option Session)}
    {code : Submission} {message : String} (h : gate op stored code = .error message) :
    IsVisible message := by
  have hlogin : IsVisible loginRequired := by decide +kernel
  unfold gate at h
  split at h
  next =>
    split at h
    next hempty =>
      split at h <;> cases h
      cases op <;> cases hempty <;> decide +kernel
    next => cases h
  next =>
    cases h
    exact hlogin

/-- The answers that a step brings. -/
def Step.answers? : Step → Option Answers
  | .resolve _ answers _ | .run _ _ _ answers _ => some answers
  | _ => none

/-- The report of an invocation tells what was asked and how it ended, and whether the answer was
shown. -/
theorem Desk.finish_spec (d : Desk) (w : Waiting) (answers : Answers) (handling : Handling) :
    let r := d.finish w answers handling
    r.2.operation = w.operation ∧ r.2.phase = phaseOf (answers.reply w.operation) ∧
      r.1.shown =
        if r.2.isShown then d.shown ++ [fragmentOf (answers.reply w.operation)] else d.shown := by
  unfold finish
  dsimp only
  split <;> exact ⟨rfl, rfl, rfl⟩

namespace State

variable {s : State}

theorem tells_of_start {name : String} {op : Operation} {code : Submission} {report : Report}
    (h : (s.step (.start name op code)).2 = some report) :
    ∃ f, (s.step (.start name op code)).1.desk.shown.getLast? = some f ∧ Tells f := by
  cases hg : gate op s.store.get code with
  | error message =>
    rw [step_start_of_error hg, Desk.settle_draw]
    exact ⟨_, List.getLast?_concat, message, rfl, isVisible_of_gate hg⟩
  | ok session =>
    rw [step_start_of_ok hg] at h
    cases h

theorem tells_of_resolve {name : String} {answers : Answers} {handling : Handling}
    {report : Report} (h : (s.step (.resolve name answers handling)).2 = some report)
    (hop : report.operation ≠ .compile)
    (hheard : Heard report.operation (answers.reply report.operation))
    (hfailed : report.phase = .failed) (hshown : report.isShown = true) :
    ∃ f, (s.step (.resolve name answers handling)).1.desk.shown.getLast? = some f ∧ Tells f := by
  simp only [step, resolve] at h ⊢
  split at h
  next => cases h
  next w hw =>
    cases h
    obtain ⟨hoperation, hphase, hlast⟩ := s.desk.finish_spec w answers handling
    rw [hoperation] at hop hheard
    rw [hphase] at hfailed
    rw [hshown, if_pos rfl] at hlast
    simp only [hlast, List.getLast?_concat]
    exact ⟨_, rfl, hheard.tells hop hfailed⟩

/-- An operation that fails in a step, and shows so, is shown to have failed for a reason. -/
theorem tells_of_step {st : Step} {report : Report} (h : (s.step st).2 = some report)
    (hop : report.operation ≠ .compile)
    (hheard : ∀ answers ∈ st.answers?, Heard report.operation (answers.reply report.operation))
    (hfailed : report.phase = .failed) (hshown : report.isShown = true) :
    ∃ f, (s.step st).1.desk.shown.getLast? = some f ∧ Tells f := by
  cases st with
  | start name op code => exact tells_of_start h
  | resolve name answers handling =>
    exact tells_of_resolve h hop (hheard answers rfl) hfailed hshown
  | run name op code answers handling =>
    cases hg : gate op s.store.get code with
    | error message =>
      rw [step_run_of_error hg] at h ⊢
      exact tells_of_start h
    | ok session =>
      rw [step_run_of_ok hg] at h ⊢
      exact tells_of_resolve h hop (hheard answers rfl) hfailed hshown
  | cancel | session | fault => cases h

end State

end Workbench.Workflow

/-! ### From the body of a response to what is to be seen -/

namespace Workbench

open Workbench.Gateway (Network Traffic Blames)
open Workbench.Text (IsVisible)

/-- **Failures tell why.** Whatever the network does, the reason of a failure is the one in the
body of the response, with whatever status it came: the text `error` of an analysis or an
optimization and the text `message` of an account, to the letter, unless it is blank, null or
missing; then it is a general one, and none for an account. So whoever is rejected, be it for an
incomplete form, a fault of the network or one of the store, finds a line of status in which
something can be seen. And an analysis or an optimization that fails, be it turned away or
answered, and shows so, shows a text that starts with `Error: `, and something can be seen behind
that. -/
theorem failures_tell_why :
    (∀ (g : Gateway) (network : Network) (traffic : Traffic),
      (∀ c reason, (g.exchange network traffic (Gateway.signUp c)).1 = .ok (.rejected reason) →
        Blames g network traffic (Gateway.signUp c) ["success", "message"] "message" reason) ∧
      (∀ c reason, (g.exchange network traffic (Gateway.signIn c)).1 = .ok (.rejected reason) →
        Blames g network traffic (Gateway.signIn c) ["success", "message"] "message" reason) ∧
      (∀ user code reason,
        (g.exchange network traffic (Gateway.analyze user code)).1 = .ok (.failure reason) →
        ∃ given, Blames g network traffic (Gateway.analyze user code)
          ["success", "complexity", "error"] "error" given ∧
            reason = given.getD "Request failed") ∧
      ∀ user code reason,
        (g.exchange network traffic (Gateway.optimize user code)).1 = .ok (.failure reason) →
        ∃ given, Blames g network traffic (Gateway.optimize user code)
          ["success", "optimizedCode", "complexity", "error"] "error" given ∧
            reason = given.getD "Request failed") ∧
      (∀ (σ : Type) [SessionStore σ] (store : σ) form user reply (p : Account.Page),
        Account.Heard reply → (Account.complete form user reply store).1 = .rejected →
        (p.applyAll (Account.complete form user reply store).2.1).Says) ∧
      (∀ (s : Account.State) (st : Account.Step), (∀ reply ∈ st.reply?, Account.Heard reply) →
        (s.step st).2.result = some .rejected → (s.step st).1.page.Says) ∧
      ∀ (s : Workflow.State) (st : Workflow.Step) (report : Workflow.Report),
        (s.step st).2 = some report → report.operation ≠ .compile → report.phase = .failed →
        (∀ answers ∈ st.answers?,
          Workflow.Heard report.operation (answers.reply report.operation)) →
        report.isShown = true →
        ∃ f t, (s.step st).1.desk.shown.getLast? = some f ∧ f.plainText = "Error: " ++ t ∧
          IsVisible t := by
  refine ⟨?_, ?_, ?_, ?_⟩
  · intro g network traffic
    refine ⟨?_, ?_, ?_, ?_⟩
    · intro c reason h
      exact Gateway.blames_of_rejected rfl h
    · intro c reason h
      exact Gateway.blames_of_rejected rfl h
    · intro user code reason h
      exact Gateway.blames_of_analyze h
    · intro user code reason h
      exact Gateway.blames_of_optimize h
  · intro σ _ store form user reply p hheard h
    exact Account.says_of_rejected hheard h p
  · intro s st hheard h
    exact Account.State.says_of_step hheard h
  · intro s st report h hop hfailed hheard hshown
    obtain ⟨f, hlast, htells⟩ := Workflow.State.tells_of_step h hop hheard hfailed hshown
    obtain ⟨t, htext, hvisible⟩ := htells.plainText
    exact ⟨f, t, hlast, htext, hvisible⟩

/-- A reason is not trimmed, and one that is blank is none. -/
example :
    Gateway.analyzeOf 500 (Text.toBytes "\x7b\"error\":\" no \"\x7d") = .ok (.failure " no ") ∧
      Gateway.verdictOf 200 (Text.toBytes "\x7b\"message\":\"\u2003\"\x7d") =
        .ok (.rejected none) := by
  decide +kernel

end Workbench
