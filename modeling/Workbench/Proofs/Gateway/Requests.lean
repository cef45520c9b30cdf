import Workbench.Proofs.Account.Secrets
import Workbench.Proofs.Gateway.Redirects
import Workbench.Proofs.Json.Compact

/-!
# What requests carry

Names, passwords and code are texts of any kind, and code is likely to be full of quotes,
backslashes and braces. A request carries them inside an object, and the backend has to find in it
what was meant and nothing else.

* `requests_are_faithful` — every call posts one request at most, which carries just the fields of
  the call as they are, and posts it again only where a response asks for that; so different things
  are never sent as the same body, and code is registered by the request that has it analyzed.
* `posted_again` — a response may ask for the same request at another address.
-/

namespace Workbench.Gateway

open Workbench.Json
open Workbench.Account (SignUp SignIn)

/-- A request carries some fields: its body is an object with these members, in this order, and no
others. -/
structure Carries (r : Request) (fields : List (String × String)) : Prop where
  /-- The body is such an object by the grammar. -/
  spells : SpellsTexts fields (Text.toBytes r.body)
  /-- It is parsed as such an object. -/
  parses : Json.parse (Text.toBytes r.body) = .ok (.ofTexts fields)

/-- A call posts one request at most, which carries the given fields, unless a response asks for the
same request at another address: then it posts that too. -/
inductive Posts {α : Type} (g : Gateway) (network : Network) (traffic : Traffic) (c : Call α)
    (fields : List (String × String)) : Prop where
  /-- It fails without a request. -/
  | nothing (e : GatewayError) : g.exchange network traffic c = (.error e, traffic) →
      Posts g network traffic c fields
  /-- It posts a request, and goes on as the responses ask for it, up to a limit. What it posts
  always carries the fields, and all else that it sends are looks. -/
  | sent (r : Request) (sent : Traffic) : r.method = .post →
      (g.exchange network traffic c).2 = traffic ++ sent → Trail network traffic r sent →
      FollowsAll redirectLimit sent →
      (∀ e ∈ sent, e.1.method = .post ∧ Carries e.1 fields ∨ e.1.method = .get ∧ e.1.body = "") →
      Posts g network traffic c fields

/-- Calls of one kind, to whatever address, never have the same body for different things. -/
def Distinguishes {σ α : Type} (call : σ → Call α) : Prop :=
  ∀ ⦃g g' : Gateway⦄ ⦃x x' : σ⦄ ⦃r r' : Request⦄, g.requestOf (call x) = .ok r →
    g'.requestOf (call x') = .ok r' → r.body = r'.body → x = x'

section

variable {g : Gateway} {network : Network} {traffic : Traffic} {α σ : Type} {r : Request}

/-- The request of a call is posted, and has the fields as its body. -/
theorem requestOf_eq_ok {c : Call α} (h : g.requestOf c = .ok r) :
    r.method = .post ∧ r.body = compactObject c.fields := by
  unfold requestOf request at h
  split at h
  next => cases h
  next =>
    dsimp only at h
    split at h
    next =>
      cases h
      exact ⟨rfl, rfl⟩
    next => cases h

theorem carries_of_body {fields : List (String × String)} (h : r.body = compactObject fields) :
    Carries r fields := by
  have hspells := spellsTexts_compactObject fields
  rw [← h] at hspells
  exact ⟨hspells, hspells.parse⟩

/-- All that is sent for a request is posted with its fields, or is a look. -/
theorem Trail.carries {c : Call α} {sent : Traffic} (h : Trail network traffic r sent)
    (hr : g.requestOf c = .ok r) : ∀ e ∈ sent,
      e.1.method = .post ∧ Carries e.1 c.fields ∨ e.1.method = .get ∧ e.1.body = "" := by
  obtain ⟨hpost, hfields⟩ := requestOf_eq_ok hr
  exact fun e he => (h.same_or_look e he).imp_left fun ⟨hmethod, hbody⟩ =>
    ⟨hmethod.trans hpost, carries_of_body (hbody.trans hfields)⟩

/-- What a call sends does not depend on how the response is read. -/
theorem exchange_traffic {c : Call α} (h : g.requestOf c = .ok r) :
    (g.exchange network traffic c).2 = (fetch network traffic r).2 := by
  simp only [exchange, h]
  split
  next hfetch => rw [hfetch]
  next hfetch => rw [hfetch]

/-- Whatever a call is, its requests carry its fields. -/
theorem posts_fields (c : Call α) : Posts g network traffic c c.fields := by
  cases h : g.requestOf c with
  | error e => exact .nothing e (exchange_of_error h)
  | ok r =>
    obtain ⟨sent, hsent, htrail, hfollows, -⟩ := fetch_spec network traffic r
    exact .sent r sent (requestOf_eq_ok h).1 ((exchange_traffic h).trans hsent) htrail hfollows
      (htrail.carries h)

/-- Calls of one kind tell apart whatever their fields tell apart. -/
theorem Distinguishes.of_fields {call : σ → Call α}
    (h : ∀ x x', (call x).fields = (call x').fields → x = x') : Distinguishes call := by
  intro g g' x x' r r' hr hr' hbody
  rw [(requestOf_eq_ok hr).2, (requestOf_eq_ok hr').2] at hbody
  exact h x x' (compactObject_injective hbody)

end

/-! ### The fields of different things -/

theorem signUpFields_injective {c c' : SignUp} (h : signUpFields c = signUpFields c') : c = c' := by
  simp only [signUpFields, List.cons.injEq, Prod.mk.injEq, true_and, and_true] at h
  obtain ⟨hname, hemail, hpassword⟩ := h
  cases c
  cases c'
  cases Account.Identifier.eq_of_text hemail
  cases hname
  cases hpassword
  rfl

theorem signInFields_injective {c c' : SignIn} (h : signInFields c = signInFields c') : c = c' := by
  simp only [signInFields, List.cons.injEq, Prod.mk.injEq, true_and, and_true] at h
  obtain ⟨hemail, hpassword⟩ := h
  cases c
  cases c'
  cases Account.Identifier.eq_of_text hemail
  cases hpassword
  rfl

theorem checkFields_injective {code code' : Submission} (h : checkFields code = checkFields code') :
    code = code' := by
  simp only [checkFields, List.cons.injEq, Prod.mk.injEq, true_and, and_true] at h
  cases code
  cases code'
  cases h
  rfl

theorem accountFields_injective {user user' : Identifier} {code code' : Submission}
    (h : accountFields user code = accountFields user' code') : (user, code) = (user', code') := by
  simp only [accountFields, List.cons.injEq, Prod.mk.injEq, true_and, and_true] at h
  obtain ⟨huser, hcode⟩ := h
  cases Account.Identifier.eq_of_text huser
  cases code
  cases code'
  cases hcode
  rfl

/-! ### Requests -/

/-- **Every call posts one request at most, which carries just the fields of the call as they are**,
whatever characters they are made of, unless a response asks for the same request at another
address; then it is posted there as it is, and so on for some times. All else that a call sends are
looks at the addresses that responses name, which hand in nothing. So different things are never
sent as the same body, and code is registered by the very requests that have it analyzed. -/
theorem requests_are_faithful (g : Gateway) (network : Network) (traffic : Traffic) :
    ((∀ c : SignUp, Posts g network traffic (signUp c)
        [("name", c.name), ("email", c.email.text), ("password", c.password)]) ∧
      (∀ c : SignIn, Posts g network traffic (signIn c)
        [("email", c.email.text), ("password", c.password)]) ∧
      (∀ code : Submission, Posts g network traffic (check code) [("code", code.code)]) ∧
      ∀ (user : Identifier) (code : Submission),
        Posts g network traffic (analyze user code) [("email", user.text), ("code", code.code)] ∧
        Posts g network traffic (optimize user code) [("email", user.text), ("code", code.code)] ∧
        Posts g network traffic (register user code) [("email", user.text), ("code", code.code)]) ∧
    (Distinguishes signUp ∧ Distinguishes signIn ∧ Distinguishes check ∧
      Distinguishes (fun x : Identifier × Submission => analyze x.1 x.2) ∧
      Distinguishes (fun x : Identifier × Submission => optimize x.1 x.2) ∧
      Distinguishes (fun x : Identifier × Submission => register x.1 x.2)) ∧
    ∀ (user : Identifier) (code : Submission),
      g.requestOf (register user code) = g.requestOf (analyze user code) ∧
        (g.exchange network traffic (register user code)).2 =
          (g.exchange network traffic (analyze user code)).2 := by
  refine ⟨⟨fun c => posts_fields (signUp c), fun c => posts_fields (signIn c),
    fun code => posts_fields (check code), fun user code => ⟨posts_fields (analyze user code),
      posts_fields (optimize user code), posts_fields (register user code)⟩⟩,
    ⟨.of_fields fun _ _ => signUpFields_injective, .of_fields fun _ _ => signInFields_injective,
      .of_fields fun _ _ => checkFields_injective, ?_⟩, fun user code => ⟨rfl, ?_⟩⟩
  · have haccount {α : Type} {call : Identifier × Submission → Call α}
        (hfields : ∀ x, (call x).fields = accountFields x.1 x.2) : Distinguishes call :=
      .of_fields fun x x' h => accountFields_injective (by rwa [hfields, hfields] at h)
    exact ⟨haccount fun _ => rfl, haccount fun _ => rfl, haccount fun _ => rfl⟩
  · have hrequest : g.requestOf (register user code) = g.requestOf (analyze user code) := rfl
    cases h : g.requestOf (analyze user code) with
    | error e => rw [exchange_of_error h, exchange_of_error (hrequest.trans h)]
    | ok r => rw [exchange_traffic h, exchange_traffic (hrequest.trans h)]

/-- A password is posted a second time, to an address that the response to the first request has
named. -/
theorem posted_again :
    let address (host path : String) : Url :=
      ⟨"http", some ⟨"", "", .name host, none⟩, .segments ["auth", path], none, none⟩
    let g : Gateway := ⟨⟨"http", some ⟨"", "", .name "stub", none⟩, .segments [""], none, none⟩⟩
    let c := signIn ⟨⟨"a@x.com", by decide, by decide⟩, "p"⟩
    let body := "\x7b\"email\":\"a@x.com\",\"password\":\"p\"\x7d"
    let network : Network := fun before _ =>
      if before = [] then .located 307 (address "other" "login") []
      else .answered 200 (Text.toBytes "\x7b\"success\":true\x7d")
    (g.exchange network [] c).2.map (·.1) =
        [⟨.post, address "stub" "signin", body⟩, ⟨.post, address "other" "login", body⟩] ∧
      (g.exchange network [] c).1 = .ok .accepted := by
  decide +kernel

end Workbench.Gateway
