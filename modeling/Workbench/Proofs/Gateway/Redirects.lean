import Workbench.Gateway.Basic

/-!
# Redirects

A call sends one request, and gets along with it unless a response asks for another one in its
place. Such a response either wants the same request at another address, or only a look there,
with nothing handed in any more.

* `Trail` — the requests that one request leads to.
* `Reads` — the response that is read in the end.
* `FollowsAll` — no redirect is left out that may be followed.
* `fetch_spec`, `Trail.fetch_eq` — fetching sends the requests of a trail, and receives the response
  that is read.
* `SameBefore`, `fetch_congr` — what becomes of later requests makes no difference.
-/

namespace Workbench.Gateway

open Workbench.Text (Bytes)

/-- A response asks for another request in place of the one that it answers. -/
inductive Redirects (r : Request) : Delivery → Request → Prop where
  /-- For the same one at another address. -/
  | again {status : Nat} {target : Url} {body : Bytes} : status = 307 ∨ status = 308 →
      Redirects r (.located status target body) { r with url := target }
  /-- For a look at another address. -/
  | look {status : Nat} {target : Url} {body : Bytes} :
      status = 301 ∨ status = 302 ∨ status = 303 →
      Redirects r (.located status target body) ⟨.get, target, ""⟩

/-- The requests that one request leads to after some traffic, with what becomes of them: itself,
and one after the other those that the responses ask for. -/
inductive Trail (network : Network) : Traffic → Request → Traffic → Prop where
  /-- Nothing comes after it. -/
  | last (before : Traffic) (r : Request) : Trail network before r [(r, network before r)]
  /-- The response to it asks for the next one. -/
  | next {before rest : Traffic} {r next : Request} : Redirects r (network before r) next →
      isWeb next.url = true → Trail network (before ++ [(r, network before r)]) next rest →
      Trail network before r ((r, network before r) :: rest)

/-- What became of the last request, which asks for no other one. -/
def Ends (sent : Traffic) (delivery : Delivery) : Prop :=
  ∃ front r, sent = front ++ [(r, delivery)] ∧ ∀ next, ¬Redirects r delivery next

/-- A response is read: it is that to the last request, and asks for no other one. -/
def Reads (sent : Traffic) (status : Nat) (body : Bytes) : Prop :=
  ∃ delivery, Ends sent delivery ∧
    (delivery = .answered status body ∨ ∃ target, delivery = .located status target body)

/-- Redirects are followed as far as they may be. -/
structure FollowsAll (hops : Nat) (sent : Traffic) : Prop where
  /-- No more of them are followed than may be. -/
  length_le : sent.length ≤ hops + 1
  /-- Where the last response asks for one more request, this is one redirect too many, or it leads
  out of the web. -/
  stops : ∀ r delivery next, sent.getLast? = some (r, delivery) → Redirects r delivery next →
    sent.length = hops + 1 ∨ isWeb next.url = false

/-- Two networks do the same with all requests that belong to some traffic. -/
def SameBefore (traffic : Traffic) (network network' : Network) : Prop :=
  ∀ before r, before <+: traffic → before ≠ traffic → network' before r = network before r

section

variable {network network' : Network} {before sent rest : Traffic} {r next : Request}
  {delivery : Delivery} {hops status : Nat} {body : Bytes}

theorem redirect?_eq_some_iff : delivery.redirect? r = some next ↔ Redirects r delivery next := by
  constructor
  · intro h
    unfold Delivery.redirect? at h
    split at h
    next =>
      split at h
      next hstatus =>
        cases h
        exact .again hstatus
      next =>
        split at h
        next hstatus =>
          cases h
          exact .look hstatus
        next => cases h
    next => cases h
  · rintro (hstatus | hstatus)
    · rw [Delivery.redirect?, if_pos hstatus]
    · rw [Delivery.redirect?, if_neg (by omega), if_pos hstatus]

theorem redirect?_eq_none_iff :
    delivery.redirect? r = none ↔ ∀ next, ¬Redirects r delivery next := by
  rw [Option.eq_none_iff_forall_ne_some]
  exact forall_congr' fun next => not_congr redirect?_eq_some_iff

/-- A response asks for one other request at most. -/
theorem Redirects.unique {next' : Request} (h : Redirects r delivery next)
    (h' : Redirects r delivery next') : next = next' :=
  Option.some.inj ((redirect?_eq_some_iff.mpr h).symm.trans (redirect?_eq_some_iff.mpr h'))

theorem receive_eq_ok_iff : receive r delivery = .ok (status, body) ↔
    delivery = .answered status body ∨ ∃ target, delivery = .located status target body := by
  cases delivery <;> simp [receive]

/-- What is asked for is the same request at another address, or a look that hands in nothing. -/
theorem Redirects.same_or_look (h : Redirects r delivery next) :
    next.method = r.method ∧ next.body = r.body ∨ next.method = .get ∧ next.body = "" := by
  cases h with
  | again => exact .inl ⟨rfl, rfl⟩
  | look => exact .inr ⟨rfl, rfl⟩

/-! ### Trails -/

theorem Trail.ne_nil (h : Trail network before r sent) : sent ≠ [] := by
  cases h <;> exact List.cons_ne_nil _ _

/-- All along a trail there is the same request at other addresses, or a look that hands in
nothing. -/
theorem Trail.same_or_look (h : Trail network before r sent) :
    ∀ e ∈ sent, e.1.method = r.method ∧ e.1.body = r.body ∨
      e.1.method = .get ∧ e.1.body = "" := by
  induction h with
  | last before r =>
    intro e he
    rw [List.mem_singleton.mp he]
    exact .inl ⟨rfl, rfl⟩
  | next hredirects _ _ ih =>
    intro e he
    rcases List.mem_cons.mp he with rfl | he
    · exact .inl ⟨rfl, rfl⟩
    · rcases ih e he with ⟨hmethod, hbody⟩ | hlook
      · rcases hredirects.same_or_look with ⟨hm, hb⟩ | ⟨hm, hb⟩
        · exact .inl ⟨hmethod.trans hm, hbody.trans hb⟩
        · exact .inr ⟨hmethod.trans hm, hbody.trans hb⟩
      · exact .inr hlook

/-- Only the last request counts. -/
theorem ends_cons {e : Request × Delivery} (hne : rest ≠ []) :
    Ends (e :: rest) delivery ↔ Ends rest delivery := by
  constructor
  · rintro ⟨front, r, hsent, hnone⟩
    cases front with
    | nil => exact absurd (List.cons.inj hsent).2 hne
    | cons e' front => exact ⟨front, r, (List.cons.inj hsent).2, hnone⟩
  · rintro ⟨front, r, rfl, hnone⟩
    exact ⟨e :: front, r, rfl, hnone⟩

theorem ends_singleton {d : Delivery} :
    Ends [(r, d)] delivery ↔ d = delivery ∧ ∀ next, ¬Redirects r d next := by
  constructor
  · rintro ⟨front, q, hsent, hnone⟩
    cases front with
    | nil =>
      cases hsent
      exact ⟨rfl, hnone⟩
    | cons e front =>
      exact absurd (List.cons.inj hsent).2.symm (List.append_ne_nil_of_right_ne_nil _ nofun)
  · rintro ⟨rfl, hnone⟩
    exact ⟨[], r, rfl, hnone⟩

theorem Reads.ne_nil (h : Reads sent status body) : sent ≠ [] := by
  obtain ⟨delivery, ⟨front, r, rfl, -⟩, -⟩ := h
  exact List.append_ne_nil_of_right_ne_nil _ (List.cons_ne_nil _ _)

/-- One request follows all redirects if it is asked for no other one, or is not to follow that. -/
theorem followsAll_singleton
    (h : ∀ next, Redirects r delivery next → hops = 0 ∨ isWeb next.url = false) :
    FollowsAll hops [(r, delivery)] where
  length_le := Nat.le_add_left 1 hops
  stops r' delivery' next hlast hredirects := by
    cases hlast
    refine (h next hredirects).imp_left fun hzero => ?_
    rw [hzero]
    rfl

/-- One redirect more may be followed from one request before. -/
theorem FollowsAll.cons {e : Request × Delivery} (h : FollowsAll hops rest) (hne : rest ≠ []) :
    FollowsAll (hops + 1) (e :: rest) where
  length_le := Nat.succ_le_succ h.length_le
  stops r delivery next hlast hredirects := by
    obtain ⟨e', rest, rfl⟩ := List.exists_cons_of_ne_nil hne
    rw [List.getLast?_cons_cons] at hlast
    exact (h.stops r delivery next hlast hredirects).imp_left (congrArg Nat.succ)

/-! ### One request and the next -/

/-- A response that asks for nothing else is the end. -/
theorem send_of_final (h : ∀ next, ¬Redirects r (network before r) next) :
    send network hops before r = (.ok (network before r), before ++ [(r, network before r)]) := by
  unfold send
  simp only [redirect?_eq_none_iff.mpr h]

/-- A response that asks for another request is followed as long as redirects are left, unless it
leads out of the web. -/
theorem send_of_redirects (h : Redirects r (network before r) next) :
    send network (hops + 1) before r =
      if isWeb next.url then send network hops (before ++ [(r, network before r)]) next
      else (.error (unsendable next.url), before ++ [(r, network before r)]) := by
  rw [send]
  simp only [redirect?_eq_some_iff.mpr h]

theorem send_of_exhausted (h : Redirects r (network before r) next) :
    send network 0 before r =
      (.error (.transport ("error following redirect for url (" ++ r.url.text ++ ")")),
        before ++ [(r, network before r)]) := by
  unfold send
  simp only [redirect?_eq_some_iff.mpr h]

/-! ### What is sent, and what is read -/

/-- What is sent is a trail along all redirects that may be followed, and it comes to what became of
the last request of it. -/
theorem send_spec (network : Network) (hops : Nat) (before : Traffic) (r : Request) :
    ∃ sent, (send network hops before r).2 = before ++ sent ∧ Trail network before r sent ∧
      FollowsAll hops sent ∧
      ∀ delivery, (send network hops before r).1 = .ok delivery ↔ Ends sent delivery := by
  have hfails {e : GatewayError} {next : Request} (h : Redirects r (network before r) next)
      (delivery : Delivery) :
      (Except.error e : Except GatewayError Delivery) = .ok delivery ↔
        Ends [(r, network before r)] delivery :=
    iff_of_false nofun fun hends => (ends_singleton.mp hends).2 next h
  by_cases hredirects : ∃ next, Redirects r (network before r) next
  · obtain ⟨next, hnext⟩ := hredirects
    cases hops with
    | zero =>
      rw [send_of_exhausted hnext]
      exact ⟨_, rfl, .last before r, followsAll_singleton fun _ _ => .inl rfl, hfails hnext⟩
    | succ hops =>
      rw [send_of_redirects hnext]
      split
      next hweb =>
        obtain ⟨sent, htraffic, htrail, hfollows, hends⟩ :=
          send_spec network hops (before ++ [(r, network before r)]) next
        refine ⟨_ :: sent, ?_, .next hnext hweb htrail, hfollows.cons htrail.ne_nil, fun d => ?_⟩
        · rw [htraffic, List.append_assoc]
          rfl
        · rw [hends d, ends_cons htrail.ne_nil]
      next hweb =>
        refine ⟨_, rfl, .last before r, followsAll_singleton fun next' hnext' => .inr ?_,
          hfails hnext⟩
        rw [Redirects.unique hnext' hnext, Bool.eq_false_iff.mpr hweb]
  · rw [not_exists] at hredirects
    rw [send_of_final hredirects]
    refine ⟨_, rfl, .last before r,
      followsAll_singleton fun next hnext => absurd hnext (hredirects next), fun delivery => ?_⟩
    rw [ends_singleton, and_iff_left hredirects, Except.ok.injEq]

/-- A trail that comes to an end is what is sent. -/
theorem Trail.send_eq (h : Trail network before r sent) (hlength : sent.length ≤ hops + 1)
    (hends : Ends sent delivery) : send network hops before r = (.ok delivery, before ++ sent) := by
  induction h generalizing hops with
  | last before r =>
    obtain ⟨rfl, hnone⟩ := ends_singleton.mp hends
    exact send_of_final hnone
  | @next before rest r next hredirects hweb htrail ih =>
    have hne := htrail.ne_nil
    cases hops with
    | zero => exact absurd (List.length_eq_zero_iff.mp (by simpa using hlength)) hne
    | succ hops =>
      rw [send_of_redirects hredirects, if_pos hweb,
        ih (Nat.le_of_succ_le_succ hlength) ((ends_cons hne).mp hends), List.append_assoc]
      rfl

theorem fetch_traffic (network : Network) (before : Traffic) (r : Request) :
    (fetch network before r).2 = (send network redirectLimit before r).2 := by
  unfold fetch
  split
  next h => rw [h]
  next h => rw [h]

/-- What is sent is a trail along all redirects that may be followed, and what is received is the
response that is read. -/
theorem fetch_spec (network : Network) (before : Traffic) (r : Request) :
    ∃ sent, (fetch network before r).2 = before ++ sent ∧ Trail network before r sent ∧
      FollowsAll redirectLimit sent ∧
      ∀ status body, (fetch network before r).1 = .ok (status, body) ↔ Reads sent status body := by
  obtain ⟨sent, htraffic, htrail, hfollows, hends⟩ := send_spec network redirectLimit before r
  refine ⟨sent, (fetch_traffic network before r).trans htraffic, htrail, hfollows,
    fun status body => ?_⟩
  unfold fetch
  split
  next h =>
    rw [h] at hends
    refine iff_of_false nofun ?_
    rintro ⟨delivery, hdelivery, -⟩
    cases (hends delivery).mpr hdelivery
  next delivery _ h =>
    rw [h] at hends
    constructor
    · exact fun hreceive => ⟨delivery, (hends delivery).mp rfl, receive_eq_ok_iff.mp hreceive⟩
    · rintro ⟨delivery', hdelivery, hbrings⟩
      cases (hends delivery').mpr hdelivery
      exact receive_eq_ok_iff.mpr hbrings

/-- A response that names no address is received at once. -/
theorem fetch_of_answered (h : network before r = .answered status body) :
    fetch network before r = (.ok (status, body), before ++ [(r, .answered status body)]) := by
  rw [fetch, send_of_final (h ▸ nofun), h]
  rfl

/-- A call whose request cannot be made sends nothing. -/
theorem exchange_of_error {α : Type} {g : Gateway} {c : Call α} {e : GatewayError}
    (h : g.requestOf c = .error e) : g.exchange network before c = (.error e, before) := by
  rw [exchange, h]

/-- A call has an answer where the response that is received is read as one. -/
theorem exchange_eq_ok_iff {α : Type} {g : Gateway} {c : Call α} {x : α}
    (hr : g.requestOf c = .ok r) : (g.exchange network before c).1 = .ok x ↔
      ∃ status body, (fetch network before r).1 = .ok (status, body) ∧
        c.read status body = .ok x := by
  rw [exchange, hr]
  dsimp only
  rcases fetch network before r with ⟨e | ⟨status, body⟩, sent⟩
  · simp only [reduceCtorEq, false_and, exists_false]
  · simp only [Except.ok.injEq, Prod.mk.injEq]
    constructor
    · exact fun hread => ⟨status, body, ⟨rfl, rfl⟩, hread⟩
    · rintro ⟨_, _, ⟨rfl, rfl⟩, hread⟩
      exact hread

theorem exchange_of_answered {α : Type} {g : Gateway} {c : Call α} (hr : g.requestOf c = .ok r)
    (h : network before r = .answered status body) :
    g.exchange network before c = (c.read status body, before ++ [(r, .answered status body)]) := by
  simp only [exchange, hr, fetch_of_answered h]

/-- A trail on which a response is read is what is sent. -/
theorem Trail.fetch_eq (h : Trail network before r sent) (hlength : sent.length ≤ redirectLimit + 1)
    (hreads : Reads sent status body) :
    fetch network before r = (.ok (status, body), before ++ sent) := by
  obtain ⟨delivery, hends, hbrings⟩ := hreads
  rw [fetch, h.send_eq hlength hends]
  dsimp only
  rw [receive_eq_ok_iff.mpr hbrings]

/-! ### Networks that do the same -/

theorem SameBefore.first (h : SameBefore (send network hops before r).2 network network') :
    network' before r = network before r := by
  obtain ⟨sent, htraffic, htrail, -⟩ := send_spec network hops before r
  rw [htraffic] at h
  refine h before r (List.prefix_append _ _) fun hbefore => ?_
  exact htrail.ne_nil (List.append_right_eq_self.mp hbefore.symm)

/-- What becomes of later requests makes no difference. -/
theorem send_congr (hops : Nat) (before : Traffic) (r : Request)
    (h : SameBefore (send network hops before r).2 network network') :
    send network' hops before r = send network hops before r := by
  have hsame := h.first
  by_cases hredirects : ∃ next, Redirects r (network before r) next
  · obtain ⟨next, hnext⟩ := hredirects
    cases hops with
    | zero => rw [send_of_exhausted hnext, send_of_exhausted (hsame ▸ hnext), hsame]
    | succ hops =>
      rw [send_of_redirects hnext] at h ⊢
      rw [send_of_redirects (hsame ▸ hnext), hsame]
      split at h
      next hweb =>
        rw [if_pos hweb, if_pos hweb]
        exact send_congr hops _ next h
      next hweb => rw [if_neg hweb, if_neg hweb]
  · rw [not_exists] at hredirects
    rw [send_of_final hredirects, send_of_final (hsame ▸ hredirects), hsame]

theorem fetch_congr (h : SameBefore (fetch network before r).2 network network') :
    fetch network' before r = fetch network before r := by
  rw [fetch_traffic] at h
  rw [fetch, send_congr _ _ _ h, fetch]

end

end Workbench.Gateway
