import Workbench.Gateway.Basic
import Workbench.Proofs.Url.Paths

/-!
# Where requests go

The backend may live beneath a path of its own, and whoever writes down its address may or may not
end it in a slash. Resolving the path of an endpoint against the address replaces what stands behind
the last slash, so without one the last part of that path would be lost.

* `endpoints_lie_beneath` — every endpoint lies beneath the address of the backend, however it was
  written; nowhere lies beneath an address without a hierarchy, and nothing is sent there.
-/

namespace Workbench.Gateway

open Workbench.Url

/-- An address lies beneath a base: it has the scheme, host and port of the base, and a path that
goes on behind that of the base and a slash. -/
structure IsBeneath (base url : Url) (path : String) : Prop where
  /-- The scheme is the same. -/
  scheme : url.scheme = base.scheme
  /-- The host is the same. -/
  host : url.authority.map (·.host) = base.authority.map (·.host)
  /-- The port is the same. -/
  port : url.authority.map (·.port) = base.authority.map (·.port)
  /-- The path goes on. -/
  path : url.path.text = slashed base.path.text ++ path
  /-- There is no query. -/
  query : url.query = none
  /-- There is no fragment. -/
  fragment : url.fragment = none

/-- The segments of the path of an endpoint. -/
def Endpoint.segments : Endpoint → List String
  | .signUp => ["auth", "signup"]
  | .signIn => ["auth", "signin"]
  | .check => ["api", "check"]
  | .analyze => ["code", "analyze"]
  | .optimize => ["code", "optimize"]

/-- The address of an endpoint beneath one that has the given segments. -/
def Endpoint.beneath (e : Endpoint) (u : Url) (parts : List String) : Url :=
  { u with path := .segments (stem parts ++ e.segments), query := none, fragment := none }

theorem Endpoint.segments_kept (e : Endpoint) : ∀ p ∈ e.segments, IsKept p := by
  cases e <;> decide

theorem Endpoint.segments_ne_nil (e : Endpoint) : e.segments ≠ [] := by
  cases e <;> exact List.cons_ne_nil _ _

theorem Endpoint.text_segments (e : Endpoint) :
    (Path.segments e.segments).text = "/" ++ e.path := by
  cases e <;> decide +kernel

section

variable {u : Url} {parts : List String}

/-- The address of an endpoint keeps all segments of the base and adds its own. -/
theorem join_endpoint (h : WebPath u parts) (e : Endpoint) :
    (ofUrl u).base.join e.path = .ok (e.beneath u parts) := by
  have hjoin := h.withTrailingSlash.join_eq e.segments_ne_nil e.segments_kept e.text_segments
  rw [List.dropLast_concat, h.withTrailingSlash_eq] at hjoin
  rw [ofUrl, h.withTrailingSlash_eq]
  exact hjoin

theorem isBeneath_endpoint (h : WebPath u parts) (e : Endpoint) :
    IsBeneath u (e.beneath u parts) e.path := by
  refine ⟨rfl, rfl, rfl, ?_, rfl, rfl⟩
  rw [Endpoint.beneath, ← h.text_stem, text_append, text_append, e.text_segments, text_empty,
    String.append_assoc]

/-- Without user name and password an address is as far beneath a base as with them. -/
theorem IsBeneath.withoutUser {url : Url} {path : String} (h : IsBeneath u url path) :
    IsBeneath u (withoutUser url) path := by
  unfold Gateway.withoutUser
  split
  next => exact h
  next a ha =>
    split
    next =>
      have hhost := h.host
      have hport := h.port
      rw [ha] at hhost hport
      exact ⟨h.scheme, hhost, hport, h.path, h.query, h.fragment⟩
    next => exact h

/-- A request goes to the address of its endpoint, without user name and password. -/
theorem url_of_requestOf {g : Gateway} {α : Type} {c : Call α} {r : Request}
    (h : g.requestOf c = .ok r) : ∃ url, g.base.join c.endpoint.path = .ok url ∧
      r.url = Gateway.withoutUser url := by
  unfold requestOf request at h
  split at h
  next => cases h
  next url hurl =>
    dsimp only at h
    split at h
    next =>
      cases h
      exact ⟨url, hurl, rfl⟩
    next => cases h

end

/-- An address without a hierarchy has none with a slash at its end either. -/
theorem verbatim_withTrailingSlash {u : Url} {text : String} (h : u.path = .verbatim text) :
    ∃ text', u.withTrailingSlash.path = .verbatim text' := by
  unfold Url.withTrailingSlash
  split
  next => exact ⟨text, h⟩
  next =>
    simp only [setPath, h, Path.replace]
    split <;> exact ⟨_, rfl⟩

/-- Nothing is sent to an address without a hierarchy. -/
theorem exchange_of_verbatim {u : Url} {text : String} (h : u.path = .verbatim text) {α : Type}
    (c : Call α) (network : Network) (traffic : Traffic) : ∃ reason,
      (ofUrl u).exchange network traffic c = (.error (.transport reason), traffic) := by
  obtain ⟨text', htext⟩ := verbatim_withTrailingSlash h
  have hjoin : (ofUrl u).base.join c.endpoint.path = .error .notJoinable := by
    rw [ofUrl, join, htext]
  exact ⟨_, by rw [exchange, requestOf, request, hjoin]⟩

/-- **Every endpoint lies beneath the address of the backend**, an address of the web of whatever
form: all segments of its path are kept, whether it ends in a slash or not, and query and fragment
make no difference. An address without a hierarchy has nothing beneath it, and all calls to it fail
without a request. -/
theorem endpoints_lie_beneath {s : String} {u : Url} (h : Url.parse s = .ok u)
    (hweb : IsWeb u.scheme) :
    u.withTrailingSlash.withTrailingSlash = u.withTrailingSlash ∧
    (∀ e : Endpoint, ∃ url parts, (ofUrl u).base.join e.path = .ok url ∧ IsBeneath u url e.path ∧
      u.path = .segments parts ∧ url.path = .segments (stem parts ++ e.segments)) ∧
    (∀ (α : Type) (c : Call α) (r : Request), (ofUrl u).requestOf c = .ok r →
      IsBeneath u r.url c.endpoint.path) ∧
    (∀ (s' : String) (u' : Url), Url.parse s' = .ok u' → u'.scheme = u.scheme →
      u'.authority = u.authority → slashed u'.path.text = slashed u.path.text →
      ∀ e : Endpoint, (ofUrl u').base.join e.path = (ofUrl u).base.join e.path) ∧
    ∀ (v : Url) (text : String), v.path = .verbatim text →
      ∀ (α : Type) (c : Call α) (network : Network) (traffic : Traffic), ∃ reason,
        (ofUrl v).exchange network traffic c = (.error (.transport reason), traffic) := by
  obtain ⟨parts, hu⟩ := webPath_of_parse h hweb
  refine ⟨?_, fun e => ⟨_, parts, join_endpoint hu e, isBeneath_endpoint hu e, hu.path, rfl⟩,
    fun α c r hr => ?_, fun s' u' h' hscheme hauthority htext e => ?_,
    fun v text hv α c network traffic => exchange_of_verbatim hv c network traffic⟩
  · rw [hu.withTrailingSlash.withTrailingSlash_eq, stem_concat, hu.withTrailingSlash_eq]
  · obtain ⟨url, hurl, hr⟩ := url_of_requestOf hr
    rw [join_endpoint hu] at hurl
    cases hurl
    exact hr ▸ (isBeneath_endpoint hu c.endpoint).withoutUser
  · obtain ⟨parts', hu'⟩ := webPath_of_parse h' (hscheme ▸ hweb)
    rw [join_endpoint hu', join_endpoint hu, Endpoint.beneath, Endpoint.beneath,
      hu'.stem_eq_of_text hu htext, hscheme, hauthority]

/-- For instance, beneath a path without a slash at its end, and with a query that is dropped. -/
theorem endpoints_lie_beneath_prefix :
    let u : Url := ⟨"http", some ⟨"", "", .name "h", some 81⟩, .segments ["a"], some "q", some "f"⟩
    let u' : Url := ⟨"http", some ⟨"", "", .name "h", some 81⟩, .segments ["a", ""], none, none⟩
    let v : Url := ⟨"mailto", none, .verbatim "x", none, none⟩
    (Url.parse "http://h:81/a?q#f" = .ok u ∧ IsWeb u.scheme ∧ Url.parse "http://h:81/a/" = .ok u' ∧
      Url.parse "mailto:x" = .ok v) ∧
      u.withTrailingSlash.withTrailingSlash = u.withTrailingSlash ∧
      (ofUrl u').base.join "code/analyze" = (ofUrl u).base.join "code/analyze" ∧
      ∃ reason, (ofUrl v).exchange Network.down [] (check ⟨"x"⟩) =
        (.error (.transport reason), []) := by
  intro u u' v
  have hu : Url.parse "http://h:81/a?q#f" = .ok u := by rfl
  have hu' : Url.parse "http://h:81/a/" = .ok u' := by rfl
  have hv : Url.parse "mailto:x" = .ok v := by rfl
  obtain ⟨hslash, -, -, hsame, hverbatim⟩ := endpoints_lie_beneath hu (.inl rfl)
  exact ⟨⟨hu, .inl rfl, hu', hv⟩, hslash, hsame _ u' hu' rfl rfl (by decide +kernel) .analyze,
    hverbatim v "x" rfl _ _ _ _⟩

end Workbench.Gateway
