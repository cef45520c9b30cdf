import Workbench.Proofs.Gateway.Verdicts

/-!
# What failures tell

When a response with an answer cannot be taken for one, its status should say why: a status that
tells of a failure is what the user hears of, and only where the status tells of success is it
the body that is blamed. Bodies are read whatever the status, so this has to hold for whatever
part of a body is found wanting.

* `failures_tell_status` — it does, but for analyses and optimizations that claim to be a success
  and bring nothing.
* `bare_success_hides_status` — of these the user hears the same whatever the status, even where
  it tells of a failure.
-/

namespace Workbench.Gateway

open Workbench.Json
open Workbench.Text (Bytes)

/-! ### Failures and bodies -/

/-- A failure that the status of a response accounts for. -/
inductive TellsStatus (status : Nat) (body : Bytes) : GatewayError → Prop where
  /-- The status tells of success, and the body is no good. -/
  | unreadable {reason : String} (success : status / 100 = 2) :
    TellsStatus status body (.decode reason)
  /-- The status says that it took too long. -/
  | late (expired : status = 408 ∨ status = 504) :
    TellsStatus status body (.timeout ("status " ++ toString status ++ ": " ++ preview body))
  /-- The status tells of another failure. -/
  | refused (failure : status / 100 ≠ 2) (inTime : status ≠ 408 ∧ status ≠ 504) :
    TellsStatus status body (.status status (preview body))

/-- A body is the text of a record whose flag is set and that comes without a text: where the
text should be there is nothing, or the literal `null`. -/
def FlaggedWithout (names : List String) (flag field : String) (body : Bytes) : Prop :=
  ∃ members, Written names body members ∧ HasOne members flag SaysTrue ∧
    ∀ m ∈ members, m.1 = field → m.2 = .null

/-- A call is answered with a status and a body, and fails nevertheless. -/
structure Fails {α : Type} (g : Gateway) (network : Network) (traffic : Traffic) (c : Call α)
    (status : Nat) (body : Bytes) (e : GatewayError) : Prop where
  /-- The call is answered. -/
  answers : Answers g network traffic c status body
  /-- It fails. -/
  fails : (g.exchange network traffic c).1 = .error e

/-! ### Statuses -/

section

variable {status : Nat} {body : Bytes} {e : GatewayError}

theorem isSuccess_iff : isSuccess status = true ↔ status / 100 = 2 := by
  simp only [isSuccess, Bool.and_eq_true, decide_eq_true_eq]
  omega

theorem tells_statusError (h : isSuccess status = false) :
    TellsStatus status body (statusError status body) := by
  have hfailure : status / 100 ≠ 2 := fun hsuccess => by
    rw [isSuccess_iff.mpr hsuccess] at h
    cases h
  unfold statusError
  split
  next hexpired => exact .late hexpired
  next hinTime => exact .refused hfailure (not_or.mp hinTime)

/-- A body that cannot be read is blamed only where the status tells of success. -/
theorem tells_of_decode {ρ : Type} {shape : Shape ρ} (h : decode shape status body = .error e) :
    TellsStatus status body e := by
  unfold decode at h
  split at h
  next => cases h
  next =>
    split at h
    next hsuccess =>
      cases h
      exact .unreadable (isSuccess_iff.mp hsuccess)
    next hfailure =>
      cases h
      exact tells_statusError (Bool.eq_false_iff.mpr hfailure)

/-- What is read of a body does not depend on the status. -/
theorem decode_of_ok {ρ : Type} {shape : Shape ρ} {r : ρ} (h : decode shape status body = .ok r)
    (status' : Nat) : decode shape status' body = .ok r := by
  cases hparse : shape.parse body with
  | ok r' =>
    rw [decode, hparse] at h ⊢
    exact h
  | error fault =>
    rw [decode, hparse] at h
    dsimp only at h
    split at h <;> cases h

/-- Where a record has no text, the member of its name is `null`, if there is one. -/
theorem null_of_textSlot {ρ : Type} {r : ρ} {members : List (String × Tree)} {name : String}
    {get : ρ → Option (Option String)} {set : Option String → ρ → ρ}
    {get_set : ∀ x r, get (set x r) = some x}
    (htells : (textSlot name get set get_set).Tells r members) (h : (get r).join = none) :
    ∀ m ∈ members, m.1 = name → m.2 = .null := by
  intro m hm hname
  rcases Option.join_eq_none_iff.mp h with hget | hget
  · exact absurd hname (htells.absent hget m hm)
  · obtain ⟨tree, hfilter, hnull⟩ := htells.only hget
    have hmem : m ∈ members.filter (·.1 = name) :=
      List.mem_filter.mpr ⟨hm, decide_eq_true hname⟩
    rw [show members.filter (·.1 = name) = [(name, tree)] from hfilter] at hmem
    rw [List.mem_singleton.mp hmem]
    exact hnull

/-! ### Responses -/

section

variable {ρ α : Type} {shape : Shape ρ} {outcome : ρ → Except String α}

/-- Reads a body, and what it means, which may be nothing at all. -/
def meaningOf (shape : Shape ρ) (outcome : ρ → Except String α) (status : Nat) (body : Bytes) :
    Except GatewayError α :=
  match decode shape status body with
  | .error e => .error e
  | .ok r =>
    match outcome r with
    | .error reason => .error (.decode reason)
    | .ok o => .ok o

/-- Where the status does not account for a failure, the body was read and means nothing, and
nothing depends on the status. -/
theorem meaningOf_error (h : meaningOf shape outcome status body = .error e) :
    TellsStatus status body e ∨ ∃ r reason, decode shape status body = .ok r ∧
      outcome r = .error reason ∧
      ∀ status', meaningOf shape outcome status' body = .error (.decode reason) := by
  cases hdecode : decode shape status body with
  | error e' =>
    rw [meaningOf, hdecode] at h
    cases h
    exact .inl (tells_of_decode hdecode)
  | ok r =>
    rw [meaningOf, hdecode] at h
    dsimp only at h
    cases houtcome : outcome r with
    | ok o =>
      rw [houtcome] at h
      cases h
    | error reason =>
      refine .inr ⟨r, reason, rfl, houtcome, fun status' => ?_⟩
      rw [meaningOf, decode_of_ok hdecode]
      dsimp only
      rw [houtcome]

/-- What is meant comes from a body that was read. -/
theorem meaningOf_ok {o : α} (h : meaningOf shape outcome status body = .ok o) :
    ∃ r, decode shape status body = .ok r ∧ outcome r = .ok o := by
  unfold meaningOf at h
  split at h
  next => cases h
  next r hr =>
    split at h
    next => cases h
    next houtcome =>
      cases h
      exact ⟨r, hr, houtcome⟩

end

theorem tells_of_verdictOf (h : verdictOf status body = .error e) : TellsStatus status body e := by
  unfold verdictOf at h
  split at h
  next hdecode =>
    cases h
    exact tells_of_decode hdecode
  next => cases h

theorem tells_of_compileOf (h : compileOf status body = .error e) : TellsStatus status body e := by
  unfold compileOf at h
  split at h
  next hdecode =>
    cases h
    exact tells_of_decode hdecode
  next => cases h

theorem analyzeOf_eq (status : Nat) (body : Bytes) :
    analyzeOf status body =
      meaningOf AnalyzeResponse.shape AnalyzeResponse.outcome status body := by
  unfold analyzeOf meaningOf
  cases decode AnalyzeResponse.shape status body with
  | error e => rfl
  | ok r =>
    dsimp only
    cases r.outcome <;> rfl

theorem optimizeOf_eq (status : Nat) (body : Bytes) :
    optimizeOf status body =
      meaningOf OptimizeResponse.shape OptimizeResponse.outcome status body := by
  unfold optimizeOf meaningOf
  cases decode OptimizeResponse.shape status body with
  | error e => rfl
  | ok r =>
    dsimp only
    cases r.outcome <;> rfl

/-- An analysis means nothing if it claims to be a success and has no complexity. -/
theorem AnalyzeResponse.outcome_error {r : AnalyzeResponse} {reason : String}
    (h : r.outcome = .error reason) :
    isSet r.success ∧ r.complexity.join = none ∧
      reason = "analysis succeeded without a complexity" := by
  unfold outcome at h
  split at h
  next hset =>
    split at h
    next => cases h
    next hnone =>
      cases h
      exact ⟨hset, hnone, rfl⟩
  next => cases h

/-- An optimization means nothing if it claims to be a success and has no code. -/
theorem OptimizeResponse.outcome_error {r : OptimizeResponse} {reason : String}
    (h : r.outcome = .error reason) :
    isSet r.success ∧ r.code.join = none ∧
      reason = "optimization succeeded without optimizedCode" := by
  unfold outcome at h
  split at h
  next hset =>
    split at h
    next => cases h
    next hnone =>
      cases h
      exact ⟨hset, hnone, rfl⟩
  next => cases h

/-- An analysis that fails where the status does not account for it claims to be a success. -/
theorem analyzeOf_error (h : analyzeOf status body = .error e) :
    TellsStatus status body e ∨
      FlaggedWithout ["success", "complexity", "error"] "success" "complexity" body ∧
        ∀ status', analyzeOf status' body =
          .error (.decode "analysis succeeded without a complexity") := by
  simp only [analyzeOf_eq] at h ⊢
  rcases meaningOf_error h with htells | ⟨r, reason, hread, houtcome, hall⟩
  · exact .inl htells
  · obtain ⟨hset, hnone, rfl⟩ := AnalyzeResponse.outcome_error houtcome
    obtain ⟨members, hwritten, htells⟩ := written_of_decode AnalyzeResponse.plan rfl hread
    exact .inr ⟨⟨members, hwritten, hasOne_flag (htells _ (.head _)) hset,
      null_of_textSlot (htells _ (.tail _ (.head _))) hnone⟩, hall⟩

/-- An optimization that fails where the status does not account for it claims to be a success. -/
theorem optimizeOf_error (h : optimizeOf status body = .error e) :
    TellsStatus status body e ∨
      FlaggedWithout ["success", "optimizedCode", "complexity", "error"] "success"
          "optimizedCode" body ∧
        ∀ status', optimizeOf status' body =
          .error (.decode "optimization succeeded without optimizedCode") := by
  simp only [optimizeOf_eq] at h ⊢
  rcases meaningOf_error h with htells | ⟨r, reason, hread, houtcome, hall⟩
  · exact .inl htells
  · obtain ⟨hset, hnone, rfl⟩ := OptimizeResponse.outcome_error houtcome
    obtain ⟨members, hwritten, htells⟩ := written_of_decode OptimizeResponse.plan rfl hread
    exact .inr ⟨⟨members, hwritten, hasOne_flag (htells _ (.head _)) hset,
      null_of_textSlot (htells _ (.tail _ (.head _))) hnone⟩, hall⟩

end

/-! ### Calls -/

theorem Fails.read_eq {α : Type} {g : Gateway} {network : Network} {traffic : Traffic}
    {c : Call α} {status : Nat} {body : Bytes} {e : GatewayError}
    (h : Fails g network traffic c status body e) : c.read status body = .error e :=
  h.answers.exchange_eq.symm.trans h.fails

/-- **Failures tell the status.** A call that is answered, with whatever status and body, and fails
nevertheless tells the status unless that is one of success. This is so for every call of an
account and every compilation. Of analyses and optimizations it is so unless the body is the text
of a record whose flag is set and that comes without the complexity or the code; then whatever the
status is, the failure is the same one, which says that the body was no good. -/
theorem failures_tell_status (g : Gateway) (network : Network) (traffic : Traffic) (status : Nat)
    (body : Bytes) (e : GatewayError) :
    (∀ c, Fails g network traffic (signUp c) status body e → TellsStatus status body e) ∧
    (∀ c, Fails g network traffic (signIn c) status body e → TellsStatus status body e) ∧
    (∀ code, Fails g network traffic (check code) status body e → TellsStatus status body e) ∧
    (∀ user code, Fails g network traffic (analyze user code) status body e →
      TellsStatus status body e ∨
        FlaggedWithout ["success", "complexity", "error"] "success" "complexity" body ∧
          ∀ status', (analyze user code).read status' body =
            .error (.decode "analysis succeeded without a complexity")) ∧
    (∀ user code, Fails g network traffic (optimize user code) status body e →
      TellsStatus status body e ∨
        FlaggedWithout ["success", "optimizedCode", "complexity", "error"] "success"
            "optimizedCode" body ∧
          ∀ status', (optimize user code).read status' body =
            .error (.decode "optimization succeeded without optimizedCode")) :=
  ⟨fun _ h => tells_of_verdictOf h.read_eq, fun _ h => tells_of_verdictOf h.read_eq,
    fun _ h => tells_of_compileOf h.read_eq, fun _ _ h => analyzeOf_error h.read_eq,
    fun _ _ h => optimizeOf_error h.read_eq⟩

/-- The status of a failure goes untold: the backend breaks down over an analysis, or takes too long
over an optimization, and the user hears of neither. -/
theorem bare_success_hides_status :
    let g : Gateway := ⟨⟨"http", some ⟨"", "", .name "stub", none⟩, .segments [""], none, none⟩⟩
    let user : Identifier := ⟨"a@x.com", by decide, by decide⟩
    let body := Text.toBytes "\x7b\"success\":true\x7d"
    Fails g (fun _ _ => .answered 500 body) [] (analyze user ⟨"x"⟩) 500 body
        (.decode "analysis succeeded without a complexity") ∧
      Fails g (fun _ _ => .answered 504 body) [] (optimize user ⟨"x"⟩) 504 body
        (.decode "optimization succeeded without optimizedCode") ∧
      ∀ reason,
        ¬TellsStatus 500 body (.decode reason) ∧ ¬TellsStatus 504 body (.decode reason) := by
  intro g user body
  refine ⟨⟨answers_of_answered rfl rfl, by decide +kernel⟩,
    ⟨answers_of_answered rfl rfl, by decide +kernel⟩, fun reason => ?_⟩
  have hnot {status : Nat} (h : status / 100 ≠ 2) : ¬TellsStatus status body (.decode reason) := by
    rintro ⟨hsuccess⟩
    exact h hsuccess
  exact ⟨hnot (by decide), hnot (by decide)⟩

end Workbench.Gateway
