import Workbench.Proofs.Gateway.Redirects
import Workbench.Proofs.Json.Records

/-!
# Where successes come from

Whoever is accepted may use an account, and code that is found valid is registered. So it matters
what a response has to look like to be taken for a success, of all the bodies that a backend, or
somebody in its place, may send.

* `successes_are_flagged` — a success comes from a record with one flag, and the flag is set.
* `accepted_without_object` — the record need not be an object, and not all of it need be UTF-8.
-/

namespace Workbench.Gateway

open Workbench.Json
open Workbench.Text (Bytes)
open Workbench.Account (SignUp SignIn)

/-! ### The plans of the responses -/

section

variable {ρ : Type}

/-- A flag, which may be any value. -/
def flagSlot (name : String) (get : ρ → Option Value) (set : Value → ρ → ρ)
    (get_set : ∀ x r, get (set x r) = some x) : Slot ρ :=
  ⟨Value, name, get, set, readValue, true, Tree.Agrees, readValue_sound, get_set⟩

/-- A text that may be missing or null. -/
def textSlot (name : String) (get : ρ → Option (Option String)) (set : Option String → ρ → ρ)
    (get_set : ∀ x r, get (set x r) = some x) : Slot ρ :=
  ⟨Option String, name, get, set, fun _ => readOptional readText, false, Tree.OrNull Tree.IsText,
    fun _ => readOptional_sound readText_sound, get_set⟩

/-- A count that may be missing. -/
def countSlot (name : String) (get : ρ → Option Nat) (set : Nat → ρ → ρ)
    (get_set : ∀ x r, get (set x r) = some x) : Slot ρ :=
  ⟨Nat, name, get, set, fun _ => readNatural, true, fun tree _ => tree = .number,
    fun _ => readNatural_sound, get_set⟩

end

/-- The plan of the response to credentials. -/
def AuthResponse.plan : Plan AuthResponse.shape where
  slots :=
    [flagSlot "success" (·.success) (fun x r => { r with success := some x }) fun _ _ => rfl,
      textSlot "message" (·.message) (fun x r => { r with message := some x }) fun _ _ => rfl]
  fields := rfl
  apart := by simp [Slot.apart_iff, flagSlot, textSlot]
  empty := by simp [flagSlot, textSlot, AuthResponse.shape]

/-- The plan of the counts. -/
def StatsResponse.plan : Plan StatsResponse.shape where
  slots :=
    [countSlot "lexicalErrors" (·.lexical) (fun x r => { r with lexical := some x }) fun _ _ => rfl,
      countSlot "syntaxErrors" (·.syntactic) (fun x r => { r with syntactic := some x })
        fun _ _ => rfl,
      countSlot "semanticErrors" (·.semantic) (fun x r => { r with semantic := some x })
        fun _ _ => rfl]
  fields := rfl
  apart := by simp [Slot.apart_iff, countSlot]
  empty := by simp [countSlot, StatsResponse.shape]

/-- The plan of the response to a compilation. -/
def CheckResponse.plan : Plan CheckResponse.shape where
  slots :=
    [flagSlot "valid" (·.valid) (fun x r => { r with valid := some x }) fun _ _ => rfl,
      ⟨List String, "errors", (·.errors), fun x r => { r with errors := some x }, readTexts, true,
        Tree.AreTexts, readTexts_sound, fun _ _ => rfl⟩,
      ⟨Option StatsResponse, "stats", (·.stats), fun x r => { r with stats := some x },
        fun room => readOptional (StatsResponse.shape.read room), false,
        Tree.OrNull StatsResponse.plan.Means,
        fun room => readOptional_sound (StatsResponse.plan.sound room), fun _ _ => rfl⟩]
  fields := rfl
  apart := by simp [Slot.apart_iff, flagSlot]
  empty := by simp [flagSlot, CheckResponse.shape]

/-- The plan of the response to an analysis. -/
def AnalyzeResponse.plan : Plan AnalyzeResponse.shape where
  slots :=
    [flagSlot "success" (·.success) (fun x r => { r with success := some x }) fun _ _ => rfl,
      textSlot "complexity" (·.complexity) (fun x r => { r with complexity := some x })
        fun _ _ => rfl,
      textSlot "error" (·.error) (fun x r => { r with error := some x }) fun _ _ => rfl]
  fields := rfl
  apart := by simp [Slot.apart_iff, flagSlot, textSlot]
  empty := by simp [flagSlot, textSlot, AnalyzeResponse.shape]

/-- The plan of the response to an optimization. -/
def OptimizeResponse.plan : Plan OptimizeResponse.shape where
  slots :=
    [flagSlot "success" (·.success) (fun x r => { r with success := some x }) fun _ _ => rfl,
      textSlot "optimizedCode" (·.code) (fun x r => { r with code := some x }) fun _ _ => rfl,
      textSlot "complexity" (·.complexity) (fun x r => { r with complexity := some x })
        fun _ _ => rfl,
      textSlot "error" (·.error) (fun x r => { r with error := some x }) fun _ _ => rfl]
  fields := rfl
  apart := by simp [Slot.apart_iff, flagSlot, textSlot]
  empty := by simp [flagSlot, textSlot, OptimizeResponse.shape]

/-! ### What a body says -/

/-- A tree is the literal `true`, or a string that stands for the text `true`. -/
def SaysTrue : Tree → Prop
  | .boolean b => b = true
  | .string body => StandsFor body "true"
  | _ => False

/-- A body is the text of a record with members of the given names: of an object, or of the
sequence of all its values. -/
def Written (names : List String) (body : Bytes) (members : List (String × Tree)) : Prop :=
  ∃ tree, Spells tree body ∧ tree.IsRecord names names.length members

/-- One of the members has a name, no other one has it, and its value is as it should be. -/
def HasOne (members : List (String × Tree)) (name : String) (valid : Tree → Prop) : Prop :=
  ∃ tree, members.filter (·.1 = name) = [(name, tree)] ∧ valid tree

/-- A body is the text of a record whose flag is set. -/
def Flagged (names : List String) (flag : String) (body : Bytes) : Prop :=
  ∃ members, Written names body members ∧ HasOne members flag SaysTrue

/-- A body is the text of a record whose flag is set and that comes with a text. -/
def FlaggedWith (names : List String) (flag field text : String) (body : Bytes) : Prop :=
  ∃ members, Written names body members ∧ HasOne members flag SaysTrue ∧
    HasOne members field (·.IsText text)

/-- A call is answered with a status and a body: this is the response that is read after its request
and those that the responses ask for. -/
def Answers {α : Type} (g : Gateway) (network : Network) (traffic : Traffic) (c : Call α)
    (status : Nat) (body : Bytes) : Prop :=
  ∃ r sent, g.requestOf c = .ok r ∧ Trail network traffic r sent ∧
    sent.length ≤ redirectLimit + 1 ∧ Reads sent status body

/-! ### Responses -/

section

variable {ρ : Type} {shape : Shape ρ} {p : Plan shape} {r : ρ} {status : Nat} {body : Bytes}
  {members : List (String × Tree)}

/-- Whatever the status is, a body that is read is that of a record. -/
theorem written_of_decode (p : Plan shape) (hall : p.needed = p.names.length)
    (h : decode shape status body = .ok r) :
    ∃ members, Written p.names body members ∧ p.Tells r members := by
  unfold decode at h
  split at h
  next hparse =>
    cases h
    obtain ⟨tree, hspells, members, hrecord, htells⟩ := readWhole_sound (p.sound maxDepth) hparse
    exact ⟨members, ⟨tree, hspells, hall ▸ hrecord⟩, htells⟩
  next => split at h <;> cases h

/-- A flag that is set is one that says so. -/
theorem saysTrue_of_isSet {tree : Tree} {v : Value} (hv : tree.Agrees v) (h : isSet (some v)) :
    SaysTrue tree := by
  cases v with
  | boolean b =>
    cases tree with
    | boolean c => exact hv.trans h
    | _ => cases hv
  | string s =>
    obtain rfl : s = "true" := beq_iff_eq.mp h
    cases tree with
    | string body => exact hv
    | _ => cases hv
  | _ => cases h

/-- Where the flag of a record is set, the member of its name says so. -/
theorem hasOne_flag {name : String} {get : ρ → Option Value} {set : Value → ρ → ρ}
    {get_set : ∀ x r, get (set x r) = some x}
    (htells : (flagSlot name get set get_set).Tells r members) (h : isSet (get r)) :
    HasOne members name SaysTrue := by
  cases hv : get r with
  | none =>
    rw [hv] at h
    cases h
  | some v =>
    rw [hv] at h
    obtain ⟨tree, hfilter, hagrees⟩ := htells.only hv
    exact ⟨tree, hfilter, saysTrue_of_isSet hagrees h⟩

/-- Where a record has a text, the member of its name is that text. -/
theorem hasOne_text {name text : String} {get : ρ → Option (Option String)}
    {set : Option String → ρ → ρ} {get_set : ∀ x r, get (set x r) = some x}
    (htells : (textSlot name get set get_set).Tells r members) (h : (get r).join = some text) :
    HasOne members name (·.IsText text) := by
  obtain ⟨tree, hfilter, htext⟩ := htells.only (Option.join_eq_some_iff.mp h)
  exact ⟨tree, hfilter, htext⟩

end

section

variable {status : Nat} {body : Bytes}

theorem flagged_of_accepted (h : verdictOf status body = .ok .accepted) :
    Flagged ["success", "message"] "success" body := by
  unfold verdictOf at h
  split at h
  next => cases h
  next r hr =>
    obtain ⟨members, hwritten, htells⟩ := written_of_decode AuthResponse.plan rfl hr
    have hset : isSet r.success := by
      by_contra hset
      rw [AuthResponse.verdict, if_neg hset] at h
      cases h
    exact ⟨members, hwritten, hasOne_flag (htells _ (.head _)) hset⟩

theorem flagged_of_valid (h : compileOf status body = .ok .valid) :
    Flagged ["valid", "errors", "stats"] "valid" body := by
  unfold compileOf at h
  split at h
  next => cases h
  next r hr =>
    obtain ⟨members, hwritten, htells⟩ := written_of_decode CheckResponse.plan rfl hr
    have hset : isSet r.valid := by
      by_contra hset
      rw [CheckResponse.outcome, if_neg hset] at h
      cases h
    exact ⟨members, hwritten, hasOne_flag (htells _ (.head _)) hset⟩

theorem flagged_of_analysis {complexity : String}
    (h : analyzeOf status body = .ok (.success complexity)) :
    FlaggedWith ["success", "complexity", "error"] "success" "complexity" complexity body := by
  unfold analyzeOf at h
  split at h
  next => cases h
  next r hr =>
    obtain ⟨members, hwritten, htells⟩ := written_of_decode AnalyzeResponse.plan rfl hr
    split at h
    next => cases h
    next houtcome =>
      cases h
      unfold AnalyzeResponse.outcome at houtcome
      split at houtcome
      next hset =>
        split at houtcome
        next hcomplexity =>
          cases houtcome
          exact ⟨members, hwritten, hasOne_flag (htells _ (.head _)) hset,
            hasOne_text (htells _ (.tail _ (.head _))) hcomplexity⟩
        next => cases houtcome
      next => cases houtcome

theorem flagged_of_optimization {code : String} {complexity : Option String}
    (h : optimizeOf status body = .ok (.success code complexity)) :
    FlaggedWith ["success", "optimizedCode", "complexity", "error"] "success" "optimizedCode" code
      body := by
  unfold optimizeOf at h
  split at h
  next => cases h
  next r hr =>
    obtain ⟨members, hwritten, htells⟩ := written_of_decode OptimizeResponse.plan rfl hr
    split at h
    next => cases h
    next houtcome =>
      cases h
      unfold OptimizeResponse.outcome at houtcome
      split at houtcome
      next hset =>
        split at houtcome
        next hcode =>
          cases houtcome
          exact ⟨members, hwritten, hasOne_flag (htells _ (.head _)) hset,
            hasOne_text (htells _ (.tail _ (.head _))) hcode⟩
        next => cases houtcome
      next => cases houtcome

end

/-! ### Calls -/

section

variable {α : Type} {g : Gateway} {network : Network} {traffic : Traffic} {c : Call α}
  {status : Nat} {body : Bytes}

/-- A call that comes back with an answer was answered with what the answer is read from. -/
theorem answers_of_exchange {x : α} (h : (g.exchange network traffic c).1 = .ok x) :
    ∃ status body, Answers g network traffic c status body ∧ c.read status body = .ok x := by
  cases hr : g.requestOf c with
  | error e =>
    rw [exchange_of_error hr] at h
    cases h
  | ok r =>
    obtain ⟨sent, -, htrail, hfollows, hreads⟩ := fetch_spec network traffic r
    obtain ⟨status, body, hfetch, hread⟩ := (exchange_eq_ok_iff hr).mp h
    exact ⟨status, body,
      ⟨r, sent, hr, htrail, hfollows.length_le, (hreads status body).mp hfetch⟩, hread⟩

/-- What a call that is answered comes back with is read from the answer. -/
theorem Answers.exchange_eq (h : Answers g network traffic c status body) :
    (g.exchange network traffic c).1 = c.read status body := by
  obtain ⟨r, sent, hr, htrail, hlength, hreads⟩ := h
  simp only [exchange, hr, htrail.fetch_eq hlength hreads]

/-- A call is answered where the first response asks for nothing else. -/
theorem answers_of_answered {r : Request} (hr : g.requestOf c = .ok r)
    (h : network traffic r = .answered status body) : Answers g network traffic c status body :=
  ⟨r, _, hr, .last traffic r, Nat.le_add_left 1 _, _, ends_singleton.mpr ⟨rfl, h ▸ nofun⟩, .inl h⟩

end

/-- **Successes come from flagged records.** Whatever the network does, a call comes back with a
success only if it was answered, with any status, by the text of a record: of an object, or of the
sequence of all its values. The flag of the record stands there once, and it is the
literal `true` or the text `true`; the complexity of an analysis and the code of an optimization
stand there once and are texts, and these texts are what comes back. -/
theorem successes_are_flagged (g : Gateway) (network : Network) (traffic : Traffic) :
    (∀ c, (g.exchange network traffic (signUp c)).1 = .ok .accepted →
      ∃ status body, Answers g network traffic (signUp c) status body ∧
        Flagged ["success", "message"] "success" body) ∧
    (∀ c, (g.exchange network traffic (signIn c)).1 = .ok .accepted →
      ∃ status body, Answers g network traffic (signIn c) status body ∧
        Flagged ["success", "message"] "success" body) ∧
    (∀ code, (g.exchange network traffic (check code)).1 = .ok .valid →
      ∃ status body, Answers g network traffic (check code) status body ∧
        Flagged ["valid", "errors", "stats"] "valid" body) ∧
    (∀ user code complexity,
      (g.exchange network traffic (analyze user code)).1 = .ok (.success complexity) →
      ∃ status body, Answers g network traffic (analyze user code) status body ∧
        FlaggedWith ["success", "complexity", "error"] "success" "complexity" complexity body) ∧
    ∀ user code new complexity,
      (g.exchange network traffic (optimize user code)).1 = .ok (.success new complexity) →
      ∃ status body, Answers g network traffic (optimize user code) status body ∧
        FlaggedWith ["success", "optimizedCode", "complexity", "error"] "success" "optimizedCode"
          new body := by
  refine ⟨fun c h => ?_, fun c h => ?_, fun code h => ?_, fun user code complexity h => ?_,
    fun user code new complexity h => ?_⟩
  all_goals obtain ⟨status, body, hanswers, hread⟩ := answers_of_exchange h
  · exact ⟨status, body, hanswers, flagged_of_accepted hread⟩
  · exact ⟨status, body, hanswers, flagged_of_accepted hread⟩
  · exact ⟨status, body, hanswers, flagged_of_valid hread⟩
  · exact ⟨status, body, hanswers, flagged_of_analysis hread⟩
  · exact ⟨status, body, hanswers, flagged_of_optimization hread⟩

/-- An object starts with a brace, unless it starts with a blank. -/
theorem not_spells_object {members : List (Bytes × Tree)} {b : UInt8} {text : Bytes}
    (hbrace : b ≠ byte '\x7b') (hblank : isSpace b = false) :
    ¬Spells (.object members) (b :: text) := by
  rintro ⟨rest, hleads, -⟩
  cases hleads with
  | blank hspace =>
    rw [hblank] at hspace
    cases hspace
  | object => exact hbrace rfl

/-- It need not be an object: a sequence of the values of a record is taken for a success too. And
it need not be UTF-8: nobody looks at the bytes of a string under a name that is not asked for. -/
theorem accepted_without_object :
    let g : Gateway := ⟨⟨"http", some ⟨"", "", .name "stub", none⟩, .segments [""], none, none⟩⟩
    let c := signIn ⟨⟨"a@x.com", by decide, by decide⟩, "p"⟩
    let sequence := Text.toBytes "[true,null]"
    let binary := Text.toBytes "\x7b\"x\":\"" ++ 0xFF :: Text.toBytes "\",\"success\":true\x7d"
    ((g.exchange (fun _ _ => .answered 200 sequence) [] c).1 = .ok .accepted ∧
        ¬∃ members, Spells (.object members) sequence) ∧
      (g.exchange (fun _ _ => .answered 200 binary) [] c).1 = .ok .accepted ∧
        Text.ofBytes? binary = none := by
  intro g c sequence binary
  refine ⟨⟨by decide +kernel, ?_⟩, by decide +kernel, by decide +kernel⟩
  have hsequence : sequence = byte '[' :: Text.toBytes "true,null]" := by decide +kernel
  rintro ⟨members, hspells⟩
  rw [hsequence] at hspells
  exact not_spells_object (by decide) (by decide) hspells

/-- The status does not matter, nor does it whether the flag is a literal. -/
example : verdictOf 500 (Text.toBytes "\x7b \"success\" : \"true\" \x7d") = .ok .accepted := by
  decide +kernel

end Workbench.Gateway
