import Workbench.Proofs.Gateway.Failures
import Workbench.Proofs.Json.Filling

/-!
# Only known members count

A backend may lay out its responses as it likes and say more in them than it is asked for: what a
call comes back with depends on what the response says under the names that are asked for, and the
status does not matter as long as the response can be read. There is one thing that a backend may
not do, and that is to use a name which stands for no text.

* `AuthResponse.full` and its likes — the plans of the responses, with complete readers.
* `known_members_decide` — responses that say the same under the known names come to the same.
* `nameless_member_refused` — a member that nobody asks for is not passed over if its name stands
  for no text.
-/

namespace Workbench.Gateway

open Workbench.Json
open Workbench.Text (Bytes)
open Workbench.Account (SignUp SignIn)

/-! ### The full plans of the responses -/

section

variable {ρ : Type}

variable {name : String}

/-- A flag may be any value. -/
def flagFilling {get : ρ → Option Value} {set : Value → ρ → ρ}
    {get_set : ∀ x r, get (set x r) = some x} : (flagSlot name get set get_set).Filling :=
  ⟨Finds, readValue_complete⟩

/-- A text may be null. -/
def textFilling {get : ρ → Option (Option String)} {set : Option String → ρ → ρ}
    {get_set : ∀ x r, get (set x r) = some x} : (textSlot name get set get_set).Filling :=
  ⟨fun _ => Content.OrNull Content.IsText, fun _ => readOptional_complete readText_complete⟩

/-- A count is a natural number. -/
def countFilling {get : ρ → Option Nat} {set : Nat → ρ → ρ}
    {get_set : ∀ x r, get (set x r) = some x} : (countSlot name get set get_set).Filling :=
  ⟨fun _ => Content.IsNatural, fun _ => readNatural_complete⟩

end

/-- The full plan of the response to credentials. -/
def AuthResponse.full : AuthResponse.plan.Full :=
  ⟨.cons flagFilling (.cons textFilling .nil)⟩

/-- The full plan of the counts. -/
def StatsResponse.full : StatsResponse.plan.Full :=
  ⟨.cons countFilling (.cons countFilling (.cons countFilling .nil))⟩

/-- The full plan of the response to a compilation. -/
def CheckResponse.full : CheckResponse.plan.Full :=
  ⟨.cons flagFilling (.cons ⟨Content.AreTexts, readTexts_complete⟩
    (.cons ⟨fun room => Content.OrNull (StatsResponse.full.Makes room),
      fun room => readOptional_complete (StatsResponse.full.complete room)⟩ .nil))⟩

/-- The full plan of the response to an analysis. -/
def AnalyzeResponse.full : AnalyzeResponse.plan.Full :=
  ⟨.cons flagFilling (.cons textFilling (.cons textFilling .nil))⟩

/-- The full plan of the response to an optimization. -/
def OptimizeResponse.full : OptimizeResponse.plan.Full :=
  ⟨.cons flagFilling (.cons textFilling (.cons textFilling (.cons textFilling .nil)))⟩

/-! ### What the fields of a response mean -/

section

variable {ρ : Type} {shape : Shape ρ} {p : Plan shape} {f : p.Full} {r r' : ρ}
  {named : List (String × Content)} {room : Nat} {name : String}

theorem isSet_of_found {v v' : Value} (h : v.found = v'.found) :
    isSet (some v) = isSet (some v') := by
  cases v <;> cases v' <;> cases h <;> rfl

/-- A flag that is read twice from the same is set both times or neither time. -/
theorem isSet_of_kept {flag flag' : Option Value} (h : Kept flag name (Finds room) named)
    (h' : Kept flag' name (Finds room) named) : isSet flag = isSet flag' := by
  rcases h.both h' with ⟨rfl, rfl⟩ | ⟨c, v, v', rfl, rfl, hv, hv'⟩
  · rfl
  · exact isSet_of_found (Option.some.inj (hv.symm.trans hv'))

/-- A field that can be made of the same in one way only is the same in two records. -/
theorem get_eq_of_keeps (h : f.Keeps room r named) (h' : f.Keeps room r' named) {s : FullSlot ρ}
    (hs : s ∈ f.slots) (hunique : Relator.RightUnique (s.makes room)) : s.get r = s.get r' := by
  rcases (h s hs).both (h' s hs) with ⟨hx, hx'⟩ | ⟨c, x, x', hx, hx', hmakes, hmakes'⟩
  · rw [hx, hx']
  · rw [hx, hx', hunique hmakes hmakes']

theorem rightUnique_isText : Relator.RightUnique Content.IsText := fun _ _ _ h h' => by
  cases h.symm.trans h'
  rfl

theorem rightUnique_isNatural : Relator.RightUnique Content.IsNatural := fun _ _ _ h h' => by
  cases h.symm.trans h'
  rfl

theorem rightUnique_areTexts : Relator.RightUnique (Content.AreTexts room) := by
  rintro _ _ _ ⟨-, elements, rfl, h⟩ ⟨-, _, ⟨⟩, h'⟩
  exact rightUnique_isText.forall₂ h h'

theorem rightUnique_orNull {α : Type} {makes : Content → α → Prop}
    (hunique : Relator.RightUnique makes) (hnull : ∀ x, ¬makes .null x) :
    Relator.RightUnique (Content.OrNull makes) := by
  intro c x? x?' h h'
  cases x? with
  | none =>
    obtain rfl : c = .null := h
    cases x?' with
    | none => rfl
    | some x' => exact absurd h' (hnull x')
  | some x =>
    cases x?' with
    | none =>
      obtain rfl : c = .null := h'
      exact absurd h (hnull x)
    | some x' => rw [hunique h h']

theorem rightUnique_text : Relator.RightUnique (Content.OrNull Content.IsText) :=
  rightUnique_orNull rightUnique_isText nofun

theorem rightUnique_stats : Relator.RightUnique (StatsResponse.full.Makes room) := by
  intro c x x' h h'
  obtain ⟨room, named, h, h'⟩ := h.both h'
  have hlexical : x.lexical = x'.lexical :=
    get_eq_of_keeps h h' (.head _) rightUnique_isNatural
  have hsyntactic : x.syntactic = x'.syntactic :=
    get_eq_of_keeps h h' (.tail _ (.head _)) rightUnique_isNatural
  have hsemantic : x.semantic = x'.semantic :=
    get_eq_of_keeps h h' (.tail _ (.tail _ (.head _))) rightUnique_isNatural
  cases x
  cases x'
  cases hlexical
  cases hsyntactic
  cases hsemantic
  rfl

theorem rightUnique_statsOrNull :
    Relator.RightUnique (Content.OrNull (StatsResponse.full.Makes room)) :=
  rightUnique_orNull rightUnique_stats fun _ h => by cases room <;> exact h

end

/-! ### What a response means -/

section

variable {named : List (String × Content)} {room : Nat}

theorem verdict_eq {r r' : AuthResponse} (h : AuthResponse.full.Keeps room r named)
    (h' : AuthResponse.full.Keeps room r' named) : r.verdict = r'.verdict := by
  have hsuccess : isSet r.success = isSet r'.success :=
    isSet_of_kept (h _ (.head _)) (h' _ (.head _))
  have hmessage : r.message = r'.message :=
    get_eq_of_keeps h h' (.tail _ (.head _)) rightUnique_text
  rw [AuthResponse.verdict, AuthResponse.verdict, hsuccess, hmessage]

theorem analysis_eq {r r' : AnalyzeResponse} (h : AnalyzeResponse.full.Keeps room r named)
    (h' : AnalyzeResponse.full.Keeps room r' named) : r.outcome = r'.outcome := by
  have hsuccess : isSet r.success = isSet r'.success :=
    isSet_of_kept (h _ (.head _)) (h' _ (.head _))
  have hcomplexity : r.complexity = r'.complexity :=
    get_eq_of_keeps h h' (.tail _ (.head _)) rightUnique_text
  have herror : r.error = r'.error :=
    get_eq_of_keeps h h' (.tail _ (.tail _ (.head _))) rightUnique_text
  rw [AnalyzeResponse.outcome, AnalyzeResponse.outcome, hsuccess, hcomplexity, herror]

theorem optimization_eq {r r' : OptimizeResponse} (h : OptimizeResponse.full.Keeps room r named)
    (h' : OptimizeResponse.full.Keeps room r' named) : r.outcome = r'.outcome := by
  have hsuccess : isSet r.success = isSet r'.success :=
    isSet_of_kept (h _ (.head _)) (h' _ (.head _))
  have hcode : r.code = r'.code :=
    get_eq_of_keeps h h' (.tail _ (.head _)) rightUnique_text
  have hcomplexity : r.complexity = r'.complexity :=
    get_eq_of_keeps h h' (.tail _ (.tail _ (.head _))) rightUnique_text
  have herror : r.error = r'.error :=
    get_eq_of_keeps h h' (.tail _ (.tail _ (.tail _ (.head _)))) rightUnique_text
  rw [OptimizeResponse.outcome, OptimizeResponse.outcome, hsuccess, hcode, hcomplexity, herror]

theorem compilation_eq {r r' : CheckResponse} (h : CheckResponse.full.Keeps room r named)
    (h' : CheckResponse.full.Keeps room r' named) : r.outcome = r'.outcome := by
  have hvalid : isSet r.valid = isSet r'.valid :=
    isSet_of_kept (h _ (.head _)) (h' _ (.head _))
  have herrors : r.errors = r'.errors :=
    get_eq_of_keeps h h' (.tail _ (.head _)) rightUnique_areTexts
  have hstats : r.stats = r'.stats :=
    get_eq_of_keeps h h' (.tail _ (.tail _ (.head _))) rightUnique_statsOrNull
  rw [CheckResponse.outcome, CheckResponse.outcome, hvalid, herrors, hstats]

end

/-! ### Two responses -/

/-- Two answers come to the same: to the same value, or to failures both. -/
inductive ComesToSame {α : Type} : Except GatewayError α → Except GatewayError α → Prop where
  /-- Both are the same value. -/
  | value (x : α) : ComesToSame (.ok x) (.ok x)
  /-- Both are failures, perhaps for different reasons. -/
  | failures (e e' : GatewayError) : ComesToSame (.error e) (.error e')

/-- Two objects say the same under each of some names. -/
def SameUnderAll (names : List String) (named named' : List (String × Content)) : Prop :=
  ∀ name ∈ names, SameUnder Eq name named named'

/-- Two values say the same counts: they say the same altogether, or they are objects that say the
same under the names of the counts. -/
inductive SameCounts : Content → Content → Prop where
  /-- Both say the same. -/
  | refl (c : Content) : SameCounts c c
  /-- Both are objects. -/
  | objects {counts counts' : List (String × Content)} :
      SameUnderAll ["lexicalErrors", "syntaxErrors", "semanticErrors"] counts counts' →
      SameCounts (.object (Content.named counts)) (.object (Content.named counts'))

/-- Whenever a call is answered, with any status, by one body, and with any status by another, it
comes to the same; and there is no difference at all if the bodies can be read. -/
def Alike {ρ α : Type} (shape : Shape ρ) (c : Call α) (body body' : Bytes) : Prop :=
  ∀ (g g' : Gateway) (network network' : Network) (traffic traffic' : Traffic)
    (status status' : Nat), Answers g network traffic c status body →
    Answers g' network' traffic' c status' body' →
    let answer := (g.exchange network traffic c).1
    let answer' := (g'.exchange network' traffic' c).1
    ComesToSame answer answer' ∧ ((∃ r, shape.parse body = .ok r) → answer = answer')

section

variable {α ρ : Type} {shape : Shape ρ} {p : Plan shape} {body body' : Bytes}
  {named named' : List (String × Content)}

theorem ComesToSame.refl (answer : Except GatewayError α) : ComesToSame answer answer := by
  cases answer with
  | ok x => exact .value x
  | error e => exact .failures e e

theorem decode_of_parse_error {fault : Fault} (h : shape.parse body = .error fault) (status : Nat) :
    ∃ e, decode shape status body = .error e := by
  rw [decode, h]
  dsimp only
  split <;> exact ⟨_, rfl⟩

theorem decode_of_parse {r : ρ} (h : shape.parse body = .ok r) (status : Nat) :
    decode shape status body = .ok r := by
  rw [decode, h]

theorem verdictOf_eq (status : Nat) (body : Bytes) :
    verdictOf status body =
      meaningOf AuthResponse.shape (fun r => .ok r.verdict) status body := by
  unfold verdictOf meaningOf
  cases decode AuthResponse.shape status body <;> rfl

theorem compileOf_eq (status : Nat) (body : Bytes) :
    compileOf status body =
      meaningOf CheckResponse.shape (fun r => .ok r.outcome) status body := by
  unfold compileOf meaningOf
  cases decode CheckResponse.shape status body <;> rfl

/-- A call comes to the same with two bodies that say the same under the known names, if what a
record means depends on its fields as far as they are filled from the same members. -/
theorem alike_of_same (f : p.Full) {c : Call α} {outcome : ρ → Except String α}
    (hread : ∀ status body, c.read status body = meaningOf shape outcome status body)
    (houtcome : ∀ room r r', f.Keeps room r named → f.Keeps room r' named → outcome r = outcome r')
    (hbody : Utters (.object (Content.named named)) body)
    (hbody' : Utters (.object (Content.named named')) body')
    (hsame : ∀ s ∈ f.slots, ∀ room,
      SameUnder (fun c c' => ∀ x, s.makes room c x ↔ s.makes room c' x) s.name named named') :
    Alike shape c body body' := by
  intro g g' network network' traffic traffic' status status' hanswers hanswers'
  dsimp only
  rw [hanswers.exchange_eq, hanswers'.exchange_eq, hread, hread, meaningOf, meaningOf]
  rcases f.parse_alike hbody hbody' hsame with
    ⟨r, r', room, hr, hr', hkeeps, hkeeps'⟩ | ⟨fault, fault', hfault, hfault'⟩
  · rw [decode_of_parse hr, decode_of_parse hr']
    dsimp only
    rw [houtcome room r r' hkeeps hkeeps']
    exact ⟨.refl _, fun _ => rfl⟩
  · obtain ⟨e, he⟩ := decode_of_parse_error hfault status
    obtain ⟨e', he'⟩ := decode_of_parse_error hfault' status'
    rw [he, he', hfault]
    refine ⟨.failures e e', ?_⟩
    rintro ⟨r, hr⟩
    cases hr

end

/-- Under the names of all fields the same is said, so any field is filled alike. -/
theorem SameUnderAll.slots {ρ : Type} {shape : Shape ρ} {p : Plan shape} {f : p.Full}
    {named named' : List (String × Content)}
    (h : SameUnderAll (f.slots.map (·.name)) named named') :
    ∀ s ∈ f.slots, ∀ room,
      SameUnder (fun c c' => ∀ x, s.makes room c x ↔ s.makes room c' x) s.name named named' :=
  fun _ hs _ => (h _ (List.mem_map_of_mem hs)).imp fun _ _ heq _ => by rw [heq]

/-- Values that say the same counts are read alike. -/
theorem SameCounts.orNull_iff {c c' : Content} (h : SameCounts c c') (room : Nat)
    (x? : Option StatsResponse) :
    c.OrNull (StatsResponse.full.Makes room) x? ↔ c'.OrNull (StatsResponse.full.Makes room) x? := by
  cases h with
  | refl => exact .rfl
  | objects hcounts =>
    cases x? with
    | none => exact ⟨nofun, nofun⟩
    | some x =>
      cases room with
      | zero => exact .rfl
      | succ room =>
        have hsame := SameUnderAll.slots (f := StatsResponse.full) hcounts
        exact (Plan.Full.makes_object.trans (Plan.Full.keeps_iff fun s hs => hsame s hs room)).trans
          Plan.Full.makes_object.symm

/-- **Known members decide.** A call is answered twice, each time with an object all of whose names
stand for texts, and with any status. Under each of the names that are asked for the objects say the
same: nothing, or once the same, however it is written; of the counts of a compilation it is enough
that they are the same, if the names beside them stand for texts as well. Then both answers are the
same value, or both are failures; and they are the same failure, too, if the object can be read. -/
theorem known_members_decide {body body' : Bytes} {named named' : List (String × Content)}
    (hbody : Utters (.object (Content.named named)) body)
    (hbody' : Utters (.object (Content.named named')) body') :
    (SameUnderAll ["success", "message"] named named' →
      (∀ c, Alike AuthResponse.shape (signUp c) body body') ∧
        ∀ c, Alike AuthResponse.shape (signIn c) body body') ∧
    (SameUnderAll ["valid", "errors"] named named' → SameUnder SameCounts "stats" named named' →
      ∀ code, Alike CheckResponse.shape (check code) body body') ∧
    (SameUnderAll ["success", "complexity", "error"] named named' →
      ∀ user code, Alike AnalyzeResponse.shape (analyze user code) body body') ∧
    (SameUnderAll ["success", "optimizedCode", "complexity", "error"] named named' →
      ∀ user code, Alike OptimizeResponse.shape (optimize user code) body body') := by
  refine ⟨fun hsame => ?_, fun hsame hcounts code => ?_, fun hsame user code => ?_,
    fun hsame user code => ?_⟩
  · have hverdict (room : Nat) (r r' : AuthResponse) (h : AuthResponse.full.Keeps room r named)
        (h' : AuthResponse.full.Keeps room r' named) :
        (.ok r.verdict : Except String _) = .ok r'.verdict := by rw [verdict_eq h h']
    have hslots := SameUnderAll.slots (f := AuthResponse.full) hsame
    exact ⟨fun c => alike_of_same AuthResponse.full verdictOf_eq hverdict hbody hbody' hslots,
      fun c => alike_of_same AuthResponse.full verdictOf_eq hverdict hbody hbody' hslots⟩
  · have houtcome (room : Nat) (r r' : CheckResponse) (h : CheckResponse.full.Keeps room r named)
        (h' : CheckResponse.full.Keeps room r' named) :
        (.ok r.outcome : Except String _) = .ok r'.outcome := by rw [compilation_eq h h']
    refine alike_of_same CheckResponse.full compileOf_eq houtcome hbody hbody' ?_
    intro s hs room
    rcases List.mem_cons.mp hs with rfl | hs
    · exact (hsame "valid" (.head _)).imp fun _ _ heq _ => by rw [heq]
    rcases List.mem_cons.mp hs with rfl | hs
    · exact (hsame "errors" (.tail _ (.head _))).imp fun _ _ heq _ => by rw [heq]
    obtain rfl := List.mem_singleton.mp hs
    exact hcounts.imp fun _ _ h => h.orNull_iff room
  · exact alike_of_same AnalyzeResponse.full analyzeOf_eq (fun _ _ _ => analysis_eq) hbody hbody'
      (SameUnderAll.slots (f := AnalyzeResponse.full) hsame)
  · exact alike_of_same OptimizeResponse.full optimizeOf_eq (fun _ _ _ => optimization_eq) hbody
      hbody' (SameUnderAll.slots (f := OptimizeResponse.full) hsame)

/-- For instance, it makes no difference that a response says more than it is asked for, in another
place, and comes with the status of a failure. -/
theorem known_members_decide_verbose :
    let g : Gateway := ⟨⟨"http", some ⟨"", "", .name "stub", none⟩, .segments [""], none, none⟩⟩
    let c := signIn ⟨⟨"a@x.com", by decide, by decide⟩, "p"⟩
    let named : List (String × Content) := [("success", .boolean true)]
    let named' : List (String × Content) := [("x", .null), ("success", .boolean true)]
    let body := Text.toBytes "\x7b\"success\":true\x7d"
    let body' := Text.toBytes "\x7b\"x\":null, \"success\" : true\x7d"
    (Utters (.object (Content.named named)) body ∧ Utters (.object (Content.named named')) body' ∧
        SameUnderAll ["success", "message"] named named') ∧
      (g.exchange (fun _ _ => .answered 200 body) [] c).1 =
        (g.exchange (fun _ _ => .answered 500 body') [] c).1 := by
  intro g c named named' body body'
  have hsuccess : MayStandFor (Text.toBytes "success") (some "success") :=
    .of_plain (by decide) (by decide +kernel)
  have hx : MayStandFor (Text.toBytes "x") (some "x") := .of_plain (by decide) (by decide +kernel)
  have hbody : Utters (.object (Content.named named)) body :=
    ⟨[], (Starts.object (.first (.mk (.none _) hsuccess (.none _) (Starts.yes _).alone)
      (.close (.none _))) (.refl _)).alone, .none _⟩
  have hbody' : Utters (.object (Content.named named')) body' :=
    ⟨[], (Starts.object (.first (.mk (.none _) hx (.none _) (Starts.null _).alone)
      (.next (.none _) (.mk (.skip rfl (.none _)) hsuccess (.skip rfl (.none _))
        (.mk (.skip rfl (.none _)) (.yes _))) (.close (.none _)))) (.refl _)).alone, .none _⟩
  have hsame : SameUnderAll ["success", "message"] named named' := by
    intro name hname
    rcases List.mem_pair.mp hname with rfl | rfl
    · exact .once rfl rfl rfl
    · exact .absent rfl rfl
  obtain ⟨hcredentials, -⟩ := known_members_decide hbody hbody'
  have hanswers : Answers g (fun _ _ => .answered 200 body) [] c 200 body :=
    answers_of_answered rfl rfl
  have hanswers' : Answers g (fun _ _ => .answered 500 body') [] c 500 body' :=
    answers_of_answered rfl rfl
  obtain ⟨-, hequal⟩ := (hcredentials hsame).2 _ g g _ _ _ _ _ _ hanswers hanswers'
  exact ⟨⟨hbody, hbody', hsame⟩, hequal ⟨⟨some (.boolean true), none⟩, rfl⟩⟩

/-- A member that nobody asks for makes a difference if its name stands for no text: half of a
surrogate pair is an escape like any other to the grammar, but a response with such a name cannot
be read. -/
theorem nameless_member_refused :
    let g : Gateway := ⟨⟨"http", some ⟨"", "", .name "stub", none⟩, .segments [""], none, none⟩⟩
    let c := signIn ⟨⟨"a@x.com", by decide, by decide⟩, "p"⟩
    let body := Text.toBytes "\x7b\"success\":true\x7d"
    let body' := Text.toBytes "\x7b\"success\":true,\"\\ud800\":null\x7d"
    (Utters (.object [(some "success", .boolean true)]) body ∧
        Utters (.object [(some "success", .boolean true), (none, .null)]) body' ∧
        (Text.ofBytes? body').isSome) ∧
      (g.exchange (fun _ _ => .answered 200 body) [] c).1 = .ok .accepted ∧
        (g.exchange (fun _ _ => .answered 200 body') [] c).1 =
          .error (.decode "invalid JSON payload: unexpected end of hex escape at line 1 column 24") := by
  intro g c body body'
  have hsuccess : MayStandFor (Text.toBytes "success") (some "success") :=
    .of_plain (by decide) (by decide +kernel)
  have hnone : MayStandFor (Text.toBytes "\\ud800") none := by
    refine ⟨.code (by decide) .nil, fun s => ⟨fun hs => ?_, nofun⟩⟩
    have hread := hs.read []
    have herror : readString (Text.toBytes "\\ud800" ++ [byte '"']) =
      .error (.before .endOfEscape []) := by decide +kernel
    cases herror.symm.trans hread
  have hbody : Utters (.object [(some "success", .boolean true)]) body :=
    ⟨[], (Starts.object (.first (.mk (.none _) hsuccess (.none _) (Starts.yes _).alone)
      (.close (.none _))) (.refl _)).alone, .none _⟩
  have hbody' : Utters (.object [(some "success", .boolean true), (none, .null)]) body' :=
    ⟨[], (Starts.object (.first (.mk (.none _) hsuccess (.none _) (Starts.yes _).alone)
      (.next (.none _) (.mk (.none _) hnone (.none _) (Starts.null _).alone)
        (.close (.none _)))) (.refl _)).alone, .none _⟩
  exact ⟨⟨hbody, hbody', by decide +kernel⟩, by decide +kernel, by decide +kernel⟩

end Workbench.Gateway
