import Mathlib.Data.List.Induction
import Mathlib.Data.List.TakeWhile
import Workbench.Account.Run

/-!
# Who writes the session

What a run does to the stored session can be told from its steps alone: the email that was typed
in for each attempt under way, the faults that the store was made to show, and what the backend
says. This knows neither credentials nor a list of attempts, and the store of the run is measured
against it.

* `complete_store` — whatever the store, an attempt touches it only by keeping its own user, and
  only when the backend accepts.
* `Tracks.step` — a step keeps the attempts under way and the faults in line with what the steps
  so far say of them.
* `session_written` — an accepted reply leaves the email of its own attempt, signing out leaves
  nothing, and no other step of the client changes what is stored; so a run ends with what its
  last write has left.
-/

namespace Workbench.Account

open Workbench.Session (Memory Faults)

/-! ### Forms -/

section Forms

theorem Identifier.eq_of_text {user user' : Identifier} (h : user.text = user'.text) :
    user = user' := by
  cases user
  cases user'
  cases h
  rfl

theorem trimmed_eq_empty_iff (s : String) : Text.trimmed s = "" ↔ Text.isBlankText s = true := by
  have hempty : Text.trimmed s = "" ↔ Text.trim s.toList = [] := by
    rw [Text.trimmed, ← String.toList_inj, String.toList_ofList]
    rfl
  have hblank : Text.trimStart s.toList = [] ↔ Text.isBlankText s = true := by
    rw [Text.trimStart, List.dropWhile_eq_nil_iff, Text.isBlankText, List.all_eq_true]
  rw [hempty, ← hblank, Text.trim]
  rcases Text.trimStart_eq_nil_or s.toList with h | ⟨c, rest, hc, h⟩
  · simp [h, Text.trimEnd]
  · simp [h, Text.trimEnd_cons hc]

theorem required_eq (field : MissingField) (raw : String) :
    required field raw =
      if Text.isBlankText raw then .error field else .ok (Text.trimmed raw) := by
  simp only [required, trimmed_eq_empty_iff]

/-- The email of a form is taken exactly if it is not blank, and it is trimmed. -/
theorem requiredEmail_cases (email : String) :
    Text.isBlankText email = true ∧ requiredEmail email = .error .email ∨
      Text.isBlankText email = false ∧
        ∃ id : Identifier, requiredEmail email = .ok id ∧ id.text = Text.trimmed email := by
  by_cases h : Text.trimmed email = ""
  · refine .inl ⟨(trimmed_eq_empty_iff email).mp h, ?_⟩
    rw [requiredEmail, Identifier.ofText?, dif_pos h]
  · have hfilled : Text.isBlankText email = false := by
      rw [← Bool.not_eq_true, ← trimmed_eq_empty_iff]
      exact h
    have hid : requiredEmail email = .ok ⟨Text.trimmed email, Text.trimmed_trimmed email, h⟩ := by
      rw [requiredEmail, Identifier.ofText?, dif_neg h]
    exact .inr ⟨hfilled, _, hid, rfl⟩

/-- A form for a new account is taken exactly if no field is blank, with the email trimmed. -/
theorem SignUp.ofForm_cases (user email password : String) :
    [user, email, password].any Text.isBlankText = true ∧
        (∃ field, SignUp.ofForm user email password = .error field) ∨
      [user, email, password].any Text.isBlankText = false ∧
        ∃ c, SignUp.ofForm user email password = .ok c ∧ c.email.text = Text.trimmed email := by
  simp only [ofForm, required_eq]
  rcases requiredEmail_cases email with ⟨he, h⟩ | ⟨he, id, h, hid⟩
  · cases hu : Text.isBlankText user <;> simp [hu, he, h]
  · cases hu : Text.isBlankText user <;> cases hp : Text.isBlankText password <;>
      simp [hu, he, hp, h, hid]

/-- A form for an existing account is taken exactly if no field is blank, with the email
trimmed. -/
theorem SignIn.ofForm_cases (email password : String) :
    [email, password].any Text.isBlankText = true ∧
        (∃ field, SignIn.ofForm email password = .error field) ∨
      [email, password].any Text.isBlankText = false ∧
        ∃ c, SignIn.ofForm email password = .ok c ∧ c.email.text = Text.trimmed email := by
  simp only [ofForm, required_eq]
  rcases requiredEmail_cases email with ⟨he, h⟩ | ⟨he, id, h, hid⟩
  · simp [he, h]
  · cases hp : Text.isBlankText password <;> simp [he, hp, h, hid]

end Forms

/-! ### What the steps say -/

/-- A form that was sent off with every field filled in. -/
structure Sending where
  /-- The name of the attempt. -/
  name : String
  /-- The email, as it was typed in. -/
  email : String
  /-- The reply, if it comes at once. -/
  reply : Option Reply

/-- The form that a step sends off, unless one of its fields is blank. -/
def Step.sending? : Step → Option Sending
  | .signUp name user email password reply =>
    if [user, email, password].any Text.isBlankText then none else some ⟨name, email, reply⟩
  | .signIn name email password reply =>
    if [email, password].any Text.isBlankText then none else some ⟨name, email, reply⟩
  | _ => none

/-- A change of the stored session. -/
inductive Write where
  /-- An attempt with this email, as it was typed in, has led to a session. -/
  | signedIn (email : String)
  /-- The user has signed out. -/
  | signedOut
  /-- Someone else has signed in or out. -/
  | outside (session : Option Session)

/-- The identifier that is stored after a change. -/
def Write.leaves : Write → Option String
  | .signedIn email => some (Text.trimmed email)
  | .signedOut => none
  | .outside session => session.map (·.user.text)

/-- What can be told from the steps of a run alone. -/
structure Log where
  /-- The faults that the store was made to show. -/
  faults : Faults
  /-- The email that was typed in for the attempt under way by a name. -/
  email? : String → Option String

namespace Log

/-- Before the first step. -/
def start : Log := ⟨.none, fun _ => none⟩

/-- After an attempt has come to its end. -/
def forget (l : Log) (name : String) : Log :=
  { l with email? := fun other => if name = other then none else l.email? other }

/-- After a form was sent off. -/
def send (l : Log) (f : Sending) : Log :=
  if f.reply.isSome then l
  else { l with email? := fun other => if f.name = other then some f.email else l.email? other }

/-- After one more step. -/
def step (l : Log) : Step → Log
  | .fault faults => { l with faults := faults }
  | .resolve name _ => l.forget name
  | .cancel name => l.forget name
  | st => st.sending?.elim l l.send

/-- After a run. -/
def after (l : Log) (steps : List Step) : Log := steps.foldl step l

/-- The email of the attempt to which a step brings the reply, and the reply. -/
def delivery? (l : Log) : Step → Option (String × Reply)
  | .resolve name reply => (l.email? name).map (·, reply)
  | st => st.sending?.bind fun f => f.reply.map (f.email, ·)

/-- What a reply to an attempt changes. -/
def answer? (l : Log) (email : String) : Reply → Option Write
  | .ok .accepted => if l.faults.set = none then some (.signedIn email) else none
  | _ => none

/-- What a step changes. -/
def write? (l : Log) : Step → Option Write
  | .session session => some (.outside session)
  | .signOut => if l.faults.clear = none then some .signedOut else none
  | st => (l.delivery? st).bind fun d => l.answer? d.1 d.2

/-- What the steps of a run change, in their order. -/
def writes (l : Log) : List Step → List Write
  | [] => []
  | st :: steps => (l.write? st).toList ++ (l.step st).writes steps

theorem after_concat (l : Log) (steps : List Step) (st : Step) :
    l.after (steps ++ [st]) = (l.after steps).step st := by
  simp only [after, List.foldl_append, List.foldl_cons, List.foldl_nil]

theorem writes_concat (l : Log) (steps : List Step) (st : Step) :
    l.writes (steps ++ [st]) = l.writes steps ++ ((l.after steps).write? st).toList := by
  induction steps generalizing l with
  | nil => simp [writes, after]
  | cons first steps ih =>
    rw [List.cons_append, writes, ih, writes, List.append_assoc]
    rfl

variable {l : Log} {st : Step} {f : Sending}

theorem answer?_of_ne {email : String} {reply : Reply} (h : reply ≠ .ok .accepted) :
    l.answer? email reply = none := by
  rw [answer?]
  exact h

/-- Only forms are sent off. -/
theorem step_of_sending (h : st.sending? = some f) :
    l.step st = l.send f ∧ l.write? st = f.reply.bind (l.answer? f.email) := by
  cases st with
  | signUp | signIn =>
    constructor
    · simp only [step, h, Option.elim_some]
    · simp only [write?, delivery?, h, Option.bind_some, Option.bind_map]
      rfl
  | _ => cases h

/-- Beside signing out, the client changes what is stored only by a reply. -/
theorem write?_eq (hsession : ∀ session, st ≠ .session session) (hout : st ≠ .signOut) :
    l.write? st = (l.delivery? st).bind fun d => l.answer? d.1 d.2 := by
  cases st with
  | session session => exact absurd rfl (hsession session)
  | signOut => exact absurd rfl hout
  | _ => rfl

/-- The reply to an attempt comes with a step of the client, and not by signing out. -/
theorem ne_of_delivery? {d : String × Reply} (h : l.delivery? st = some d) :
    (∀ session, st ≠ .session session) ∧ st ≠ .signOut := by
  cases st <;> first | cases h | exact ⟨fun _ => Step.noConfusion, Step.noConfusion⟩

end Log

/-! ### The store behind an attempt -/

/-- Whatever the store, an attempt touches it only by keeping its own user, and only when the
backend accepts. -/
theorem complete_store {σ : Type} [SessionStore σ] (form : Form) (user : Identifier)
    (reply : Reply) (store : σ) :
    (complete form user reply store).2.2 =
      if reply = .ok .accepted then (SessionStore.set ⟨user⟩ store).2 else store := by
  unfold complete
  split
  next =>
    rw [if_pos rfl, establish]
    split <;> next h => rw [h]
  next => rw [if_neg (by simp)]
  next => rw [if_neg (by simp)]

/-- Whatever the store, signing out only clears it. -/
theorem signOut_store {σ : Type} [SessionStore σ] (store : σ) :
    (signOut store).2.2 = (SessionStore.clear store).2 := by
  unfold signOut
  split <;> next h => rw [h]

section Memory

variable {m : Memory}

theorem set_of_sound (h : m.faults.set = none) (session : Session) :
    m.set session = (.ok (), { m with current := some session }) := by
  rw [Memory.set, h]

theorem set_of_faulty (h : m.faults.set ≠ none) (session : Session) : (m.set session).2 = m := by
  obtain ⟨e, he⟩ := Option.ne_none_iff_exists'.mp h
  rw [Memory.set, he]

end Memory

namespace State

/-- The state after a run. -/
def after (s : State) (steps : List Step) : State :=
  steps.foldl (fun s step => (s.step step).1) s

theorem after_concat (s : State) (steps : List Step) (st : Step) :
    s.after (steps ++ [st]) = ((s.after steps).step st).1 := by
  simp only [after, List.foldl_append, List.foldl_cons, List.foldl_nil]

/-- The identifier that is stored. -/
def stored (s : State) : Option String := s.store.current.map (·.user.text)

theorem find?_eq (s : State) (name : String) :
    s.find? name = (s.waiting.find? fun e => e.1 == name).map (·.2) := rfl

/-- The attempt that ends is the only one that goes. -/
theorem find?_without (s : State) (ended name : String) :
    ({ s with waiting := s.without ended } : State).find? name =
      if ended = name then none else s.find? name := by
  simp only [find?_eq, without, List.find?_filter]
  by_cases h : ended = name
  · rw [if_pos h, List.find?_eq_none.mpr, Option.map_none]
    intro e _
    simp [h]
  · rw [if_neg h]
    congr 2
    funext e
    by_cases he : e.1 = name
    · simp [he, Ne.symm h]
    · simp [he]

/-- A form that is sent off takes the place of the attempt of its name, and of no other. -/
theorem find?_send (s : State) (sent name : String) (a : Attempt) :
    (s.send sent a none).1.find? name = if sent = name then some a else s.find? name := by
  have hwithout := find?_without s sent name
  simp only [find?_eq, send, List.find?_append] at hwithout ⊢
  rw [Option.map_or, hwithout]
  by_cases h : sent = name <;> simp [h]

/-! ### Forms and replies -/

/-- A reply leaves everything but the store and the page. -/
theorem complete_eq (s : State) (a : Attempt) (reply : Reply) :
    (s.complete a reply).1.waiting = s.waiting ∧
      (s.complete a reply).1.store =
        if reply = .ok .accepted then (s.store.set ⟨a.user⟩).2 else s.store :=
  ⟨rfl, complete_store a.form a.user reply s.store⟩

end State

/-! ### What is known of a state -/

/-- A state is in line with what the steps say. -/
structure Tracks (l : Log) (s : State) : Prop where
  /-- The store shows the faults that it was made to show. -/
  faults : s.store.faults = l.faults
  /-- The user of each attempt under way is the email that was typed in for it, trimmed. -/
  waiting : ∀ name, (s.find? name).map (·.user.text) = (l.email? name).map Text.trimmed

/-- What a state stores after a change, if there was any. -/
def Follows (change : Option Write) (s s' : State) : Prop :=
  match change with
  | some w => s'.stored = w.leaves
  | none => s'.store.current = s.store.current

namespace Tracks

variable {l : Log} {s s' : State}

theorem init (session : Option Session) : Tracks .start (.init session) where
  faults := rfl
  waiting _ := rfl

/-- Only the faults of the store and the attempts under way matter. -/
theorem congr (t : Tracks l s) (hf : s'.store.faults = s.store.faults)
    (hw : s'.waiting = s.waiting) : Tracks l s' where
  faults := hf.trans t.faults
  waiting name := by
    rw [State.find?_eq, hw]
    exact t.waiting name

theorem forget (t : Tracks l s) (name : String) :
    Tracks (l.forget name) { s with waiting := s.without name } where
  faults := t.faults
  waiting other := by
    simp only [State.find?_without, Log.forget]
    by_cases h : name = other
    · rw [if_pos h, if_pos h, Option.map_none, Option.map_none]
    · rw [if_neg h, if_neg h, t.waiting]

/-- The end of an attempt: it changes what is stored only by an acceptance that can be kept, and
then to the email of this attempt. -/
theorem complete (t : Tracks l s) {a : Attempt} {email : String}
    (ha : a.user.text = Text.trimmed email) (reply : Reply) :
    Tracks l (s.complete a reply).1 ∧
      Follows (l.answer? email reply) s (s.complete a reply).1 := by
  obtain ⟨hwaiting, hstore⟩ := s.complete_eq a reply
  by_cases hreply : reply = .ok .accepted
  · rw [if_pos hreply] at hstore
    subst hreply
    by_cases hset : s.store.faults.set = none
    · rw [set_of_sound hset] at hstore
      refine ⟨t.congr (by rw [hstore]) hwaiting, ?_⟩
      rw [Log.answer?, if_pos (t.faults ▸ hset), Follows, State.stored, hstore]
      exact congrArg some ha
    · rw [set_of_faulty hset] at hstore
      refine ⟨t.congr (by rw [hstore]) hwaiting, ?_⟩
      rw [Log.answer?, if_neg (t.faults ▸ hset), Follows, hstore]
  · rw [if_neg hreply] at hstore
    refine ⟨t.congr (by rw [hstore]) hwaiting, ?_⟩
    rw [Log.answer?_of_ne hreply, Follows, hstore]

/-- A form that was sent off: its attempt is under way, or has come to its end. -/
theorem send (t : Tracks l s) {a : Attempt} {f : Sending}
    (ha : a.user.text = Text.trimmed f.email) :
    Tracks (l.send f) (s.send f.name a f.reply).1 ∧
      Follows (f.reply.bind (l.answer? f.email)) s (s.send f.name a f.reply).1 := by
  obtain ⟨name, email, reply⟩ := f
  cases reply with
  | some reply => exact t.complete ha reply
  | none =>
    refine ⟨⟨t.faults, fun other => ?_⟩, rfl⟩
    simp only [State.find?_send, Log.send, Option.isSome_none, Bool.false_eq_true, if_false]
    by_cases h : name = other
    · rw [if_pos h, if_pos h, Option.map_some, Option.map_some, ha]
    · rw [if_neg h, if_neg h, t.waiting]

/-- The reply to an attempt, if there is one of that name. -/
theorem resolve (t : Tracks l s) (name : String) (reply : Reply) :
    Tracks (l.forget name) (s.resolve name reply).1 ∧
      Follows ((l.email? name).bind (l.answer? · reply)) s (s.resolve name reply).1 := by
  have hfind := t.waiting name
  cases ha : s.find? name with
  | none =>
    rw [ha, Option.map_none, eq_comm, Option.map_eq_none_iff] at hfind
    rw [State.resolve, ha, hfind]
    refine ⟨⟨t.faults, fun other => ?_⟩, rfl⟩
    simp only [Log.forget]
    by_cases h : name = other
    · rw [if_pos h, ← h, ha, Option.map_none, Option.map_none]
    · rw [if_neg h, t.waiting]
  | some a =>
    rw [ha, Option.map_some, eq_comm, Option.map_eq_some_iff] at hfind
    obtain ⟨email, hemail, htext⟩ := hfind
    rw [State.resolve, ha, hemail]
    exact (t.forget name).complete htext.symm reply

/-- A form of which no field is blank is sent off. -/
theorem step_of_sending (t : Tracks l s) {st : Step} {f : Sending} {a : Attempt}
    (hsend : st.sending? = some f) (ha : a.user.text = Text.trimmed f.email)
    (hstep : (s.step st).1 = (s.send f.name a f.reply).1) :
    Tracks (l.step st) (s.step st).1 ∧ Follows (l.write? st) s (s.step st).1 := by
  rw [(Log.step_of_sending hsend).1, (Log.step_of_sending hsend).2, hstep]
  exact t.send ha

/-- Signing out empties the store, if it can be emptied. -/
theorem signOut (t : Tracks l s) :
    Tracks l (s.step .signOut).1 ∧ Follows (l.write? .signOut) s (s.step .signOut).1 := by
  have hstep : (s.step .signOut).1.store = s.store.clear.2 := signOut_store s.store
  by_cases hclear : s.store.faults.clear = none
  · rw [Memory.clear, hclear] at hstep
    refine ⟨t.congr (by rw [hstep]) rfl, ?_⟩
    rw [Log.write?, if_pos (t.faults ▸ hclear), Follows, State.stored, hstep]
    rfl
  · obtain ⟨e, he⟩ := Option.ne_none_iff_exists'.mp hclear
    rw [Memory.clear, he] at hstep
    refine ⟨t.congr (by rw [hstep]) rfl, ?_⟩
    rw [Log.write?, if_neg (t.faults ▸ hclear), Follows, hstep]

/-- One step keeps in line with what the steps say, and changes what is stored as they say. -/
theorem step (t : Tracks l s) (st : Step) :
    Tracks (l.step st) (s.step st).1 ∧ Follows (l.write? st) s (s.step st).1 := by
  cases st with
  | signUp name user email password reply =>
    rcases SignUp.ofForm_cases user email password with ⟨hblank, _, h⟩ | ⟨hfilled, c, h, hc⟩
    · simp only [Log.step, Log.write?, Log.delivery?, Step.sending?, hblank, State.step, h]
      exact ⟨t.congr rfl rfl, rfl⟩
    · have hsend : (Step.signUp name user email password reply).sending? =
          some ⟨name, email, reply⟩ := if_neg (by rw [hfilled]; exact Bool.false_ne_true)
      exact t.step_of_sending (a := ⟨.signUp, c.email⟩) hsend hc (by rw [State.step, h]; rfl)
  | signIn name email password reply =>
    rcases SignIn.ofForm_cases email password with ⟨hblank, _, h⟩ | ⟨hfilled, c, h, hc⟩
    · simp only [Log.step, Log.write?, Log.delivery?, Step.sending?, hblank, State.step, h]
      exact ⟨t.congr rfl rfl, rfl⟩
    · have hsend : (Step.signIn name email password reply).sending? =
          some ⟨name, email, reply⟩ := if_neg (by rw [hfilled]; exact Bool.false_ne_true)
      exact t.step_of_sending (a := ⟨.signIn, c.email⟩) hsend hc (by rw [State.step, h]; rfl)
  | resolve name reply =>
    rw [Log.write?, Log.delivery?, Option.bind_map]
    · exact t.resolve name reply
    · exact fun _ => Step.noConfusion
    · exact Step.noConfusion
  | cancel name => exact ⟨t.forget name, rfl⟩
  | signOut => exact t.signOut
  | toggle form => exact ⟨t.congr rfl rfl, rfl⟩
  | session session => exact ⟨t.congr rfl rfl, rfl⟩
  | fault faults => exact ⟨⟨rfl, t.waiting⟩, rfl⟩

end Tracks

/-! ### Runs -/

theorem tracks_after (session : Option Session) (steps : List Step) :
    Tracks (Log.start.after steps) ((State.init session).after steps) := by
  induction steps using List.reverseRecOn with
  | nil => exact Tracks.init session
  | append_singleton steps st ih =>
    rw [State.after_concat, Log.after_concat]
    exact (ih.step st).1

/-- What is stored was left by the last change, or was there from the start. -/
theorem stored_after (session : Option Session) (steps : List Step) :
    ((State.init session).after steps).stored =
      ((Log.start.writes steps).getLast?.map Write.leaves).getD (session.map (·.user.text)) := by
  induction steps using List.reverseRecOn with
  | nil => rfl
  | append_singleton steps st ih =>
    have hstep := ((tracks_after session steps).step st).2
    rw [State.after_concat, Log.writes_concat]
    cases hw : (Log.start.after steps).write? st with
    | none =>
      rw [hw, Follows] at hstep
      rw [Option.toList_none, List.append_nil, ← ih, State.stored, hstep, State.stored]
    | some w =>
      rw [hw, Follows] at hstep
      rw [Option.toList_some, List.getLast?_concat, Option.map_some, Option.getD_some, hstep]

/-- The stored session changes in two cases. An accepted reply that reaches an attempt while a
session can be kept leaves the email of this attempt, trimmed; signing out while the session can
be removed leaves nothing. Beside what others do to the store, no step changes anything, and after
a run there is what the last change has left. -/
theorem session_written (session : Option Session) (steps : List Step) :
    let s := (State.init session).after steps
    let l := Log.start.after steps
    ((∀ found, (s.store.set found).1 = .ok () ↔ l.faults.set = none) ∧
        (s.store.clear.1 = .ok () ↔ l.faults.clear = none)) ∧
      (∀ st email, l.delivery? st = some (email, .ok .accepted) → l.faults.set = none →
        (s.step st).1.stored = some (Text.trimmed email)) ∧
      (l.faults.clear = none → (s.step .signOut).1.stored = none) ∧
      (∀ st, (∀ email, l.delivery? st = some (email, .ok .accepted) → l.faults.set ≠ none) →
        (st = .signOut → l.faults.clear ≠ none) → (∀ found, st ≠ .session found) →
        (s.step st).1.store.current = s.store.current) ∧
      (∀ found, (s.step (.session found)).1.store.current = found) ∧
      s.stored =
        ((Log.start.writes steps).getLast?.map Write.leaves).getD (session.map (·.user.text)) := by
  intro s l
  have t : Tracks l s := tracks_after session steps
  have hset (found : Session) : (s.store.set found).1 = .ok () ↔ l.faults.set = none := by
    rw [← t.faults, Memory.set]
    cases s.store.faults.set <;> simp
  have hclear : s.store.clear.1 = .ok () ↔ l.faults.clear = none := by
    rw [← t.faults, Memory.clear]
    cases s.store.faults.clear <;> simp
  refine ⟨⟨hset, hclear⟩, ?_, ?_, ?_, fun _ => rfl, stored_after session steps⟩
  · intro st email hd hnone
    have hwrite : l.write? st = some (.signedIn email) := by
      obtain ⟨hsession, hout⟩ := Log.ne_of_delivery? hd
      rw [Log.write?_eq hsession hout, hd, Option.bind_some, Log.answer?, if_pos hnone]
    have hstep := (t.step st).2
    rw [hwrite, Follows] at hstep
    exact hstep
  · intro hnone
    have hstep := (t.step .signOut).2
    rw [Log.write?, if_pos hnone, Follows] at hstep
    exact hstep
  · intro st hset hclear hsession
    have hwrite : l.write? st = none := by
      by_cases hout : st = .signOut
      · rw [hout, Log.write?, if_neg (hclear hout)]
      · rw [Log.write?_eq hsession hout, Option.bind_eq_none_iff]
        rintro ⟨email, reply⟩ hd
        by_cases hreply : reply = .ok .accepted
        · subst hreply
          exact if_neg (hset email hd)
        · exact Log.answer?_of_ne hreply
    have hstep := (t.step st).2
    rw [hwrite, Follows] at hstep
    exact hstep

/-- Two attempts cross, and each reply keeps the email of its own. -/
example :
    let sent : List Step := [.signIn "a" " x " "p" none, .signIn "b" "y" "q" none]
    ((State.init none).after (sent ++ [.resolve "b" (.ok .accepted)])).stored = some "y" ∧
      ((State.init none).after (sent ++ [.resolve "b" (.ok .accepted),
        .resolve "a" (.ok .accepted)])).stored = some "x" := by
  decide +kernel

end Workbench.Account
