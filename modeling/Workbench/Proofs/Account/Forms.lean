import Mathlib.Data.List.Forall2
import Workbench.Proofs.Account.Navigation
import Workbench.Proofs.Text.Blank

/-!
# Forms at the gate

A form is looked at before anything is sent to the backend. Names, emails and passwords are looked
at in two different ways, of which it is shown here that they come to the same: a field is filled in
if there is anything to be seen in it, and it is sent without the blanks at its ends.

* `Entry.check_of_visible`, `Entry.check_of_blank` — a form comes to a call, or to the first of its
  fields that is blank.
* `filled_forms_are_sent` — a form that is filled in leads to one call with its fields trimmed, and
  any other form to none, and to a line of status that says so.
-/

namespace Workbench.Account

/-! ### Forms as they are filled in -/

/-- A form as it was filled in. -/
inductive Entry where
  /-- The form for new accounts. -/
  | signUp (user email password : String)
  /-- The form for existing accounts. -/
  | signIn (email password : String)
  deriving DecidableEq

namespace Entry

/-- The fields of a form, in the order in which they are looked at. -/
def fields : Entry → List (MissingField × String)
  | signUp user email password => [(.name, user), (.email, email), (.password, password)]
  | signIn email password => [(.email, email), (.password, password)]

/-- The call that a form comes to, or the field that was left blank. -/
def check : Entry → Except MissingField Call
  | signUp user email password => (SignUp.ofForm user email password).map .signUp
  | signIn email password => (SignIn.ofForm email password).map .signIn

/-- The step in which a form is sent off. -/
def send (name : String) (reply : Option Reply) : Entry → Step
  | signUp user email password => .signUp name user email password reply
  | signIn email password => .signIn name email password reply

/-- The first field of a form that is blank. -/
def firstBlank? (e : Entry) : Option MissingField :=
  (e.fields.find? fun f => Text.isBlankText f.2).map (·.1)

end Entry

/-- The fields of a call, filled in once more. -/
def Call.entry : Call → Entry
  | .signUp c => .signUp c.name c.email.text c.password
  | .signIn c => .signIn c.email.text c.password

/-- A field of a call is the field of the form without the blanks at its ends. -/
def SentAs (typed sent : MissingField × String) : Prop :=
  typed.1 = sent.1 ∧ Text.Trims typed.2.toList sent.2.toList

/-! ### One field -/

section

variable {field : MissingField} {raw : String}

theorem sentAs_trimmed (field : MissingField) (raw : String) :
    SentAs (field, raw) (field, Text.trimmed raw) := by
  refine ⟨rfl, ?_⟩
  show Text.Trims raw.toList (Text.trimmed raw).toList
  rw [Text.trims_iff, Text.trimmed, String.toList_ofList]

theorem required_of_visible (h : Text.IsVisible raw) :
    required field raw = .ok (Text.trimmed raw) := by
  simp [required_eq, Text.isBlankText_eq_false_iff.mpr h]

theorem required_of_blank (h : ¬Text.IsVisible raw) : required field raw = .error field := by
  simp [required_eq, Text.isBlankText_iff.mpr h]

/-- Trimming leaves what there is to be seen. -/
theorem isVisible_trimmed_iff : Text.IsVisible (Text.trimmed raw) ↔ Text.IsVisible raw := by
  have hblank : Text.isBlankText (Text.trimmed raw) = true ↔ Text.isBlankText raw = true := by
    rw [← trimmed_eq_empty_iff, Text.trimmed_trimmed, trimmed_eq_empty_iff]
  rwa [Text.isBlankText_iff, Text.isBlankText_iff, not_iff_not] at hblank

/-- Emails are filled in exactly if other fields would be, and are trimmed in the same way. -/
theorem requiredEmail_of_visible (h : Text.IsVisible raw) :
    ∃ id : Identifier, requiredEmail raw = .ok id ∧ id.text = Text.trimmed raw := by
  rcases requiredEmail_cases raw with ⟨hblank, -⟩ | ⟨-, hid⟩
  · exact absurd h (Text.isBlankText_iff.mp hblank)
  · exact hid

theorem requiredEmail_of_blank (h : ¬Text.IsVisible raw) : requiredEmail raw = .error .email := by
  rcases requiredEmail_cases raw with ⟨-, herror⟩ | ⟨hfilled, -⟩
  · exact herror
  · exact absurd (Text.isBlankText_eq_false_iff.mp hfilled) h

end

/-! ### One form -/

/-- Beside the name a form for new accounts is looked at like one for existing accounts. -/
theorem SignUp.ofForm_eq (user email password : String) :
    SignUp.ofForm user email password =
      (required .name user).bind fun name =>
        (SignIn.ofForm email password).map fun c => ⟨name, c.email, c.password⟩ := by
  rw [SignUp.ofForm, SignIn.ofForm]
  cases required .name user with
  | error field => rfl
  | ok name =>
    cases requiredEmail email with
    | error field => rfl
    | ok id => cases required .password password <;> rfl

/-- A call is known from its fields. -/
theorem Call.entry_injective : Function.Injective Call.entry := by
  intro c c' h
  cases c with
  | signUp c =>
    cases c' with
    | signUp c' =>
      obtain ⟨hname, hemail, hpassword⟩ := Entry.signUp.inj h
      have hid : c.email = c'.email := Identifier.eq_of_text hemail
      cases c
      cases c'
      cases hname
      cases hid
      cases hpassword
      rfl
    | signIn => cases h
  | signIn c =>
    cases c' with
    | signUp => cases h
    | signIn c' =>
      obtain ⟨hemail, hpassword⟩ := Entry.signIn.inj h
      have hid : c.email = c'.email := Identifier.eq_of_text hemail
      cases c
      cases c'
      cases hid
      cases hpassword
      rfl

namespace Entry

/-- The same form with all its fields trimmed. -/
def trimmed : Entry → Entry
  | signUp user email password =>
    .signUp (Text.trimmed user) (Text.trimmed email) (Text.trimmed password)
  | signIn email password => .signIn (Text.trimmed email) (Text.trimmed password)

theorem trimmed_trimmed (e : Entry) : e.trimmed.trimmed = e.trimmed := by
  cases e <;> simp [trimmed, Text.trimmed_trimmed]

theorem sentAs_fields (e : Entry) : List.Forall₂ SentAs e.fields e.trimmed.fields := by
  cases e <;> simp [fields, trimmed, sentAs_trimmed]

theorem visible_trimmed {e : Entry} (h : ∀ f ∈ e.fields, Text.IsVisible f.2) :
    ∀ f ∈ e.trimmed.fields, Text.IsVisible f.2 := by
  cases e <;> simpa [fields, trimmed, isVisible_trimmed_iff] using h

/-- A form for existing accounts without blank fields comes to its credentials. -/
theorem signIn_of_visible {email password : String} (hemail : Text.IsVisible email)
    (hpassword : Text.IsVisible password) :
    ∃ id : Identifier, id.text = Text.trimmed email ∧
      SignIn.ofForm email password = .ok ⟨id, Text.trimmed password⟩ := by
  obtain ⟨id, hid, htext⟩ := requiredEmail_of_visible hemail
  refine ⟨id, htext, ?_⟩
  rw [SignIn.ofForm, hid, required_of_visible hpassword]

/-- A form without blank fields comes to a call, with all its fields trimmed. -/
theorem check_of_visible {e : Entry} (h : ∀ f ∈ e.fields, Text.IsVisible f.2) :
    ∃ call, e.check = .ok call ∧ call.entry = e.trimmed := by
  cases e with
  | signUp user email password =>
    simp only [fields, List.forall_mem_cons] at h
    obtain ⟨huser, hemail, hpassword, -⟩ := h
    obtain ⟨id, htext, hform⟩ := signIn_of_visible hemail hpassword
    refine ⟨.signUp ⟨Text.trimmed user, id, Text.trimmed password⟩, ?_, ?_⟩
    · rw [check, SignUp.ofForm_eq, required_of_visible huser, hform]
      rfl
    · rw [Call.entry, htext, trimmed]
  | signIn email password =>
    simp only [fields, List.forall_mem_cons] at h
    obtain ⟨hemail, hpassword, -⟩ := h
    obtain ⟨id, htext, hform⟩ := signIn_of_visible hemail hpassword
    refine ⟨.signIn ⟨id, Text.trimmed password⟩, ?_, ?_⟩
    · rw [check, hform]
      rfl
    · rw [Call.entry, htext, trimmed]

/-- The fields of a call, filled in once more, come to the same call. -/
theorem check_entry {e : Entry} {call : Call} (h : ∀ f ∈ e.fields, Text.IsVisible f.2)
    (hcall : call.entry = e.trimmed) : call.entry.check = .ok call := by
  obtain ⟨call', hcheck, hentry⟩ := check_of_visible (visible_trimmed h)
  have hsame : call' = call := by
    apply Call.entry_injective
    rw [hentry, hcall, trimmed_trimmed]
  rw [hcall, hcheck, hsame]

/-- A form without a first blank field has no blank field at all. -/
theorem firstBlank?_eq_none_iff {e : Entry} :
    e.firstBlank? = none ↔ ∀ f ∈ e.fields, Text.IsVisible f.2 := by
  rw [firstBlank?, Option.map_eq_none_iff, List.find?_eq_none]
  simp only [Bool.not_eq_true, Text.isBlankText_eq_false_iff]

/-- What is before the first blank field is filled in. -/
theorem firstBlank?_eq_some {e : Entry} {field : MissingField} (h : e.firstBlank? = some field) :
    ∃ before raw rest, e.fields = before ++ (field, raw) :: rest ∧
      (∀ f ∈ before, Text.IsVisible f.2) ∧ ¬Text.IsVisible raw := by
  rw [firstBlank?, Option.map_eq_some_iff] at h
  obtain ⟨⟨field', raw⟩, hfind, rfl⟩ := h
  rw [List.find?_eq_some_iff_append] at hfind
  obtain ⟨hblank, before, rest, hfields, hbefore⟩ := hfind
  refine ⟨before, raw, rest, hfields, ?_, Text.isBlankText_iff.mp hblank⟩
  intro f hf
  have hfilled := hbefore f hf
  rw [Bool.not_eq_true'] at hfilled
  exact Text.isBlankText_eq_false_iff.mp hfilled

/-- A form for existing accounts with blank fields comes to the first of them. -/
theorem signIn_of_blank {email password : String} {field : MissingField}
    (h : (signIn email password).firstBlank? = some field) :
    SignIn.ofForm email password = .error field := by
  rw [SignIn.ofForm]
  by_cases hemail : Text.IsVisible email
  · obtain ⟨id, hid, -⟩ := requiredEmail_of_visible hemail
    have hseen : Text.isBlankText email = false := Text.isBlankText_eq_false_iff.mpr hemail
    obtain ⟨hpassword, rfl⟩ : Text.isBlankText password = true ∧ .password = field := by
      simpa [firstBlank?, fields, hseen] using h
    rw [hid, required_of_blank (Text.isBlankText_iff.mp hpassword)]
  · have hblank : Text.isBlankText email = true := Text.isBlankText_iff.mpr hemail
    obtain rfl : .email = field := by simpa [firstBlank?, fields, hblank] using h
    rw [requiredEmail_of_blank hemail]

/-- A form with blank fields comes to the first of them: once there is a name, a form for new
accounts is looked at like one for existing accounts. -/
theorem check_of_blank {e : Entry} {field : MissingField} (h : e.firstBlank? = some field) :
    e.check = .error field := by
  cases e with
  | signIn email password => rw [check, signIn_of_blank h, Except.map]
  | signUp user email password =>
    rw [check, SignUp.ofForm_eq]
    by_cases huser : Text.IsVisible user
    · have hseen : Text.isBlankText user = false := Text.isBlankText_eq_false_iff.mpr huser
      have hrest : (signIn email password).firstBlank? = some field := by
        simpa [firstBlank?, fields, hseen] using h
      rw [required_of_visible huser, signIn_of_blank hrest]
      rfl
    · have hblank : Text.isBlankText user = true := Text.isBlankText_iff.mpr huser
      obtain rfl : .name = field := by simpa [firstBlank?, fields, hblank] using h
      rw [required_of_blank huser]
      rfl

end Entry

/-! ### One step -/

namespace State

variable {s : State} {e : Entry}

/-- A form that comes to a call makes this one call. -/
theorem calls_step_send {call : Call} (h : e.check = .ok call) (name : String)
    (reply : Option Reply) : (s.step (e.send name reply)).2.calls = [call] := by
  cases e with
  | signUp user email password =>
    cases hform : SignUp.ofForm user email password with
    | error field => rw [Entry.check, hform] at h; cases h
    | ok c =>
      rw [Entry.check, hform] at h
      cases h
      simp only [Entry.send, step, hform, observed]
  | signIn email password =>
    cases hform : SignIn.ofForm email password with
    | error field => rw [Entry.check, hform] at h; cases h
    | ok c =>
      rw [Entry.check, hform] at h
      cases h
      simp only [Entry.send, step, hform, observed]

/-- A form that comes to a blank field changes the line of status, and nothing else. -/
theorem step_send_of_error {field : MissingField} (h : e.check = .error field) (name : String)
    (reply : Option Reply) :
    s.step (e.send name reply) =
      ({ s with page := { s.page with status := some allFieldsRequired } },
        ⟨some .rejected, [], [.showStatus allFieldsRequired]⟩) := by
  cases e with
  | signUp user email password =>
    cases hform : SignUp.ofForm user email password with
    | error field =>
      simp only [Entry.send, step, hform]
      rfl
    | ok c => rw [Entry.check, hform] at h; cases h
  | signIn email password =>
    cases hform : SignIn.ofForm email password with
    | error field =>
      simp only [Entry.send, step, hform]
      rfl
    | ok c => rw [Entry.check, hform] at h; cases h

/-- Only forms make calls. -/
theorem calls_step_of_no_form {st : Step} (h : st.form? = none) : (s.step st).2.calls = [] := by
  cases st with
  | signUp | signIn => cases h
  | resolve | cancel | signOut | toggle | session | fault => rfl

end State

/-- **Filled forms are sent.** Whatever has happened before, a form makes exactly one call if there
is something to be seen in each of its fields, and no call otherwise; nothing but a form makes a
call. The fields of the call are those of the form without the blanks at their ends, and they come
to the same call once more. Where there is a blank field it is the first one, in the order name,
email, password, that is complained about; the attempt is rejected, and of the store, the page and
the attempts under way only the line of status changes. -/
theorem filled_forms_are_sent (s : State) (e : Entry) (name : String) (reply : Option Reply) :
    ((∀ f ∈ e.fields, Text.IsVisible f.2) →
        ∃ call, e.check = .ok call ∧ (s.step (e.send name reply)).2.calls = [call] ∧
          List.Forall₂ SentAs e.fields call.entry.fields ∧ call.entry.check = .ok call) ∧
      ((∃ f ∈ e.fields, ¬Text.IsVisible f.2) →
        (∃ before field raw rest, e.fields = before ++ (field, raw) :: rest ∧
          (∀ f ∈ before, Text.IsVisible f.2) ∧ ¬Text.IsVisible raw ∧ e.check = .error field) ∧
        s.step (e.send name reply) =
          ({ s with page := { s.page with status := some allFieldsRequired } },
            ⟨some .rejected, [], [.showStatus allFieldsRequired]⟩)) ∧
      ∀ st : Step, st.form? = none → (s.step st).2.calls = [] := by
  refine ⟨?_, ?_, ?_⟩
  · intro hfilled
    obtain ⟨call, hcheck, hentry⟩ := Entry.check_of_visible hfilled
    refine ⟨call, hcheck, State.calls_step_send hcheck name reply, ?_, ?_⟩
    · rw [hentry]
      exact e.sentAs_fields
    · exact Entry.check_entry hfilled hentry
  · rintro ⟨f, hf, hblank⟩
    cases hfirst : e.firstBlank? with
    | none => exact absurd (Entry.firstBlank?_eq_none_iff.mp hfirst f hf) hblank
    | some field =>
      have hcheck : e.check = .error field := Entry.check_of_blank hfirst
      obtain ⟨before, raw, rest, hfields, hbefore, hraw⟩ := Entry.firstBlank?_eq_some hfirst
      exact ⟨⟨before, field, raw, rest, hfields, hbefore, hraw, hcheck⟩,
        State.step_send_of_error hcheck name reply⟩
  · intro st hst
    exact State.calls_step_of_no_form hst

/-- A name that is a byte order mark is to be seen, an email of no-break spaces is not. -/
example :
    (Entry.signUp "\uFEFF" "\u00A0\u00A0" "").check = .error .email ∧
      (Entry.signIn "\u3000x y\u2028" " p\u00A0q").check.map Call.entry =
        .ok (.signIn "x y" "p\u00A0q") := by
  decide +kernel

end Workbench.Account
