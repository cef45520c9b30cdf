import Mathlib.Data.List.Perm.Basic
import Workbench.Proofs.Json.Lexemes

/-!
# What JSON texts say

The grammar tells what is JSON; here it is told what a JSON text says: which literals, numbers and
texts stand in it, under which names, and in which order the elements of its sequences come. How
they are written, the blanks between them and the order of members do not belong to it. Some
strings stand for no text and some numbers are out of range, so there may be nothing said in their
place.

* `Says` — a text leads with a value that says something.
* `Says.leads`, `Leads.content` — what says something is JSON, and all JSON says something.
-/

namespace Workbench.Json

open Workbench.Text (Bytes)

/-- What a JSON text says. -/
inductive Content where
  /-- The literal `null`. -/
  | null
  /-- The literals `true` and `false`. -/
  | boolean (b : Bool)
  /-- A number, unless it is out of range. -/
  | number (n? : Option Number)
  /-- A text, unless the string stands for none. -/
  | string (s? : Option String)
  /-- A sequence. -/
  | array (elements : List Content)
  /-- Names, unless they stand for no text, with values. -/
  | object (members : List (Option String × Content))

mutual

/-- A text leads with a value, which may have blanks before it, and the value says something. -/
inductive Says : Content → Bytes → Bytes → Prop where
  /-- Blanks stand before the value. -/
  | mk {c : Content} {b : UInt8} {text tail rest : Bytes} : Blanks text (b :: tail) →
      Starts c b tail rest → Says c text rest

/-- A value starts with a byte, goes on with a text, and says something. -/
inductive Starts : Content → UInt8 → Bytes → Bytes → Prop where
  /-- The literal `null`. -/
  | null (rest : Bytes) : Starts .null (byte 'n') (byte 'u' :: byte 'l' :: byte 'l' :: rest) rest
  /-- The literal `true`. -/
  | yes (rest : Bytes) :
      Starts (.boolean true) (byte 't') (byte 'r' :: byte 'u' :: byte 'e' :: rest) rest
  /-- The literal `false`. -/
  | no (rest : Bytes) :
      Starts (.boolean false) (byte 'f') (byte 'a' :: byte 'l' :: byte 's' :: byte 'e' :: rest) rest
  /-- A number. -/
  | number {d : UInt8} {ds : Bytes} (rest : Bytes) : Numeral (d :: ds) [] →
      Starts (.number (numberOf? false (d :: ds))) d (ds ++ rest) rest
  /-- A number below zero. -/
  | negative {ds : Bytes} (rest : Bytes) : Numeral ds [] →
      Starts (.number (numberOf? true ds)) (byte '-') (ds ++ rest) rest
  /-- A string. -/
  | string {body : Bytes} {s? : Option String} (rest : Bytes) : MayStandFor body s? →
      Starts (.string s?) (byte '"') (body ++ byte '"' :: rest) rest
  /-- A sequence. -/
  | array {elements : List Content} {text rest : Bytes} : SaysElements true elements text rest →
      Starts (.array elements) (byte '[') text rest
  /-- An object; the order of its members does not matter. -/
  | object {written members : List (Option String × Content)} {text rest : Bytes} :
      SaysMembers true written text rest → written.Perm members →
      Starts (.object members) (byte '\x7b') text rest

/-- A text leads with the elements of a sequence and its closing bracket. All but the first have a
comma before them. -/
inductive SaysElements : Bool → List Content → Bytes → Bytes → Prop where
  /-- There are no more. -/
  | close {first : Bool} {text rest : Bytes} : Blanks text (byte ']' :: rest) →
      SaysElements first [] text rest
  /-- The first one. -/
  | first {c : Content} {elements : List Content} {text behind rest : Bytes} :
      Says c text behind → SaysElements false elements behind rest →
      SaysElements true (c :: elements) text rest
  /-- One more. -/
  | next {c : Content} {elements : List Content} {text element behind rest : Bytes} :
      Blanks text (byte ',' :: element) → Says c element behind →
      SaysElements false elements behind rest → SaysElements false (c :: elements) text rest

/-- A text leads with the members of an object and its closing bracket. All but the first have a
comma before them. -/
inductive SaysMembers : Bool → List (Option String × Content) → Bytes → Bytes → Prop where
  /-- There are no more. -/
  | close {first : Bool} {text rest : Bytes} : Blanks text (byte '\x7d' :: rest) →
      SaysMembers first [] text rest
  /-- The first one. -/
  | first {name? : Option String} {c : Content} {members : List (Option String × Content)}
      {text behind rest : Bytes} :
      SaysMember name? c text behind → SaysMembers false members behind rest →
      SaysMembers true ((name?, c) :: members) text rest
  /-- One more. -/
  | next {name? : Option String} {c : Content} {members : List (Option String × Content)}
      {text member behind rest : Bytes} :
      Blanks text (byte ',' :: member) → SaysMember name? c member behind →
      SaysMembers false members behind rest →
      SaysMembers false ((name?, c) :: members) text rest

/-- A text leads with a name, a colon and a value. -/
inductive SaysMember : Option String → Content → Bytes → Bytes → Prop where
  /-- They follow each other. -/
  | mk {body : Bytes} {name? : Option String} {c : Content} {text colon value rest : Bytes} :
      Blanks text (byte '"' :: (body ++ byte '"' :: colon)) → MayStandFor body name? →
      Blanks colon (byte ':' :: value) → Says c value rest →
      SaysMember name? c text rest

end

variable {c : Content} {text rest behind : Bytes} {b : UInt8} {first : Bool}
  {elements : List Content} {members : List (Option String × Content)} {name? : Option String}

/-! ### Blanks -/

theorem skipSpace_of_blanks (h : Blanks text (b :: rest)) (hb : isSpace b = false) :
    skipSpace text = b :: rest := by
  induction text with
  | nil => cases h
  | cons a text ih =>
    cases h with
    | none => rw [skipSpace, hb]; rfl
    | skip hs h =>
      rw [skipSpace, if_pos hs]
      exact ih h

theorem skipSpace_of_blanks_nil (h : Blanks text []) : skipSpace text = [] := by
  induction text with
  | nil => rfl
  | cons a text ih =>
    cases h with
    | skip hs h =>
      rw [skipSpace, if_pos hs]
      exact ih h

/-- A value does not start with a blank. -/
theorem Starts.not_space (h : Starts c b text rest) : isSpace b = false := by
  cases h with
  | number _ h =>
    have hd := h.isDigit
    cases hs : isSpace b with
    | false => rfl
    | true =>
      simp only [isSpace, Bool.or_eq_true, beq_iff_eq] at hs
      rcases hs with ((rfl | rfl) | rfl) | rfl <;> cases hd
  | _ => decide

/-- Behind the blanks a value starts. -/
theorem Says.starts (h : Says c text rest) :
    ∃ b tail, skipSpace text = b :: tail ∧ Starts c b tail rest := by
  cases h with
  | mk hb h => exact ⟨_, _, skipSpace_of_blanks hb h.not_space, h⟩

theorem Starts.alone (h : Starts c b text rest) : Says c (b :: text) rest := .mk (.none _) h

/-! ### What says something is JSON, and the other way round -/

mutual

/-- What says something leads with a value. -/
theorem Says.leads {c : Content} {text rest : Bytes} : Says c text rest →
    ∃ tree, Leads tree text rest
  | .mk hb h => by
    obtain ⟨tree, htree⟩ := h.leads
    exact ⟨tree, hb.leads htree⟩

theorem Starts.leads {c : Content} {b : UInt8} {tail rest : Bytes} : Starts c b tail rest →
    ∃ tree, Leads tree (b :: tail) rest
  | .null rest => ⟨.null, .null rest⟩
  | .yes rest => ⟨.boolean true, .boolean true rest⟩
  | .no rest => ⟨.boolean false, .boolean false rest⟩
  | .number rest h => ⟨.number, .number (h.append rest)⟩
  | .negative rest h => ⟨.number, .negative (h.append rest)⟩
  | .string rest h => ⟨.string _, .string rest h.inside⟩
  | .array h => by
    obtain ⟨trees, htrees, -⟩ := h.leads
    exact ⟨.array trees, .array htrees⟩
  | .object h _ => by
    obtain ⟨trees, htrees, -⟩ := h.leads
    exact ⟨.object trees, .object htrees⟩

theorem SaysElements.leads {first : Bool} {elements : List Content} {text rest : Bytes} :
    SaysElements first elements text rest →
      ∃ trees, LeadsElements first trees text rest ∧ trees.length = elements.length
  | .close hb => ⟨[], .close hb, rfl⟩
  | .first h hmore => by
    obtain ⟨tree, htree⟩ := h.leads
    obtain ⟨trees, htrees, hlength⟩ := hmore.leads
    exact ⟨tree :: trees, .first htree htrees, congrArg (· + 1) hlength⟩
  | .next hb h hmore => by
    obtain ⟨tree, htree⟩ := h.leads
    obtain ⟨trees, htrees, hlength⟩ := hmore.leads
    exact ⟨tree :: trees, .next hb htree htrees, congrArg (· + 1) hlength⟩

theorem SaysMembers.leads {first : Bool} {members : List (Option String × Content)}
    {text rest : Bytes} : SaysMembers first members text rest →
      ∃ trees, LeadsMembers first trees text rest ∧ trees.length = members.length
  | .close hb => ⟨[], .close hb, rfl⟩
  | .first h hmore => by
    obtain ⟨name, tree, htree⟩ := h.leads
    obtain ⟨trees, htrees, hlength⟩ := hmore.leads
    exact ⟨(name, tree) :: trees, .first htree htrees, congrArg (· + 1) hlength⟩
  | .next hb h hmore => by
    obtain ⟨name, tree, htree⟩ := h.leads
    obtain ⟨trees, htrees, hlength⟩ := hmore.leads
    exact ⟨(name, tree) :: trees, .next hb htree htrees, congrArg (· + 1) hlength⟩

theorem SaysMember.leads {name? : Option String} {c : Content} {text rest : Bytes} :
    SaysMember name? c text rest → ∃ name tree, LeadsMember name tree text rest
  | .mk hb hname hcolon h => by
    obtain ⟨tree, htree⟩ := h.leads
    exact ⟨_, tree, .mk hb hname.inside hcolon htree⟩

end

mutual

/-- What leads with a value says something. -/
theorem Leads.content {tree : Tree} {text rest : Bytes} : Leads tree text rest →
    ∃ c, Says c text rest
  | .blank hs h => by
    obtain ⟨c, hc⟩ := h.content
    cases hc with
    | mk hb hc => exact ⟨c, .mk (.skip hs hb) hc⟩
  | .null rest => ⟨_, (Starts.null rest).alone⟩
  | .boolean true rest => ⟨_, (Starts.yes rest).alone⟩
  | .boolean false rest => ⟨_, (Starts.no rest).alone⟩
  | .number h => by
    obtain ⟨ds, rfl, hds⟩ := h.split
    obtain ⟨d, ds, rfl, -⟩ := hds.head
    exact ⟨_, (Starts.number _ hds).alone⟩
  | .negative h => by
    obtain ⟨ds, rfl, hds⟩ := h.split
    exact ⟨_, (Starts.negative _ hds).alone⟩
  | .string rest h => by
    obtain ⟨s?, hs⟩ := h.exists_mayStandFor
    exact ⟨_, (Starts.string rest hs).alone⟩
  | .array h => by
    obtain ⟨elements, helements⟩ := h.content
    exact ⟨_, (Starts.array helements).alone⟩
  | .object h => by
    obtain ⟨members, hmembers⟩ := h.content
    exact ⟨_, (Starts.object hmembers (.refl _)).alone⟩

theorem LeadsElements.content {first : Bool} {trees : List Tree} {text rest : Bytes} :
    LeadsElements first trees text rest → ∃ elements, SaysElements first elements text rest
  | .close hb => ⟨[], .close hb⟩
  | .first h hmore => by
    obtain ⟨c, hc⟩ := h.content
    obtain ⟨elements, helements⟩ := hmore.content
    exact ⟨c :: elements, .first hc helements⟩
  | .next hb h hmore => by
    obtain ⟨c, hc⟩ := h.content
    obtain ⟨elements, helements⟩ := hmore.content
    exact ⟨c :: elements, .next hb hc helements⟩

theorem LeadsMembers.content {first : Bool} {trees : List (Bytes × Tree)} {text rest : Bytes} :
    LeadsMembers first trees text rest → ∃ members, SaysMembers first members text rest
  | .close hb => ⟨[], .close hb⟩
  | .first h hmore => by
    obtain ⟨name?, c, hc⟩ := h.content
    obtain ⟨members, hmembers⟩ := hmore.content
    exact ⟨(name?, c) :: members, .first hc hmembers⟩
  | .next hb h hmore => by
    obtain ⟨name?, c, hc⟩ := h.content
    obtain ⟨members, hmembers⟩ := hmore.content
    exact ⟨(name?, c) :: members, .next hb hc hmembers⟩

theorem LeadsMember.content {name : Bytes} {tree : Tree} {text rest : Bytes} :
    LeadsMember name tree text rest → ∃ name? c, SaysMember name? c text rest
  | .mk hb hname hcolon h => by
    obtain ⟨name?, hname⟩ := hname.exists_mayStandFor
    obtain ⟨c, hc⟩ := h.content
    exact ⟨name?, c, .mk hb hname hcolon hc⟩

end

end Workbench.Json
