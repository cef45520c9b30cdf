import Workbench.Proofs.Json.Acceptance
import Workbench.Proofs.Json.Completeness

/-!
# Objects of texts

An object all of whose values are texts is told by the grammar as a list of names with texts, in
the order in which they are written. A name may occur more than once. The reader of such objects
accepts them and nothing else, and the reader of arbitrary values makes of them what they are.

* `SpellsTexts` — a text is an object of texts.
* `readTextMap_iff` — the reader of objects of texts accepts exactly these.
* `SpellsTexts.parse` — the reader of arbitrary values finds the same members in them.
-/

namespace Workbench.Json

open Workbench.Text (Bytes)

/-- A member as it is written is a name with a text. -/
structure IsTextMember (written : Bytes × Tree) (m : String × String) : Prop where
  /-- What is written as the name stands for the name. -/
  name : StandsFor written.1 m.1
  /-- The value is the text. -/
  text : written.2.IsText m.2

/-- A tree is that of an object of texts with the given members. -/
def Tree.AreMembers : Tree → List (String × String) → Prop
  | .object written, members => List.Forall₂ IsTextMember written members
  | _, _ => False

/-- A text is an object of texts with the given members, and with blanks around it. -/
def SpellsTexts (members : List (String × String)) (text : Bytes) : Prop :=
  ∃ tree, Spells tree text ∧ tree.AreMembers members

/-- An object of texts. -/
def Value.ofTexts (members : List (String × String)) : Value :=
  .object (members.map fun m => (m.1, .string m.2))

variable {text rest : Bytes} {first : Bool} {written : List (Bytes × Tree)}
  {members : List (String × String)}

/-! ### What is accepted is an object of texts -/

theorem isTextMember_of_named {named : List (String × Tree)} (h : List.Forall₂ Named written named)
    (htexts : List.Forall₂ (fun n m => n.1 = m.1 ∧ n.2.IsText m.2) named members) :
    List.Forall₂ IsTextMember written members := by
  induction h generalizing members with
  | nil =>
    cases htexts
    exact .nil
  | cons hnamed _ ih =>
    cases htexts with
    | cons hm hmore =>
      obtain ⟨hname, htree⟩ := hnamed
      exact .cons ⟨hm.1 ▸ hname, htree ▸ hm.2⟩ (ih hmore)

/-- What is read as an object of texts is one. -/
theorem readTextMap_sound (room : Nat) : Sound (readTextMap room) Tree.AreMembers := by
  intro text members rest h
  have hb := blanks_skipSpace text
  unfold readTextMap at h
  split at h
  next => cases h
  next b behind hs =>
    rw [hs] at hb
    split at h
    next hbrace =>
      split at h
      next => cases h
      next =>
        obtain ⟨written, named, hleads, hnamed, htexts⟩ := by
          refine readMembers_sound
            (fun members named =>
              List.Forall₂ (fun n m => n.1 = m.1 ∧ n.2.IsText m.2) named members) ?_ .nil h
          intro members before name text members' rest hbefore h
          split at h
          next => cases h
          next value hcolon =>
            split at h
            next s rest hs =>
              cases h
              obtain ⟨tree, htree, htext⟩ := readText_sound hs
              exact ⟨value, tree, readColon_sound hcolon, htree,
                List.rel_append hbefore (.cons ⟨rfl, htext⟩ .nil)⟩
            next => cases h
        exact ⟨.object written, hb.leads (hbrace ▸ .object hleads),
          isTextMember_of_named hnamed htexts⟩
    next => cases h

/-! ### Objects of texts are accepted -/

/-- Behind the blanks a string starts with its quote. -/
theorem Leads.blanks_string {body text rest : Bytes} : Leads (.string body) text rest →
    Blanks text (byte '"' :: (body ++ byte '"' :: rest))
  | .blank hs h => .skip hs h.blanks_string
  | .string _ _ => .none _

/-- Behind the blanks an object starts with its bracket. -/
theorem Leads.blanks_object {written : List (Bytes × Tree)} {text rest : Bytes} :
    Leads (.object written) text rest →
      ∃ inside, Blanks text (byte '\x7b' :: inside) ∧ LeadsMembers true written inside rest
  | .blank hs h => by
    obtain ⟨inside, hb, hmembers⟩ := h.blanks_object
    exact ⟨inside, .skip hs hb, hmembers⟩
  | .object h => ⟨_, .none _, h⟩

/-- A text is read as it is. -/
theorem readText_of_leads {tree : Tree} {s : String} (h : Leads tree text rest)
    (htext : tree.IsText s) : readText text = .ok (s, rest) := by
  cases tree with
  | string body =>
    rw [readText, skipSpace_of_blanks h.blanks_string (by decide)]
    exact StandsFor.read htext rest
  | _ => cases htext

/-- A member that comes next is found by its name. -/
theorem LeadsMember.nextKey {name : Bytes} {tree : Tree} (h : LeadsMember name tree text rest) :
    ∃ colon value, Json.nextKey true text = .ok (.more (name ++ byte '"' :: colon)) ∧
      (∀ before, Blanks before (byte ',' :: text) →
        Json.nextKey false before = .ok (.more (name ++ byte '"' :: colon))) ∧
      readColon colon = .ok value ∧ Leads tree value rest := by
  cases h with
  | @mk _ _ _ colon value _ hb _ hcolon htree =>
    have hquote := skipSpace_of_blanks hb (by decide)
    refine ⟨colon, value, ?_, fun before hcomma => ?_, ?_, htree⟩
    · rw [Json.nextKey, hquote]
      rfl
    · rw [Json.nextKey, skipSpace_of_blanks hcomma (by decide)]
      simp only [hquote]
      rfl
    · rw [readColon, skipSpace_of_blanks hcolon (by decide)]
      exact if_pos rfl

section

variable {σ : Type} (member : σ → String → Bytes → Except Fault (σ × Bytes))
  (keep : σ → String × String → σ)
  (hmember : ∀ ⦃state name s text value rest⦄, readColon text = .ok value →
    readText value = .ok (s, rest) → member state name text = .ok (keep state (name, s), rest))

include hmember

/-- Names with texts are read one after the other, if a member that is a text is kept. -/
theorem readMembers_texts {fuel : Nat} (state : σ) (h : LeadsMembers first written text rest)
    (hall : List.Forall₂ IsTextMember written members) (hfuel : written.length < fuel) :
    readMembers member fuel first state text = .ok (members.foldl keep state, rest) := by
  induction fuel generalizing first text written members state with
  | zero => exact absurd hfuel (Nat.not_lt_zero _)
  | succ fuel ih =>
    -- the first member and the later ones differ only in how their names are found
    have hcons {name : Bytes} {tree : Tree} {more : List (Bytes × Tree)}
        {colon value behind : Bytes}
        (hnext : nextKey first text = .ok (.more (name ++ byte '"' :: colon)))
        (hcolon : readColon colon = .ok value) (htree : Leads tree value behind)
        (hmore : LeadsMembers false more behind rest)
        (hall : List.Forall₂ IsTextMember ((name, tree) :: more) members)
        (hlength : more.length < fuel) :
        readMembers member (fuel + 1) first state text = .ok (members.foldl keep state, rest) := by
      cases hall with
      | cons hm hmembers =>
        have hname := hm.name.read colon
        have htext := readText_of_leads htree hm.text
        rw [readMembers, hnext]
        simp only [hname, hmember hcolon htext, List.foldl_cons]
        exact ih _ hmore hmembers hlength
    cases h with
    | close hb =>
      cases hall
      rw [readMembers, nextKey, skipSpace_of_blanks hb (by decide)]
      rfl
    | first hm hmore =>
      obtain ⟨colon, value, hnext, -, hcolon, htree⟩ := hm.nextKey
      exact hcons hnext hcolon htree hmore hall (Nat.lt_of_succ_lt_succ hfuel)
    | next hb hm hmore =>
      obtain ⟨colon, value, -, hnext, hcolon, htree⟩ := hm.nextKey
      exact hcons (hnext _ hb) hcolon htree hmore hall (Nat.lt_of_succ_lt_succ hfuel)

end

theorem foldl_concat {α β : Type} (f : α → β) (xs : List α) (ys : List β) :
    xs.foldl (fun ys x => ys ++ [f x]) ys = ys ++ xs.map f := by
  induction xs generalizing ys with
  | nil => exact (List.append_nil ys).symm
  | cons x xs ih =>
    rw [List.foldl_cons, ih, List.map_cons, List.append_assoc, List.singleton_append]

/-- An object of texts is read as its members. -/
theorem readTextMap_of_leads {room : Nat} {tree : Tree} (h : Leads tree text rest)
    (hmembers : tree.AreMembers members) : readTextMap (room + 1) text = .ok (members, rest) := by
  cases tree with
  | object written =>
    obtain ⟨inside, hb, hleads⟩ := h.blanks_object
    have hlength := hleads.length_lt
    have hread := readMembers_texts textMember (fun members m => members ++ [m]) ?_ [] hleads
      hmembers (show written.length < inside.length + 1 by omega)
    · have hfold : members.foldl (fun members m => members ++ [m]) [] = members := by
        rw [foldl_concat fun m => m, List.nil_append, List.map_id']
      rw [hfold] at hread
      rw [readTextMap, skipSpace_of_blanks hb (by decide)]
      exact hread
    · intro state name s text value rest hcolon htext
      rw [textMember, hcolon]
      simp only [htext]
  | _ => cases hmembers

/-- **The reader of objects of texts accepts exactly these**, and makes of them what they are. -/
theorem readTextMap_iff :
    readWhole (readTextMap maxDepth) text = .ok members ↔ SpellsTexts members text := by
  constructor
  · exact readWhole_sound (readTextMap_sound maxDepth)
  · rintro ⟨tree, ⟨rest, hleads, hb⟩, hmembers⟩
    have hread : readTextMap maxDepth text = .ok (members, rest) :=
      readTextMap_of_leads hleads hmembers
    rw [readWhole, hread]
    simp only [skipSpace_of_blanks_nil hb]

/-- A text is an object of texts in one way at most. -/
theorem SpellsTexts.unique {members' : List (String × String)} (h : SpellsTexts members text)
    (h' : SpellsTexts members' text) : members = members' :=
  Except.ok.inj ((readTextMap_iff.mpr h).symm.trans (readTextMap_iff.mpr h'))

/-! ### Objects of texts among all values -/

/-- How a member of an object is read, from the end of its name. -/
def valueMember (room : Nat) (members : List (String × Value)) (name : String) (rest : Bytes) :
    Except Fault (List (String × Value) × Bytes) :=
  match readColon rest with
  | .error e => .error e
  | .ok rest =>
    match readValue room rest with
    | .ok (v, rest) => .ok (members ++ [(name, v)], rest)
    | .error e => .error e

/-- What is read as a text is the same among all values. -/
theorem readValue_of_readText {s : String} (room : Nat) (h : readText text = .ok (s, rest)) :
    readValue room text = .ok (.string s, rest) := by
  unfold readText at h
  split at h
  next => cases h
  next b behind hs =>
    split at h
    next hquote =>
      rw [readValue.eq_def, hs, hquote]
      dsimp only
      rw [readScalar?_quote, h]
    next => cases h

theorem readValue_of_brace {room : Nat} {inside : Bytes}
    (hs : skipSpace text = byte '\x7b' :: inside) :
    readValue (room + 1) text =
      match readMembers (valueMember room) (inside.length + 1) true [] inside with
      | .ok (members, rest) => .ok (.object members, rest)
      | .error e => .error e := by
  rw [readValue.eq_def, hs]
  rfl

/-- Among all values an object of texts is the object of these texts. -/
theorem readValue_of_leads {room : Nat} {tree : Tree} (h : Leads tree text rest)
    (hmembers : tree.AreMembers members) :
    readValue (room + 1) text = .ok (.ofTexts members, rest) := by
  cases tree with
  | object written =>
    obtain ⟨inside, hb, hleads⟩ := h.blanks_object
    have hlength := hleads.length_lt
    have hread := readMembers_texts (valueMember room)
      (fun values m => values ++ [(m.1, .string m.2)]) ?_ [] hleads hmembers
      (show written.length < inside.length + 1 by omega)
    · rw [readValue_of_brace (skipSpace_of_blanks hb (by decide)), hread,
        foldl_concat (fun m : String × String => (m.1, Value.string m.2)), List.nil_append]
      rfl
    · intro state name s text value rest hcolon htext
      rw [valueMember, hcolon]
      simp only [readValue_of_readText room htext]
  | _ => cases hmembers

/-- An object of texts is parsed as the object of these texts. -/
theorem SpellsTexts.parse (h : SpellsTexts members text) :
    Json.parse text = .ok (.ofTexts members) := by
  obtain ⟨tree, ⟨rest, hleads, hb⟩, hmembers⟩ := h
  have hread : readValue maxDepth text = .ok (.ofTexts members, rest) :=
    readValue_of_leads hleads hmembers
  rw [Json.parse, readWhole, hread]
  simp only [skipSpace_of_blanks_nil hb]

end Workbench.Json
