import Workbench.Proofs.Json.TextObjects

/-!
# Objects on one line

An object of texts is sent on one line. Whatever the texts are, by the grammar the line is an
object with these members, in this order, and nothing but these: no text can end its string early,
and none can add to what is around it. So different members are never written as the same line.

* `spellsTexts_compactObject` — the line is an object of texts with the members it was written for.
* `compactObject_injective` — different members are written as different lines.
-/

namespace Workbench.Json

open Workbench.Text (Bytes)
open Workbench.Text.Utf8 (encode encode_append encode_nil)

/-- The bytes of a text between its quotes. -/
def insideBytes (s : String) : Bytes := encode (s.toList.flatMap escapeChar)

/-- The inside of a written string is one by the grammar, and stands for its text. -/
theorem inside_write (s : String) : Inside (insideBytes s) ∧ StandsFor (insideBytes s) s := by
  obtain ⟨body, hinside, hstands, hbody⟩ := readString_sound (readString_write s [])
  have hbody : body = insideBytes s := (List.append_cancel_right hbody).symm
  exact hbody ▸ ⟨hinside, hstands⟩

/-- A member as it is written. -/
def writtenMember (m : String × String) : Bytes × Tree :=
  (insideBytes m.1, .string (insideBytes m.2))

theorem isTextMember_written (m : String × String) : IsTextMember (writtenMember m) m :=
  ⟨(inside_write m.1).2, (inside_write m.2).2⟩

theorem encode_compactMember (m : String × String) (rest : Bytes) :
    encode (compactMember m) ++ rest = byte '"' :: (insideBytes m.1 ++ byte '"' :: byte ':' ::
      byte '"' :: (insideBytes m.2 ++ byte '"' :: rest)) := by
  simp (disch := decide) only [compactMember, writeString, insideBytes, encode_ascii_cons,
    encode_append, encode_nil, List.cons_append, List.append_assoc, List.nil_append]

theorem leadsMember_compact (m : String × String) (rest : Bytes) :
    LeadsMember (writtenMember m).1 (writtenMember m).2 (encode (compactMember m) ++ rest)
      rest := by
  rw [encode_compactMember]
  exact .mk (.none _) (inside_write m.1).1 (.none _) (.string rest (inside_write m.2).1)

/-- The members after the first one, each behind a comma. -/
def commaMembers (members : List (String × String)) : List Char :=
  members.flatMap fun m => [','] ++ compactMember m

theorem leadsMembers_comma (members : List (String × String)) (rest : Bytes) :
    LeadsMembers false (members.map writtenMember)
      (encode (commaMembers members) ++ byte '\x7d' :: rest) rest := by
  induction members with
  | nil => exact .close (.none _)
  | cons m members ih =>
    have htext : encode (commaMembers (m :: members)) ++ byte '\x7d' :: rest =
        byte ',' :: (encode (compactMember m) ++
          (encode (commaMembers members) ++ byte '\x7d' :: rest)) := by
      rw [commaMembers, List.flatMap_cons, ← commaMembers, List.singleton_append, List.cons_append,
        encode_ascii_cons (by decide), encode_append, List.cons_append, List.append_assoc]
    rw [htext]
    exact .next (.none _) (leadsMember_compact m _) ih

theorem leads_compactObject (members : List (String × String)) :
    Leads (.object (members.map writtenMember)) (Text.toBytes (compactObject members)) [] := by
  cases members with
  | nil => exact .object (.close (.none _))
  | cons m members =>
    have htext : Text.toBytes (compactObject (m :: members)) = byte '\x7b' ::
        (encode (compactMember m) ++ (encode (commaMembers members) ++ [byte '\x7d'])) := by
      rw [Text.toBytes, compactObject, String.toList_ofList, intercalate_map_cons, ← commaMembers,
        encode_ascii_cons (by decide), List.append_assoc, encode_append, encode_append]
      rfl
    rw [htext]
    exact .object (.first (leadsMember_compact m _) (leadsMembers_comma members []))

/-- **The line is an object of texts with the members it was written for**, whatever the texts
are. -/
theorem spellsTexts_compactObject (members : List (String × String)) :
    SpellsTexts members (Text.toBytes (compactObject members)) := by
  refine ⟨.object (members.map writtenMember), ⟨[], leads_compactObject members, .none []⟩, ?_⟩
  exact List.forall₂_map_left_iff.mpr (List.forall₂_same.mpr fun m _ => isTextMember_written m)

/-- **Different members are written as different lines.** -/
theorem compactObject_injective {members members' : List (String × String)}
    (h : compactObject members = compactObject members') : members = members' :=
  (spellsTexts_compactObject members).unique (h ▸ spellsTexts_compactObject members')

end Workbench.Json
