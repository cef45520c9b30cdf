import Mathlib.Tactic.SplitIfs
import Workbench.Markup.Entity

/-!
# Escaped texts

A text that was escaped can stand anywhere in markup: none of its characters is taken for markup,
and an ampersand in it only ever starts one of the five entities (`Inert.escape`). Nothing is
lost by it: reading the entities gives the text back, whatever follows (`decode_escape_append`),
so that an entity is never made up of the end of one text and the start of another. And there is
only one way to write a text like that (`Inert.escape_decode`).
-/

namespace Workbench.Markup

/-- The five entities. -/
def entities : List (List Char) :=
  ["&amp;".toList, "&lt;".toList, "&gt;".toList, "&quot;".toList, "&#039;".toList]

/-- Characters that no surface takes for anything but text. -/
structure Inert (t : List Char) : Prop where
  /-- None of them is a bracket or a quote. -/
  plain : ∀ c ∈ t, c ≠ '<' ∧ c ≠ '>' ∧ c ≠ '"' ∧ c ≠ '\''
  /-- Every ampersand starts an entity. -/
  entity : ∀ rest, '&' :: rest <:+ t → ∃ e ∈ entities, e <+: '&' :: rest

theorem Inert.nil : Inert [] where
  plain := by simp
  entity := by simp

theorem Inert.append {s t : List Char} (hs : Inert s) (ht : Inert t) : Inert (s ++ t) where
  plain := by
    intro c hc
    rcases List.mem_append.mp hc with hc | hc
    · exact hs.plain c hc
    · exact ht.plain c hc
  entity := by
    rintro rest ⟨before, h⟩
    rcases List.append_eq_append_iff.mp h with ⟨inside, rfl, hr⟩ | ⟨inside, rfl, hr⟩
    · cases inside with
      | nil => exact ht.entity rest ⟨[], hr⟩
      | cons a inside =>
        -- the ampersand stands in the first text, and so does its entity
        obtain ⟨rfl, rfl⟩ := List.cons.inj hr
        obtain ⟨e, he, hpre⟩ := hs.entity inside ⟨before, rfl⟩
        exact ⟨e, he, hpre.trans ⟨t, rfl⟩⟩
    · exact ht.entity rest ⟨inside, hr.symm⟩

theorem Inert.of_append {s t : List Char} (h : Inert (s ++ t)) : Inert t where
  plain := fun c hc => h.plain c (List.mem_append_right s hc)
  entity := fun rest hr => h.entity rest (hr.trans (List.suffix_append s t))

theorem Inert.escapeChar (c : Char) : Inert (escapeChar c) := by
  unfold Markup.escapeChar
  split_ifs with hamp
  case neg => constructor <;> simp_all [List.suffix_cons_iff, Ne.symm hamp]
  all_goals constructor <;> simp [entities, List.suffix_cons_iff]

/-- An escaped text is nothing but text. -/
theorem Inert.escape (s : List Char) : Inert (escape s) := by
  induction s with
  | nil => exact .nil
  | cons c s ih => exact (Inert.escapeChar c).append ih

theorem decode_escapeChar_append (c : Char) (rest : List Char) :
    decode (escapeChar c ++ rest) = c :: decode rest := by
  unfold escapeChar
  split_ifs with h
  all_goals simp_all [decode]

/-- Reading the entities undoes escaping, whatever follows. -/
theorem decode_escape_append (s rest : List Char) : decode (escape s ++ rest) = s ++ decode rest := by
  induction s with
  | nil => rfl
  | cons c s ih =>
    calc decode (escape (c :: s) ++ rest)
        = decode (escapeChar c ++ (escape s ++ rest)) := by simp [escape]
      _ = c :: decode (escape s ++ rest) := decode_escapeChar_append ..
      _ = c :: (s ++ decode rest) := by rw [ih]

theorem decode_escape (s : List Char) : decode (escape s) = s := by
  simpa [decode] using decode_escape_append s []

@[simp] theorem escape_append (s t : List Char) : escape (s ++ t) = escape s ++ escape t :=
  List.flatMap_append

theorem escape_cons (c : Char) (s : List Char) : escape (c :: s) = escapeChar c ++ escape s := rfl

theorem escapeChar_of_plain {c : Char} (h : c ≠ '<' ∧ c ≠ '>' ∧ c ≠ '"' ∧ c ≠ '\'')
    (hamp : c ≠ '&') : escapeChar c = [c] := by
  simp [escapeChar, h, hamp]

/-- What is nothing but text is the escaped form of what it reads as. -/
theorem Inert.escape_decode {s : List Char} (h : Inert s) : Markup.escape (decode s) = s := by
  fun_induction decode s with
  | case1 => rfl
  | case2 rest ih => rw [escape_cons, ih (h.of_append (s := "&amp;".toList))]; rfl
  | case3 rest ih => rw [escape_cons, ih (h.of_append (s := "&lt;".toList))]; rfl
  | case4 rest ih => rw [escape_cons, ih (h.of_append (s := "&gt;".toList))]; rfl
  | case5 rest ih => rw [escape_cons, ih (h.of_append (s := "&quot;".toList))]; rfl
  | case6 rest ih => rw [escape_cons, ih (h.of_append (s := "&#039;".toList))]; rfl
  | case7 c rest hamp hlt hgt hquot hapos ih =>
    have hc : c ≠ '&' := by
      rintro rfl
      -- the ampersand would start an entity, and entities were read in the cases before
      obtain ⟨e, he, tail, htail⟩ := h.entity rest (List.suffix_refl _)
      simp only [entities, List.mem_cons, List.not_mem_nil, or_false] at he
      rcases he with rfl | rfl | rfl | rfl | rfl
      · exact hamp tail rfl (List.cons.inj htail).2.symm
      · exact hlt tail rfl (List.cons.inj htail).2.symm
      · exact hgt tail rfl (List.cons.inj htail).2.symm
      · exact hquot tail rfl (List.cons.inj htail).2.symm
      · exact hapos tail rfl (List.cons.inj htail).2.symm
    rw [escape_cons, ih (h.of_append (s := [c])),
      escapeChar_of_plain (h.plain c (List.mem_cons_self ..)) hc]
    rfl

theorem toList_escaped (s : String) : (escaped s).toList = escape s.toList :=
  String.toList_ofList ..

/-- **Escaping is undone by reading, once.** An escaped text reads as itself, whatever follows it;
so an entity that stands in a text is read back as it stands there, and no entity is made up of the
end of a text and what follows. An escaped text is nothing but text, and what is nothing but text
is the escaped form of what it reads as; so no two texts are escaped alike. -/
theorem reading_undoes_escaping :
    (∀ t u : String, decode ((escaped t).toList ++ u.toList) = t.toList ++ decode u.toList) ∧
      Function.Injective escaped ∧
      ∀ s t : String, s = escaped t ↔ Inert s.toList ∧ decode s.toList = t.toList := by
  have hread (t : String) : decode (escaped t).toList = t.toList := by
    rw [toList_escaped, decode_escape]
  refine ⟨fun t u => ?_, fun t u h => ?_, fun s t => ⟨?_, ?_⟩⟩
  · rw [toList_escaped, decode_escape_append]
  · apply String.toList_inj.mp
    rw [← hread t, h, hread]
  · rintro rfl
    exact ⟨toList_escaped t ▸ .escape t.toList, hread t⟩
  · rintro ⟨hinert, hs⟩
    apply String.toList_inj.mp
    rw [toList_escaped, ← hs, hinert.escape_decode]

/-- An entity in a text stays what it is, unless it is read once more. -/
example : decode (escape "&amp;lt;".toList) = "&amp;lt;".toList ∧
    decode (decode (escape "&amp;lt;".toList)) = "&lt;".toList := by decide

end Workbench.Markup
