import Workbench.Gateway.Basic
import Workbench.Proofs.Text.Faults
import Workbench.Proofs.Text.Words

/-!
# What is shown of a body

When a status tells of a failure the body may say more, and the beginning of it is shown. But the
body of such a response may be anything: a page for people to look at, data that is no text, or
nothing at all. What is shown has to fit in a line all the same.

* `preview_shows_words` — the words of a body are shown on one line, up to a limit, and nothing else
  in it makes a difference.
-/

namespace Workbench.Gateway

open Workbench.Text

variable {body : Bytes} {ws : List (List Char)} {shown shown' : String}

/-- These are the words of a body: the words of the characters that it is shown as. -/
def BodyHas (body : Bytes) (ws : List (List Char)) : Prop :=
  ∃ s, Utf8.ShownAs body s ∧ HasWords s ws

/-- Words on a line, with a space between any two of them. -/
def lineOf (ws : List (List Char)) : List Char := [' '].intercalate ws

/-- What is shown of words. -/
inductive Abridges : List (List Char) → String → Prop where
  /-- If there are none, this is said. -/
  | empty : Abridges [] "empty body"
  /-- A line of at most 160 characters is shown as it is. -/
  | whole {ws : List (List Char)} (h : 1 ≤ (lineOf ws).length ∧ (lineOf ws).length ≤ 160) :
    Abridges ws (String.ofList (lineOf ws))
  /-- A longer line is cut after 160 characters. -/
  | cut {ws : List (List Char)} (h : 160 < (lineOf ws).length) :
    Abridges ws (String.ofList ((lineOf ws).take 160) ++ "...")

theorem bodyHas_iff : BodyHas body ws ↔ ws = words (Utf8.decodeLossy body) := by
  constructor
  · rintro ⟨s, hs, hws⟩
    rw [hasWords_iff.mp hws, Utf8.shownAs_iff.mp hs]
  · rintro rfl
    exact ⟨_, Utf8.shownAs_iff.mpr rfl, hasWords_iff.mpr rfl⟩

theorem BodyHas.isWord (h : BodyHas body ws) : ∀ w ∈ ws, IsWord w := by
  obtain ⟨s, -, hws⟩ := h
  exact hws.isWord

/-- The words decide what is shown. -/
theorem Abridges.unique (h : Abridges ws shown) (h' : Abridges ws shown') : shown = shown' := by
  have hnil : (lineOf []).length = 0 := rfl
  cases h with
  | empty =>
    cases h' with
    | empty => rfl
    | whole h => omega
    | cut h => omega
  | whole h =>
    cases h' with
    | empty => omega
    | whole _ => rfl
    | cut h' => omega
  | cut h =>
    cases h' with
    | empty => omega
    | whole h' => omega
    | cut _ => rfl

/-- Something is shown, and not too much. -/
theorem Abridges.length_bounds (h : Abridges ws shown) : 1 ≤ shown.length ∧ shown.length ≤ 163 := by
  cases h with
  | empty => decide
  | whole h =>
    rw [String.length_ofList]
    omega
  | cut h =>
    have hdots : "...".length = 3 := rfl
    rw [String.length_append, String.length_ofList, List.length_take, hdots]
    omega

theorem Abridges.singleSpaced (h : Abridges ws shown) (hws : ∀ w ∈ ws, IsWord w) :
    SingleSpaced shown.toList := by
  have hline : SingleSpaced (lineOf ws) := singleSpaced_intercalate hws
  cases h with
  | empty => exact ⟨by simp [isBlank], by simp [isBlank]⟩
  | whole _ => rwa [String.toList_ofList]
  | cut _ =>
    rw [String.toList_append, String.toList_ofList]
    have hdots : ∀ c ∈ "...".toList, isBlank c = false := by simp [isBlank]
    exact (hline.take 160).append (singleSpaced_of_unbroken hdots)
      (.inr fun c hc => hdots c (List.mem_of_mem_head? hc))

theorem BodyHas.abridges (h : BodyHas body ws) : Abridges ws (preview body) := by
  have hempty : lineOf ws = [] ↔ ws = [] := intercalate_eq_nil_iff h.isWord
  obtain rfl := bodyHas_iff.mp h
  generalize hws : words (Utf8.decodeLossy body) = ws at hempty
  unfold preview
  dsimp only
  rw [hws, ← lineOf, previewLimit]
  split
  next hnil =>
    rw [hempty.mp (List.isEmpty_iff.mp hnil)]
    exact .empty
  next hne =>
    have hfilled : 0 < (lineOf ws).length := by simpa [List.length_pos_iff] using hne
    split
    next hle => exact .whole ⟨hfilled, hle⟩
    next hlong =>
      rw [String.ofList_append]
      exact .cut (by omega)

/-- **The words of a body are shown on one line, up to a limit.** What is shown is not empty and has
at most 163 characters, and single spaces are all the blanks in it. Whatever other body has the same
words, the same is shown of it. -/
theorem preview_shows_words (body : Bytes) :
    ∃ ws, (∀ v, BodyHas body v ↔ v = ws) ∧
      (∀ shown, Abridges ws shown ↔ shown = preview body) ∧
      (preview body ≠ "" ∧ (preview body).length ≤ 163) ∧
      SingleSpaced (preview body).toList ∧
      ∀ other, BodyHas other ws → preview other = preview body := by
  have hbody : BodyHas body (words (Utf8.decodeLossy body)) := bodyHas_iff.mpr rfl
  obtain ⟨hfilled, hlength⟩ := hbody.abridges.length_bounds
  refine ⟨words (Utf8.decodeLossy body), fun v => bodyHas_iff, fun shown => ⟨?_, ?_⟩,
    ⟨?_, hlength⟩, hbody.abridges.singleSpaced hbody.isWord, ?_⟩
  · intro h
    exact h.unique hbody.abridges
  · rintro rfl
    exact hbody.abridges
  · intro hnone
    rw [hnone] at hfilled
    cases hfilled
  · intro other hother
    exact hother.abridges.unique hbody.abridges

/-- For instance, an impossible byte and a sequence that breaks off are shown alike, and the word
behind them makes the line one character too long. -/
theorem preview_shows_words_faulty :
    let long : Bytes := Utf8.encode (List.replicate 159 '\u00E9')
    let body : Bytes := [0xFF, 0x0A, 0x0D] ++ long
    let other : Bytes := [0x20, 0xE2, 0x82, 0xC2, 0x85] ++ long ++ [0x09]
    let ws : List (List Char) := [['\uFFFD'], List.replicate 159 '\u00E9']
    (BodyHas body ws ∧ BodyHas other ws) ∧ preview other = preview body ∧
      preview body = "\uFFFD " ++ String.ofList (List.replicate 158 '\u00E9') ++ "..." := by
  intro long body other ws
  have hbody : BodyHas body ws := bodyHas_iff.mpr (by decide +kernel)
  have hother : BodyHas other ws := bodyHas_iff.mpr (by decide +kernel)
  obtain ⟨ws', hws, habridges, -, -, hsame⟩ := preview_shows_words body
  obtain rfl := (hws ws).mp hbody
  have hline : "\uFFFD " ++ String.ofList (List.replicate 158 '\u00E9') =
      String.ofList ((lineOf ws).take 160) := by decide +kernel
  refine ⟨⟨hbody, hother⟩, hsame other hother, ?_⟩
  rw [hline]
  exact ((habridges _).mp (.cut (by decide +kernel))).symm

/-- Nothing is to be seen of blanks, and a line of 160 characters is not cut. -/
example : preview [0x20, 0xC2, 0x85] = "empty body" ∧
    preview (List.replicate 160 0x78) = String.ofList (List.replicate 160 'x') := by
  decide +kernel

end Workbench.Gateway
