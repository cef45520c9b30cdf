import Mathlib.Data.List.DropRight
import Workbench.Text.Blank

/-!
# Visible and trimmed texts

Two things that are done to texts in many places: it is asked whether there is anything to be seen
in them, and the blanks at their ends are taken away. Here both are told without saying how they are
done. A text is visible if one of its characters is not blank, and a text is trimmed to what is left
of it between blanks and does not have a blank at either end.

* `isBlankText_eq_false_iff` — the texts that are not taken for blank are those that are visible.
* `trims_iff` — there is one such text, and trimming finds it.
-/

namespace Workbench.Text

/-! ### Visible texts -/

/-- A text has a character that is not blank. -/
def IsVisible (s : String) : Prop := ∃ c ∈ s.toList, isBlank c = false

theorem isBlankText_eq_false_iff {s : String} : isBlankText s = false ↔ IsVisible s := by
  simp [isBlankText, IsVisible]

theorem isBlankText_iff {s : String} : isBlankText s = true ↔ ¬IsVisible s := by
  rw [← isBlankText_eq_false_iff, Bool.not_eq_false]

instance (s : String) : Decidable (IsVisible s) :=
  decidable_of_iff (isBlankText s = false) isBlankText_eq_false_iff

/-- What is to be seen in a text is to be seen with more behind it. -/
theorem IsVisible.append {s : String} (h : IsVisible s) (t : String) : IsVisible (s ++ t) := by
  obtain ⟨c, hc, hseen⟩ := h
  refine ⟨c, ?_, hseen⟩
  rw [String.toList_append]
  exact List.mem_append_left _ hc

/-- Blanks at its end hide nothing of a text. -/
theorem IsVisible.ofList_trimEnd {s : String} (h : IsVisible s) :
    IsVisible (String.ofList (trimEnd s.toList)) := by
  obtain ⟨c, hc, hseen⟩ := h
  have hsplit : trimEnd s.toList ++ s.toList.rtakeWhile isBlank = s.toList :=
    List.rdropWhile_append_rtakeWhile
  rw [← hsplit] at hc
  refine ⟨c, ?_, hseen⟩
  rw [String.toList_ofList]
  refine (List.mem_append.mp hc).resolve_right ?_
  intro hend
  have hblank : isBlank c = true := List.mem_rtakeWhile_imp hend
  rw [hseen] at hblank
  cases hblank

/-- Where the end of a text is visible nothing is trimmed before it. -/
theorem trimEnd_append_of_visible {s : String} (h : IsVisible s) (before : List Char) :
    trimEnd (before ++ s.toList) = before ++ trimEnd s.toList := by
  have hseen : (s.toList.reverse.dropWhile isBlank).isEmpty = false := by
    obtain ⟨c, hc, hseen⟩ := h
    rw [List.isEmpty_eq_false_iff, ne_eq, List.dropWhile_eq_nil_iff]
    intro hblank
    have hc := hblank c (List.mem_reverse.mpr hc)
    rw [hseen] at hc
    cases hc
  simp only [trimEnd, List.reverse_append, List.dropWhile_append, hseen, Bool.false_eq_true,
    if_false, List.reverse_reverse]

/-! ### Trimmed texts -/

/-- A text is another one without the blanks at its ends, and with nothing else changed. -/
structure Trims (raw s : List Char) : Prop where
  /-- What is missing stood at the ends, and was blank. -/
  ends : ∃ before after, raw = before ++ s ++ after ∧ ∀ c ∈ before ++ after, isBlank c = true
  /-- The text does not start with a blank. -/
  first : ∀ c ∈ s.head?, isBlank c = false
  /-- Nor does it end with one. -/
  last : ∀ c ∈ s.getLast?, isBlank c = false

/-- A text does not start with a blank once the blanks at its start are taken away. -/
theorem isBlank_head?_trimStart (s : List Char) : ∀ c ∈ (trimStart s).head?, isBlank c = false := by
  intro c hc
  rcases trimStart_eq_nil_or s with h | ⟨d, rest, hd, h⟩
  · simp [h] at hc
  · simp only [h, List.head?_cons, Option.mem_def, Option.some.injEq] at hc
    rwa [← hc]

/-- Nor does it end with one once the blanks at its end are. -/
theorem isBlank_getLast?_trimEnd (s : List Char) :
    ∀ c ∈ (trimEnd s).getLast?, isBlank c = false := by
  intro c hc
  rw [trimEnd, List.getLast?_reverse] at hc
  exact isBlank_head?_trimStart s.reverse c hc

/-- Blanks before a text that does not start with one are taken away. -/
theorem trimStart_append {before s : List Char} (hbefore : ∀ c ∈ before, isBlank c = true)
    (hs : ∀ c ∈ s.head?, isBlank c = false) : trimStart (before ++ s) = s := by
  rw [trimStart, List.dropWhile_append_of_pos hbefore]
  cases s with
  | nil => rfl
  | cons c s => exact List.dropWhile_cons_of_neg (by simp [hs c (by simp)])

/-- And so are blanks after a text that does not end with one. -/
theorem trimEnd_append {s after : List Char} (hs : ∀ c ∈ s.getLast?, isBlank c = false)
    (hafter : ∀ c ∈ after, isBlank c = true) : trimEnd (s ++ after) = s := by
  have hstart : trimStart (after.reverse ++ s.reverse) = s.reverse := by
    apply trimStart_append
    · simpa using hafter
    · rwa [List.head?_reverse]
  rw [trimStart] at hstart
  rw [trimEnd, List.reverse_append, hstart, List.reverse_reverse]

theorem trims_trim (raw : List Char) : Trims raw (trim raw) where
  ends := by
    refine ⟨raw.takeWhile isBlank, (trimStart raw).rtakeWhile isBlank, ?_, ?_⟩
    · have hend : trim raw ++ (trimStart raw).rtakeWhile isBlank = trimStart raw :=
        List.rdropWhile_append_rtakeWhile
      rw [List.append_assoc, hend]
      exact List.takeWhile_append_dropWhile.symm
    · intro c hc
      rcases List.mem_append.mp hc with hc | hc
      · exact List.mem_takeWhile_imp hc
      · exact List.mem_rtakeWhile_imp hc
  first := by
    rcases trimStart_eq_nil_or raw with h | ⟨c, rest, hc, h⟩
    · simp [trim, h, trimEnd]
    · simpa [trim, h, trimEnd_cons hc] using hc
  last := isBlank_getLast?_trimEnd _

/-- **A text is trimmed to what is left between the blanks at its ends.** -/
theorem trims_iff {raw s : List Char} : Trims raw s ↔ s = trim raw := by
  constructor
  · rintro ⟨⟨before, after, rfl, hblank⟩, hfirst, hlast⟩
    have hbefore : ∀ c ∈ before, isBlank c = true :=
      fun c hc => hblank c (List.mem_append_left after hc)
    have hafter : ∀ c ∈ after, isBlank c = true :=
      fun c hc => hblank c (List.mem_append_right before hc)
    by_cases hs : s = []
    · have hall : trimStart (before ++ [] ++ after) = [] := by simpa [trimStart] using hblank
      rw [hs, trim, hall]
      rfl
    · rw [trim, List.append_assoc, trimStart_append hbefore, trimEnd_append hlast hafter]
      rwa [List.head?_append_of_ne_nil _ hs]
  · rintro rfl
    exact trims_trim raw

end Workbench.Text
