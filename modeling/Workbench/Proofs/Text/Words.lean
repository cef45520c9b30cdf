import Mathlib.Data.List.Chain
import Workbench.Text.Blank

/-!
# Words and lines

The words of a text are its longest runs of characters that are not blank. They are found by cutting
the text at every blank; here they are told by what the text is made of. Words are put on a line
with a space between any two of them, and then these spaces are all the blanks there are.

* `hasWords_iff` — every text is made of words and blanks in one way, and these words are found.
* `singleSpaced_intercalate` — words on a line are spaced singly.
-/

namespace Workbench.Text

variable {c : Char} {s t w : List Char} {ws : List (List Char)}

/-! ### Words -/

/-- Characters that make a word: there is one at least, and none is blank. -/
structure IsWord (w : List Char) : Prop where
  /-- There is a character. -/
  filled : w ≠ []
  /-- None is blank. -/
  unbroken : ∀ c ∈ w, isBlank c = false

/-- A text is made of these words, in this order, and of blanks. -/
inductive HasWords : List Char → List (List Char) → Prop where
  /-- The empty text has no words. -/
  | nil : HasWords [] []
  /-- A blank belongs to no word. -/
  | blank {c : Char} {s : List Char} {ws : List (List Char)} (hc : isBlank c = true) :
    HasWords s ws → HasWords (c :: s) ws
  /-- A word goes on up to a blank or to the end. -/
  | word {w s : List Char} {ws : List (List Char)} (hw : IsWord w)
    (hs : ∀ c ∈ s.head?, isBlank c = true) : HasWords s ws → HasWords (w ++ s) (w :: ws)

theorem HasWords.isWord (h : HasWords s ws) : ∀ w ∈ ws, IsWord w := by
  induction h with
  | nil => simp
  | blank _ _ ih => exact ih
  | word hw _ _ ih => exact List.forall_mem_cons.mpr ⟨hw, ih⟩

theorem splitBlank_eq_splitOnP (s : List Char) : splitBlank s = s.splitOnP isBlank := by
  induction s with
  | nil => rfl
  | cons c s ih =>
    rw [splitBlank, ih, List.splitOnP_cons_eq_if_modifyHead]
    by_cases hc : isBlank c = true
    · rw [if_pos hc, if_pos hc]
    · rw [if_neg hc, if_neg hc]
      cases hs : s.splitOnP isBlank with
      | nil => exact absurd hs (List.splitOnP_ne_nil isBlank s)
      | cons piece pieces => rfl

theorem words_cons_of_blank (hc : isBlank c = true) : words (c :: s) = words s := by
  simp [words, splitBlank, hc]

theorem words_append_of_word (hw : IsWord w) (hs : ∀ c ∈ s.head?, isBlank c = true) :
    words (w ++ s) = w :: words s := by
  cases s with
  | nil =>
    rw [List.append_nil, words, splitBlank_eq_splitOnP, List.splitOnP_eq_singleton hw.unbroken,
      List.filter_cons_of_pos (by simpa using hw.filled)]
    rfl
  | cons c s =>
    have hc : isBlank c = true := hs c rfl
    rw [words, splitBlank_eq_splitOnP, List.splitOnP_append_cons_of_forall_mem hw.unbroken c hc,
      List.filter_cons_of_pos (by simpa using hw.filled), ← splitBlank_eq_splitOnP, ← words,
      words_cons_of_blank hc]

theorem HasWords.eq_words (h : HasWords s ws) : ws = words s := by
  induction h with
  | nil => rfl
  | blank hc _ ih => rw [words_cons_of_blank hc, ih]
  | word hw hs _ ih => rw [words_append_of_word hw hs, ih]

theorem exists_hasWords (s : List Char) : ∃ ws, HasWords s ws := by
  induction s with
  | nil => exact ⟨[], .nil⟩
  | cons c s ih =>
    obtain ⟨ws, h⟩ := ih
    by_cases hc : isBlank c = true
    · exact ⟨ws, .blank hc h⟩
    · have hone : ∀ d ∈ [c], isBlank d = false := by simpa using hc
      -- The character is a word of its own, unless it is the first of the word behind it.
      cases h with
      | nil => exact ⟨[[c]], .word ⟨by simp, hone⟩ (by simp) .nil⟩
      | blank hd h => exact ⟨[c] :: ws, .word ⟨by simp, hone⟩ (by simpa using hd) (.blank hd h)⟩
      | word hw hs h =>
        refine ⟨_, .word ⟨List.cons_ne_nil c _, ?_⟩ hs h⟩
        exact List.forall_mem_cons.mpr ⟨hone c (.head _), hw.unbroken⟩

/-- **Every text is made of words and blanks in one way.** -/
theorem hasWords_iff : HasWords s ws ↔ ws = words s := by
  constructor
  · exact HasWords.eq_words
  · rintro rfl
    obtain ⟨ws, h⟩ := exists_hasWords s
    exact h.eq_words ▸ h

/-! ### Lines -/

/-- A text is spaced singly: it has no blanks but spaces, and no two of them stand side by side. -/
structure SingleSpaced (s : List Char) : Prop where
  /-- There are no blanks but spaces. -/
  spaces : ∀ c ∈ s, isBlank c = true → c = ' '
  /-- No two of them stand side by side. -/
  apart : s.IsChain fun c d => ¬(isBlank c = true ∧ isBlank d = true)

theorem singleSpaced_of_unbroken (h : ∀ c ∈ s, isBlank c = false) : SingleSpaced s where
  spaces := by
    intro c hc hblank
    rw [h c hc] at hblank
    cases hblank
  apart := by
    apply List.Pairwise.isChain
    apply List.pairwise_of_forall_mem_list
    intro c hc d _ hblank
    rw [h c hc] at hblank
    cases hblank.1

/-- Singly spaced texts stay so together, unless there is a blank on both sides of the seam. -/
theorem SingleSpaced.append (hs : SingleSpaced s) (ht : SingleSpaced t)
    (h : (∀ c ∈ s.getLast?, isBlank c = false) ∨ ∀ d ∈ t.head?, isBlank d = false) :
    SingleSpaced (s ++ t) where
  spaces := List.forall_mem_append.mpr ⟨hs.spaces, ht.spaces⟩
  apart := by
    refine hs.apart.append ht.apart ?_
    rintro c hc d hd ⟨hblankc, hblankd⟩
    rcases h with h | h
    · simp [h c hc] at hblankc
    · simp [h d hd] at hblankd

theorem SingleSpaced.take (h : SingleSpaced s) (n : Nat) : SingleSpaced (s.take n) where
  spaces := fun c hc => h.spaces c (List.mem_of_mem_take hc)
  apart := h.apart.take n

theorem singleSpaced_space : SingleSpaced [' '] where
  spaces := by simp
  apart := .singleton ' '

/-- Words on a line do not start with a blank. -/
theorem isBlank_head?_intercalate (h : ∀ w ∈ ws, IsWord w) :
    ∀ c ∈ ([' '].intercalate ws).head?, isBlank c = false := by
  cases ws with
  | nil => simp
  | cons w ws =>
    obtain ⟨hw, -⟩ := List.forall_mem_cons.mp h
    obtain ⟨c, w', rfl⟩ := List.exists_cons_of_ne_nil hw.filled
    have hc : isBlank c = false := hw.unbroken c (.head _)
    cases ws with
    | nil => simpa using hc
    | cons next ws => simpa using hc

/-- The spaces between words on a line are all the blanks it has. -/
theorem singleSpaced_intercalate (h : ∀ w ∈ ws, IsWord w) :
    SingleSpaced ([' '].intercalate ws) := by
  induction ws with
  | nil => exact singleSpaced_of_unbroken (by simp)
  | cons w ws ih =>
    obtain ⟨hw, hws⟩ := List.forall_mem_cons.mp h
    have hone : SingleSpaced w := singleSpaced_of_unbroken hw.unbroken
    cases ws with
    | nil => rwa [List.intercalate_singleton]
    | cons next ws =>
      rw [List.intercalate_cons_cons]
      have hlast : ∀ c ∈ w.getLast?, isBlank c = false :=
        fun c hc => hw.unbroken c (List.mem_of_mem_getLast? hc)
      have hspace : SingleSpaced (w ++ [' ']) := hone.append singleSpaced_space (.inl hlast)
      exact hspace.append (ih hws) (.inr (isBlank_head?_intercalate hws))

/-- There is nothing on a line only where there are no words. -/
theorem intercalate_eq_nil_iff (h : ∀ w ∈ ws, IsWord w) : [' '].intercalate ws = [] ↔ ws = [] := by
  constructor
  · intro hline
    cases ws with
    | nil => rfl
    | cons w ws =>
      obtain ⟨hw, -⟩ := List.forall_mem_cons.mp h
      cases ws with
      | nil => exact absurd (by simpa using hline) hw.filled
      | cons next ws => simp at hline
  · rintro rfl
    rfl

end Workbench.Text
