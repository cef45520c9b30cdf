/-!
# Blank characters

The characters that separate words and that trimming removes are those with the Unicode
property White_Space. This module defines the property, trimming at either end, and the words of
a text: the longest runs of characters that are not blank.
-/

namespace Workbench.Text

/-- The Unicode property White_Space. The separators U+001C to U+001F, the zero width space and
the byte order mark do not have it. -/
def isBlank (c : Char) : Bool :=
  let n := c.toNat
  (9 ≤ n && n ≤ 13) || n == 0x20 || n == 0x85 || n == 0xA0 || n == 0x1680 ||
    (0x2000 ≤ n && n ≤ 0x200A) || n == 0x2028 || n == 0x2029 || n == 0x202F || n == 0x205F ||
    n == 0x3000

/-- Removes blanks at the start. -/
def trimStart (s : List Char) : List Char := s.dropWhile isBlank

/-- Removes blanks at the end. -/
def trimEnd (s : List Char) : List Char := (s.reverse.dropWhile isBlank).reverse

/-- Removes blanks at both ends. -/
def trim (s : List Char) : List Char := trimEnd (trimStart s)

/-- A text without the blanks at its ends. -/
def trimmed (s : String) : String := String.ofList (trim s.toList)

/-- A text is blank when no character is left after trimming. -/
def isBlankText (s : String) : Bool := s.toList.all isBlank

/-- Cuts a text at every blank; two blanks in a row leave an empty piece between them. -/
def splitBlank : List Char → List (List Char)
  | [] => [[]]
  | c :: rest =>
    if isBlank c then [] :: splitBlank rest
    else
      match splitBlank rest with
      | [] => [[c]]
      | piece :: pieces => (c :: piece) :: pieces

/-- The words of a text: the pieces between blanks that are not empty. -/
def words (s : List Char) : List (List Char) := (splitBlank s).filter fun w => !w.isEmpty

/-! ### Trimming -/

theorem trimEnd_cons {c : Char} (h : isBlank c = false) (s : List Char) :
    trimEnd (c :: s) = c :: trimEnd s := by
  unfold trimEnd
  rw [List.reverse_cons, List.dropWhile_append]
  by_cases e : (s.reverse.dropWhile isBlank) = []
  · simp [e, h]
  · simp [e]

theorem trimStart_trimStart (s : List Char) : trimStart (trimStart s) = trimStart s := by
  induction s with
  | nil => rfl
  | cons c s ih => by_cases h : isBlank c <;> simp_all [trimStart]

theorem trimEnd_trimEnd (s : List Char) : trimEnd (trimEnd s) = trimEnd s := by
  have h := trimStart_trimStart s.reverse
  unfold trimStart at h
  simp [trimEnd, h]

/-- A text is either all blank or starts, once trimmed at the start, with a character that is
not. -/
theorem trimStart_eq_nil_or (s : List Char) :
    trimStart s = [] ∨ ∃ c rest, isBlank c = false ∧ trimStart s = c :: rest := by
  induction s with
  | nil => exact .inl rfl
  | cons c s ih =>
    by_cases h : isBlank c
    · simpa [trimStart, h] using ih
    · exact .inr ⟨c, s, by simpa using h, by simp [trimStart, h]⟩

/-- Trimming twice is trimming once. -/
theorem trim_trim (s : List Char) : trim (trim s) = trim s := by
  unfold trim
  rcases trimStart_eq_nil_or s with h | ⟨c, rest, hc, h⟩
  · rw [h]; rfl
  · rw [h, trimEnd_cons hc, show trimStart (c :: trimEnd rest) = c :: trimEnd rest by
      simp [trimStart, hc], ← trimEnd_cons hc, trimEnd_trimEnd]

theorem trimmed_trimmed (s : String) : trimmed (trimmed s) = trimmed s := by
  simp [trimmed, trim_trim]

end Workbench.Text
