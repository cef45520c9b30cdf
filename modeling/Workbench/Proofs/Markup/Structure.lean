import Workbench.Markup.PlainText
import Workbench.Proofs.Markup.Escaping

/-!
# Where written markup falls apart

Surfaces take written markup apart at its angle brackets. This module proves that they find the
tags that were put into it and no others, with the texts between them: `cut_write`, for every
sequence of pieces whose tags have no brackets in their names. What is said in the texts has no
part in it.
-/

namespace Workbench.Markup

/-- How a stretch is written. -/
def Stretch.write : Stretch → List Char
  | .text s => s
  | .tag s => '<' :: (s ++ ['>'])

/-- Texts with a tag between each two. -/
def weave : List (List Char) → List (List Char) → List Stretch
  | [], tags => tags.map .tag
  | t :: texts, [] => .text t :: weave texts []
  | t :: texts, g :: tags => .text t :: .tag g :: weave texts tags

/-- What stands inside the brackets of a piece that is a tag. -/
def Piece.inside? : Piece → Option String
  | .opening tag none => some tag.name
  | .opening tag (some className) => some (tag.name ++ " class=\"" ++ className ++ "\"")
  | .closing tag => some ("/" ++ tag.name)
  | .text _ => none

/-- The tags of a sequence of pieces. -/
def tagsOf (pieces : List Piece) : List (List Char) :=
  pieces.filterMap fun p => p.inside?.map String.toList

/-- The texts before, between and after the tags of a sequence of pieces. -/
def textsOf : List Piece → List (List Char)
  | [] => [[]]
  | .text s :: rest =>
    match textsOf rest with
    | [] => [s.toList]
    | t :: texts => (s.toList ++ t) :: texts
  | _ :: rest => [] :: textsOf rest

/-- No angle bracket stands inside a tag. -/
def Bracketless (g : List Char) : Prop := ∀ c ∈ g, c ≠ '<' ∧ c ≠ '>'

/-! ### Texts and tags in turn -/

/-- Of a sequence of pieces it only matters which are texts and which are tags. -/
@[elab_as_elim]
theorem pieces_induction {P : List Piece → Prop} (nil : P [])
    (text : ∀ s rest, P rest → P (.text s :: rest))
    (tag : ∀ p g rest, p.inside? = some g → P rest → P (p :: rest)) (pieces : List Piece) :
    P pieces := by
  induction pieces with
  | nil => exact nil
  | cons p rest ih =>
    cases p with
    | text s => exact text s rest ih
    | opening t className => cases className <;> exact tag _ _ rest rfl ih
    | closing t => exact tag _ _ rest rfl ih

theorem tagsOf_text (s : String) (rest : List Piece) : tagsOf (.text s :: rest) = tagsOf rest :=
  rfl

theorem tagsOf_tag {p : Piece} {g : String} (h : p.inside? = some g) (rest : List Piece) :
    tagsOf (p :: rest) = g.toList :: tagsOf rest := by
  simp [tagsOf, h]

theorem textsOf_tag {p : Piece} {g : String} (h : p.inside? = some g) (rest : List Piece) :
    textsOf (p :: rest) = [] :: textsOf rest := by
  cases p with
  | text s => cases h
  | opening | closing => rfl

/-- There is one text more than there are tags. -/
theorem length_textsOf (pieces : List Piece) :
    (textsOf pieces).length = (tagsOf pieces).length + 1 := by
  induction pieces using pieces_induction with
  | nil => rfl
  | text s rest ih =>
    rw [tagsOf_text, ← ih, textsOf]
    cases h : textsOf rest with
    | nil => simp [h] at ih
    | cons t texts => rfl
  | tag p g rest hg ih => rw [tagsOf_tag hg, textsOf_tag hg, List.length_cons, ih, List.length_cons]

theorem exists_textsOf (pieces : List Piece) : ∃ t texts, textsOf pieces = t :: texts := by
  refine List.exists_cons_of_ne_nil fun h => ?_
  have := length_textsOf pieces
  simp [h] at this

theorem textsOf_text {rest : List Piece} {t : List Char} {texts : List (List Char)}
    (h : textsOf rest = t :: texts) (s : String) :
    textsOf (.text s :: rest) = (s.toList ++ t) :: texts := by
  rw [textsOf, h]

/-- Texts and tags that stand in turn are known from the whole. -/
theorem weave_inj {texts texts' tags tags' : List (List Char)}
    (hl : texts.length = tags.length + 1) (hl' : texts'.length = tags'.length + 1)
    (h : weave texts tags = weave texts' tags') : texts = texts' ∧ tags = tags' := by
  induction tags generalizing texts texts' tags' with
  | nil =>
    obtain ⟨t, rfl⟩ := List.length_eq_one_iff.mp hl
    cases tags' with
    | nil =>
      obtain ⟨t', rfl⟩ := List.length_eq_one_iff.mp hl'
      simpa [weave] using h
    | cons g' tags' =>
      cases texts' with
      | nil => simp at hl'
      | cons t' texts' => simp [weave] at h
  | cons g tags ih =>
    cases texts with
    | nil => simp at hl
    | cons t texts =>
      cases texts' with
      | nil => simp at hl'
      | cons t' texts' =>
        cases tags' with
        | nil =>
          obtain rfl : texts' = [] := by simpa using hl'
          simp [weave] at h
        | cons g' tags' =>
          simp only [weave, List.cons.injEq, Stretch.text.injEq, Stretch.tag.injEq] at h
          obtain ⟨rfl, rfl, h⟩ := h
          obtain ⟨rfl, rfl⟩ := ih (by simpa using hl) (by simpa using hl') h
          exact ⟨rfl, rfl⟩

/-! ### Cutting -/

theorem toList_write (pieces : List Piece) :
    (write pieces).toList = pieces.flatMap fun p => p.write.toList := by
  rw [write, String.toList_join, List.flatMap_map]

theorem toList_write_text (s : String) : (Piece.text s).write.toList = escape s.toList := by
  simp [Piece.write, escaped]

/-- A tag is written between brackets. -/
theorem toList_write_tag {p : Piece} {g : String} (h : p.inside? = some g) :
    p.write.toList = '<' :: (g.toList ++ ['>']) := by
  cases p with
  | opening tag className =>
    cases className <;> cases h <;> simp [Piece.write]
  | closing tag => cases h; simp [Piece.write]
  | text s => cases h

theorem cutFrom_text {t : List Char} (h : Inert t) (seen rest : List Char) :
    cutFrom false seen (t ++ rest) = cutFrom false (t.reverse ++ seen) rest := by
  have hplain := h.plain
  clear h
  induction t generalizing seen with
  | nil => rfl
  | cons c t ih =>
    rw [List.cons_append, cutFrom, if_neg (hplain c (by simp)).1,
      ih _ fun d hd => hplain d (by simp [hd])]
    simp

theorem cutFrom_tag {g : List Char} (h : Bracketless g) (seen rest : List Char) :
    cutFrom true seen (g ++ '>' :: rest) = .tag (seen.reverse ++ g) :: cutFrom false [] rest := by
  induction g generalizing seen with
  | nil => simp [cutFrom]
  | cons c g ih =>
    rw [List.cons_append, cutFrom, if_neg (h c (by simp)).2, ih fun d hd => h d (by simp [hd])]
    simp

/-- What is cut after some characters of a text were seen. -/
theorem cutFrom_write {pieces : List Piece} (h : ∀ g ∈ tagsOf pieces, Bracketless g)
    {t : List Char} {texts : List (List Char)} (ht : textsOf pieces = t :: texts)
    (seen : List Char) :
    cutFrom false seen (write pieces).toList =
      weave ((seen.reverse ++ escape t) :: texts.map escape) (tagsOf pieces) := by
  rw [toList_write]
  induction pieces using pieces_induction generalizing t texts seen with
  | nil =>
    obtain ⟨rfl, rfl⟩ := List.cons.inj ht
    simp [cutFrom, weave, tagsOf, escape]
  | text s rest ih =>
    obtain ⟨t', texts', ht'⟩ := exists_textsOf rest
    rw [textsOf_text ht'] at ht
    obtain ⟨rfl, rfl⟩ := List.cons.inj ht
    rw [tagsOf_text] at h ⊢
    rw [List.flatMap_cons, toList_write_text, cutFrom_text (Inert.escape _), ih h ht']
    simp
  | tag p g rest hg ih =>
    rw [tagsOf_tag hg] at h ⊢
    rw [textsOf_tag hg] at ht
    obtain ⟨rfl, rfl⟩ := List.cons.inj ht
    obtain ⟨t', texts', ht'⟩ := exists_textsOf rest
    rw [List.flatMap_cons, toList_write_tag hg, ht', List.cons_append, List.append_assoc,
      List.singleton_append, cutFrom, if_pos rfl, cutFrom_tag (h _ (by simp)),
      ih (fun g hg => h g (by simp [hg])) ht']
    simp [weave, escape]

/-- **Written markup falls apart into the tags that were put into it**, and the texts between them
are the escaped ones. -/
theorem cut_write {pieces : List Piece} (h : ∀ g ∈ tagsOf pieces, Bracketless g) :
    cut (write pieces).toList = weave ((textsOf pieces).map escape) (tagsOf pieces) := by
  obtain ⟨t, texts, ht⟩ := exists_textsOf pieces
  rw [cut, cutFrom_write h ht, ht]
  rfl

/-- Nothing of it is lost. -/
theorem flatMap_write_weave (pieces : List Piece) :
    (weave ((textsOf pieces).map escape) (tagsOf pieces)).flatMap Stretch.write =
      (write pieces).toList := by
  rw [toList_write]
  induction pieces using pieces_induction with
  | nil => rfl
  | text s rest ih =>
    obtain ⟨t, texts, ht⟩ := exists_textsOf rest
    rw [List.flatMap_cons, ← ih, toList_write_text, tagsOf_text, textsOf_text ht, ht]
    cases tagsOf rest <;> simp [weave, Stretch.write]
  | tag p g rest hg ih =>
    rw [List.flatMap_cons, ← ih, toList_write_tag hg, tagsOf_tag hg, textsOf_tag hg]
    simp [weave, Stretch.write, escape]

end Workbench.Markup
