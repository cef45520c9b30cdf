import Mathlib.Data.List.DropRight
import Workbench.Proofs.Display.Template
import Workbench.Terminal

/-!
# Fragments as plain text

A surface without markup reads a fragment back and makes lines of it. What comes out is the same
text that could have been written in the first place, without any markup: `lines` says which, and
`plainText_fragment` that nothing else is shown. The words of the backend stand in it to the
letter; all that goes are spaces before a line break and blanks at the very end.
-/

namespace Workbench.Text

/-- Blanks at the end make no difference to a text that is trimmed. -/
theorem trim_append_of_blank {s t : List Char} (h : ∀ c ∈ t, isBlank c) : trim (s ++ t) = trim s := by
  have hstart : t.dropWhile isBlank = [] := by simpa using h
  have hend : t.reverse.dropWhile isBlank = [] := by simpa using h
  unfold trim trimStart trimEnd
  rw [List.dropWhile_append]
  split_ifs with hs
  · rw [hstart, List.isEmpty_iff.mp hs]
  · rw [List.reverse_append, List.dropWhile_append, hend, List.isEmpty_nil, if_pos rfl]

/-- A text that does not start with a blank is only trimmed at its end. -/
theorem trim_eq_trimEnd {s : List Char} (h : ∀ c ∈ s.head?, isBlank c = false) :
    trim s = trimEnd s := by
  cases s with
  | nil => rfl
  | cons c s => simp [trim, trimStart, h c (by simp)]

end Workbench.Text

namespace Workbench.Markup

/-! ### Lines -/

/-- A text without the spaces at its end. -/
def dropSpaces (s : List Char) : List Char := s.rdropWhile (· == ' ')

/-- A text with a line break at its end, unless there is nothing before it to break off. -/
def endLine (s : List Char) : List Char :=
  if s = [] ∨ s.getLast? = some '\n' then s else s ++ ['\n']

/-- A text with a space at its end, unless a line starts there. -/
def endSpan (s : List Char) : List Char :=
  if s = [] ∨ s.getLast? = some '\n' then s else s ++ [' ']

/-- Spaces are dropped from the last line only. -/
theorem dropSpaces_append {p : List Char} (hp : p.getLast? = some '\n') (s : List Char) :
    dropSpaces (p ++ s) = p ++ dropSpaces s := by
  obtain ⟨q, rfl⟩ := List.getLast?_eq_some_iff.mp hp
  have hkeep : (q ++ ['\n']).reverse.dropWhile (· == ' ') = (q ++ ['\n']).reverse := by simp
  rw [dropSpaces, List.rdropWhile, List.reverse_append, List.dropWhile_append, hkeep, dropSpaces,
    List.rdropWhile]
  split_ifs with h
  · simp [List.isEmpty_iff.mp h]
  · simp

/-- Only the last line is broken off. -/
theorem endLine_append {p : List Char} (hp : p.getLast? = some '\n') (s : List Char) :
    endLine (p ++ s) = p ++ endLine s := by
  have hne : p ≠ [] := by
    rintro rfl
    cases hp
  cases s with
  | nil => simp [endLine, hp]
  | cons c s =>
    simp only [endLine, List.getLast?_append_of_ne_nil _ (List.cons_ne_nil c s), List.append_eq_nil_iff,
      hne, List.cons_ne_nil, false_and, false_or]
    split_ifs <;> simp

/-- A line that was ended stays as it is. -/
theorem endLine_dropSpaces_of_line {p : List Char} (hp : p.getLast? = some '\n') :
    endLine (dropSpaces p) = p := by
  have hnil : endLine (dropSpaces []) = [] := rfl
  have h := endLine_append hp (dropSpaces [])
  rwa [← dropSpaces_append hp, hnil, List.append_nil] at h

theorem getLast?_endLine {s : List Char} (h : s ≠ []) : (endLine s).getLast? = some '\n' := by
  unfold endLine
  split_ifs with hs
  · exact hs.resolve_left h
  · simp

theorem dropSpaces_ne_nil {c : Char} (h : c ≠ ' ') (s : List Char) : dropSpaces (c :: s) ≠ [] := by
  simp [dropSpaces, List.rdropWhile_eq_nil_iff, h]

/-- What goes at the end of a line, and the line break, is blank. -/
theorem trim_endLine_dropSpaces (s : List Char) :
    Text.trim (endLine (dropSpaces s)) = Text.trim s := by
  have hspaces : Text.trim (dropSpaces s) = Text.trim s := by
    conv_rhs => rw [← List.rdropWhile_append_rtakeWhile (p := (· == ' ')) (l := s)]
    refine (Text.trim_append_of_blank fun c hc => ?_).symm
    obtain rfl : c = ' ' := by simpa using List.mem_rtakeWhile_imp hc
    decide
  unfold endLine
  split_ifs
  · exact hspaces
  · rw [Text.trim_append_of_blank (List.forall_mem_singleton.mpr (by decide)), hspaces]

theorem trim_endSpan (s : List Char) : Text.trim (endSpan s) = Text.trim s := by
  unfold endSpan
  split_ifs
  · rfl
  · exact Text.trim_append_of_blank (List.forall_mem_singleton.mpr (by decide))

/-! ### Reading markup back -/

/-- What a tag does to the text before it: items start with a bullet on a line of their own, all
other elements but spans take up whole lines, and a space follows a span. -/
def layTag (before g : List Char) : List Char :=
  let name := tagName g
  if name = "li" ∧ !isClosing g then endLine (dropSpaces before) ++ ['-', ' ']
  else if name = "h4" ∨ name = "ul" ∨ name = "pre" ∨ name = "p" ∨ name = "li" then
    endLine (dropSpaces before)
  else if name = "span" ∧ isClosing g then endSpan before
  else before

/-- The text that texts make with the tags between them. -/
def layOut (before : List Char) : List (List Char) → List (List Char) → List Char
  | [], tags => tags.foldl layTag before
  | t :: texts, [] => layOut (before ++ t) texts []
  | t :: texts, g :: tags => layOut (layTag (before ++ t) g) texts tags

theorem breakLine_reverse (s : List Char) :
    breakLine s.reverse = (endLine (dropSpaces s)).reverse := by
  have hdrop : s.reverse.dropWhile (· == ' ') = (dropSpaces s).reverse := by
    simp [dropSpaces, List.rdropWhile]
  rw [breakLine, hdrop]
  rcases List.eq_nil_or_concat (dropSpaces s) with h | ⟨t, c, h⟩
  · simp [h, endLine]
  · by_cases hc : c = '\n' <;> simp [h, endLine, hc]

/-- Tags are read as they are meant. -/
theorem applyTag_reverse (g before : List Char) :
    applyTag g before.reverse = (layTag before g).reverse := by
  simp only [applyTag, layTag]
  split_ifs
  · simp [breakLine_reverse]
  · exact breakLine_reverse before
  · rcases List.eq_nil_or_concat before with rfl | ⟨t, c, rfl⟩
    · rfl
    · by_cases hc : c = '\n' <;> simp [endSpan, hc]
  · rfl

theorem foldl_applyStretch_weave (texts tags : List (List Char)) (before : List Char) :
    (weave texts tags).foldl applyStretch before.reverse =
      (layOut before (texts.map decode) tags).reverse := by
  induction texts, tags using weave.induct generalizing before with
  | case1 tags =>
    rw [weave, List.foldl_map]
    exact List.foldl_hom List.reverse fun before g => applyTag_reverse g before
  | case2 t texts ih =>
    rw [weave, List.foldl_cons, applyStretch, ← List.reverse_append, ih]
    rfl
  | case3 t texts g tags ih =>
    rw [weave, List.foldl_cons, applyStretch, ← List.reverse_append, List.foldl_cons, applyStretch,
      applyTag_reverse, ih]
    rfl

/-- Markup is read back as the texts and tags it falls apart into. -/
theorem toText_eq_layOut {markup : List Char} {texts tags : List (List Char)}
    (h : cut markup = weave texts tags) :
    toText markup = Text.trim (layOut [] (texts.map decode) tags) := by
  have hread := foldl_applyStretch_weave texts tags []
  rw [List.reverse_nil] at hread
  rw [toText, h, hread, List.reverse_reverse]

/-! ### The tags of templates -/

/-- The tags of a list, of code and of counts begin and end lines. -/
theorem layTag_of_line : ∀ g ∈ ["h4", "/h4", "ul", "/ul", "/li", "pre", "/pre",
    "p class=\"stats\"", "/p"], ∀ before, layTag before g.toList = endLine (dropSpaces before) := by
  have hnames : ∀ g ∈ ["h4", "/h4", "ul", "/ul", "/li", "pre", "/pre", "p class=\"stats\"", "/p"],
      ¬ (tagName g.toList = "li" ∧ !isClosing g.toList) ∧
        (tagName g.toList = "h4" ∨ tagName g.toList = "ul" ∨ tagName g.toList = "pre" ∨
          tagName g.toList = "p" ∨ tagName g.toList = "li") := by decide
  intro g hg before
  rw [layTag, if_neg (hnames g hg).1, if_pos (hnames g hg).2]

theorem layTag_item (s : Severity) (before : List Char) :
    layTag before ("li class=\"" ++ s.className ++ "\"").toList =
      endLine (dropSpaces before) ++ ['-', ' '] := by
  cases s <;> rfl

theorem layTag_openSpan (before : List Char) :
    layTag before "span class=\"success\"".toList = before ∧
      layTag before "span class=\"error\"".toList = before := ⟨rfl, rfl⟩

theorem layTag_closeSpan (before : List Char) : layTag before "/span".toList = endSpan before :=
  rfl

end Workbench.Markup

namespace Workbench.Display

open Workbench.Markup

/-- A text as a line of its own, without the spaces at its end. A text of nothing but spaces takes
up no line, and one with a line break at its end needs no other. -/
def asLine (s : String) : String := String.ofList (endLine (dropSpaces s.toList))

/-- A diagnostic as an item of a list. -/
def diagnosticLine (d : Diagnostic) : String := asLine ("- " ++ d.message)

/-- What an announcement says, line by line. -/
def Announcement.lines : Announcement → List String
  | .answer (.compile .valid) => ["\u2713 Compilation successful!"]
  | .answer (.compile (.invalid diagnostics stats)) =>
    "Compilation errors:\n" :: (diagnostics.map diagnosticLine ++ (stats.map statsLine).toList)
  | .answer (.analyze (.success complexity)) => ["Time Complexity: " ++ complexity]
  | .answer (.optimize (.success code none)) => ["Optimized Code:\n", code]
  | .answer (.optimize (.success code (some complexity))) =>
    ["Optimized Code:\n", asLine code, "Time Complexity: " ++ complexity]
  | .answer (.analyze (.failure message)) | .answer (.optimize (.failure message))
  | .failure message => ["Error: " ++ message]

@[simp] theorem toList_asLine (s : String) : (asLine s).toList = endLine (dropSpaces s.toList) :=
  String.toList_ofList ..

theorem getLast?_diagnosticLine (d : Diagnostic) :
    (diagnosticLine d).toList.getLast? = some '\n' := by
  rw [diagnosticLine, toList_asLine]
  refine getLast?_endLine ?_
  rw [String.toList_append]
  exact dropSpaces_ne_nil (by decide) _

/-- Lines are followed by lines. -/
theorem getLast?_diagnosticLines {before : List Char} (hbefore : before.getLast? = some '\n')
    (ds : List Diagnostic) :
    (before ++ (ds.map diagnosticLine).flatMap String.toList).getLast? = some '\n' := by
  rcases List.eq_nil_or_concat' ds with rfl | ⟨ds, d, rfl⟩
  · simpa using hbefore
  · rw [List.map_append, List.flatMap_append, ← List.append_assoc, List.getLast?_append,
      List.map_singleton, List.flatMap_singleton, getLast?_diagnosticLine]
    rfl

/-- Each diagnostic takes up a line of its own, or as many as its message has. -/
theorem layOut_diagnostics (ds : List Diagnostic) {before : List Char}
    (hbefore : before.getLast? = some '\n') (texts tags : List String) :
    layOut before ((ds.flatMap (fun d => ["", d.message]) ++ "" :: texts).map String.toList)
      (((ds.map Diagnostic.severity).flatMap itemTags ++ "/ul" :: tags).map String.toList) =
    layOut (before ++ (ds.map diagnosticLine).flatMap String.toList) (texts.map String.toList)
      (tags.map String.toList) := by
  induction ds generalizing before with
  | nil =>
    simp only [List.flatMap_nil, List.map_nil, List.nil_append, List.map_cons, layOut,
      String.toList_empty, List.append_nil, layTag_of_line "/ul" (by simp),
      endLine_dropSpaces_of_line hbefore]
  | cons d ds ih =>
    have hitem : layTag (layTag (before ++ "".toList)
          ("li class=\"" ++ d.severity.className ++ "\"").toList ++ d.message.toList) "/li".toList =
        before ++ (diagnosticLine d).toList := by
      rw [String.toList_empty, List.append_nil, layTag_item, endLine_dropSpaces_of_line hbefore,
        layTag_of_line _ (by simp), List.append_assoc, dropSpaces_append hbefore,
        endLine_append hbefore, diagnosticLine, toList_asLine, String.toList_append]
      rfl
    have hline : (before ++ (diagnosticLine d).toList).getLast? = some '\n' := by
      rw [List.getLast?_append, getLast?_diagnosticLine]
      rfl
    simp only [List.map_cons, List.flatMap_cons]
    rw [itemTags]
    simp only [List.cons_append, List.nil_append, List.map_cons, layOut]
    rw [hitem, ih hline, List.append_assoc]

/-- A span at the end. -/
theorem trim_layOut_span {g : String} (hg : ∀ before, layTag before g.toList = before)
    (before : List Char) (s : String) :
    Text.trim (layOut before (["", s, ""].map String.toList) ([g, "/span"].map String.toList)) =
      Text.trim (before ++ s.toList) := by
  simp only [List.map_cons, List.map_nil, layOut, List.foldl_nil, hg, layTag_closeSpan,
    String.toList_empty, List.append_nil, trim_endSpan]

/-- Counts at the end. -/
theorem trim_layOut_stats {before : List Char} (hbefore : before.getLast? = some '\n') (s : String) :
    Text.trim (layOut before (["", s, ""].map String.toList)
      (["p class=\"stats\"", "/p"].map String.toList)) = Text.trim (before ++ s.toList) := by
  simp only [List.map_cons, List.map_nil, layOut, List.foldl_nil, String.toList_empty,
    List.append_nil, layTag_of_line "p class=\"stats\"" (by simp), layTag_of_line "/p" (by simp),
    endLine_dropSpaces_of_line hbefore, trim_endLine_dropSpaces]

/-- The headline over a list, and the list itself, start on a line of their own. -/
theorem layOut_heading (texts tags : List String) :
    layOut [] (("" :: "Compilation errors:" :: "" :: texts).map String.toList)
      (("h4" :: "/h4" :: "ul" :: tags).map String.toList) =
    layOut "Compilation errors:\n".toList (texts.map String.toList) (tags.map String.toList) := by
  simp only [List.map_cons, layOut, layTag_of_line "h4" (by simp), layTag_of_line "/h4" (by simp),
    layTag_of_line "ul" (by simp)]
  rfl

/-- Code starts on a line of its own, and so does what follows it. -/
theorem layOut_code (code : String) (texts tags : List String) :
    layOut [] (("" :: "Optimized Code:" :: "" :: code :: texts).map String.toList)
      (("span class=\"success\"" :: "/span" :: "pre" :: "/pre" :: tags).map String.toList) =
    layOut (endLine (dropSpaces ("Optimized Code:\n".toList ++ code.toList)))
      (texts.map String.toList) (tags.map String.toList) := by
  have hstart : endLine (dropSpaces (endSpan "Optimized Code:".toList)) =
      "Optimized Code:\n".toList := rfl
  simp only [List.map_cons, layOut, String.toList_empty, List.append_nil, List.nil_append,
    layTag_openSpan, layTag_closeSpan, layTag_of_line "pre" (by simp), hstart,
    layTag_of_line "/pre" (by simp)]

/-- Laid out and trimmed, the texts of an announcement are its lines. -/
theorem trim_layOut (a : Announcement) :
    Text.trim (layOut [] (a.texts.map String.toList) (a.template.tags.map String.toList)) =
      Text.trim (a.lines.flatMap String.toList) := by
  have hsuccess : ∀ before, layTag before "span class=\"success\"".toList = before := fun _ => rfl
  have herror : ∀ before, layTag before "span class=\"error\"".toList = before := fun _ => rfl
  have hone : ∀ s : String, [s].flatMap String.toList = [] ++ s.toList := by simp
  match a with
  | .failure message | .answer (.analyze (.failure message))
  | .answer (.optimize (.failure message)) =>
    rw [Announcement.lines, hone]
    exact trim_layOut_span herror [] _
  | .answer (.compile .valid) | .answer (.analyze (.success complexity)) =>
    rw [Announcement.lines, hone]
    exact trim_layOut_span hsuccess [] _
  | .answer (.optimize (.success code none)) =>
    refine (congrArg Text.trim (layOut_code code [""] [])).trans ?_
    simp [layOut, trim_endLine_dropSpaces, Announcement.lines]
  | .answer (.optimize (.success code (some complexity))) =>
    have hline : "Optimized Code:\n".toList.getLast? = some '\n' := rfl
    refine (congrArg Text.trim (layOut_code code ["", "Time Complexity: " ++ complexity, ""]
      ["span class=\"success\"", "/span"])).trans ?_
    rw [trim_layOut_span hsuccess, dropSpaces_append hline, endLine_append hline]
    simp [Announcement.lines]
  | .answer (.compile (.invalid diagnostics stats)) =>
    have hline : "Compilation errors:\n".toList.getLast? = some '\n' := rfl
    have hlines := getLast?_diagnosticLines hline diagnostics
    have hlist := fun texts tags =>
      (layOut_heading _ _).trans (layOut_diagnostics diagnostics hline texts tags)
    cases stats with
    | none =>
      refine (congrArg Text.trim (hlist [""] [])).trans ?_
      simp [layOut, Announcement.lines]
    | some s =>
      refine (congrArg Text.trim (hlist ["", statsLine s, ""] ["p class=\"stats\"", "/p"])).trans ?_
      rw [trim_layOut_stats hlines]
      simp [Announcement.lines]

/-- The lines of an announcement do not start with a blank. -/
theorem Announcement.isBlank_head_lines (a : Announcement) :
    ∀ c ∈ (a.lines.flatMap String.toList).head?, Text.isBlank c = false := by
  match a with
  | .failure _ | .answer (.analyze (.failure _)) | .answer (.optimize (.failure _))
  | .answer (.analyze (.success _)) | .answer (.optimize (.success _ none))
  | .answer (.optimize (.success _ (some _))) | .answer (.compile (.invalid _ _))
  | .answer (.compile .valid) =>
    simp [Announcement.lines]
    decide

/-- **A fragment is shown as lines of text.** -/
theorem plainText_fragment (a : Announcement) :
    a.fragment.plainText = String.ofList (Text.trimEnd (String.join a.lines).toList) ∧
      Terminal.fragment a.fragment =
        String.ofList (Text.trimEnd (String.join a.lines).toList) ++ "\n" := by
  have htext : a.fragment.plainText =
      String.ofList (Text.trimEnd (String.join a.lines).toList) := by
    obtain ⟨texts, -, -, hdecode, hcut, -⟩ := a.cut_fragment
    rw [Fragment.plainText, toText_eq_layOut hcut, hdecode, trim_layOut, String.toList_join,
      Text.trim_eq_trimEnd a.isBlank_head_lines]
  exact ⟨htext, by rw [Terminal.fragment, Terminal.line, htext]⟩

/-- Tags and entities in the code are code. -/
example : (Display.outcome (.optimize (.success "<b>&lt; " none))).plainText =
    "Optimized Code:\n<b>&lt;" := by decide +kernel

end Workbench.Display
