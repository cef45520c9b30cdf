import Mathlib.Data.List.Basic
import Workbench.Operation.Display
import Workbench.Proofs.Markup.Structure

/-!
# The templates of fragments

Whatever the backend says is shown in one of a few templates. Which one, and with which tags,
follows from the kind of answer, from how many diagnostics there are and how bad each of them is,
and from whether there are counts or a time complexity. The words of the backend fill the places
between the tags and cannot leave them:

* `fragment_follows_template` — the tags of a fragment are those of its template, the texts
  between them are nothing but text and stand for what the backend said, to the letter, so that a
  fragment tells which answer it shows.
-/

namespace Workbench.Display

open Workbench.Markup

/-- What is put up in the region once an operation has come to its end. -/
inductive Announcement where
  /-- The answer of the backend. -/
  | answer (o : Outcome)
  /-- Why there is none: the operation was turned away, or the backend could not be reached. -/
  | failure (message : String)

/-- How an announcement is shown. -/
def Announcement.fragment : Announcement → Fragment
  | .answer o => outcome o
  | .failure message => Display.failure message

/-- What a fragment looks like apart from its texts. -/
inductive Template where
  /-- The code is valid. -/
  | valid
  /-- A list of diagnostics, and perhaps their counts. -/
  | diagnostics (severities : List Severity) (hasStats : Bool)
  /-- A time complexity. -/
  | complexity
  /-- New code, and perhaps its time complexity. -/
  | code (hasComplexity : Bool)
  /-- A failure. -/
  | failure
  deriving DecidableEq

/-- The tags around a diagnostic. -/
def itemTags (s : Severity) : List String := ["li class=\"" ++ s.className ++ "\"", "/li"]

/-- The tags of a template. -/
def Template.tags : Template → List String
  | .valid | .complexity => ["span class=\"success\"", "/span"]
  | .diagnostics severities hasStats =>
    ["h4", "/h4", "ul"] ++ severities.flatMap itemTags ++
      "/ul" :: if hasStats then ["p class=\"stats\"", "/p"] else []
  | .code hasComplexity =>
    ["span class=\"success\"", "/span", "pre", "/pre"] ++
      if hasComplexity then ["span class=\"success\"", "/span"] else []
  | .failure => ["span class=\"error\"", "/span"]

/-- The template of an announcement. -/
def Announcement.template : Announcement → Template
  | .answer (.compile .valid) => .valid
  | .answer (.compile (.invalid diagnostics stats)) =>
    .diagnostics (diagnostics.map Diagnostic.severity) stats.isSome
  | .answer (.analyze (.success _)) => .complexity
  | .answer (.optimize (.success _ complexity)) => .code complexity.isSome
  | .answer (.analyze (.failure _)) | .answer (.optimize (.failure _)) | .failure _ => .failure

/-- The counts of diagnostics in words. -/
def statsLine (s : Stats) : String :=
  "Lexical: " ++ toString s.lexical ++ ", Syntax: " ++ toString s.syntactic ++ ", Semantic: " ++
    toString s.semantic

/-- What an announcement says before, between and after the tags of its template. -/
def Announcement.texts : Announcement → List String
  | .answer (.compile .valid) => ["", "\u2713 Compilation successful!", ""]
  | .answer (.compile (.invalid diagnostics stats)) =>
    ["", "Compilation errors:", ""] ++ diagnostics.flatMap (fun d => ["", d.message]) ++
      "" :: match stats with
        | some s => ["", statsLine s, ""]
        | none => [""]
  | .answer (.analyze (.success complexity)) => ["", "Time Complexity: " ++ complexity, ""]
  | .answer (.optimize (.success code complexity)) =>
    ["", "Optimized Code:", "", code, ""] ++
      match complexity with
      | some c => ["Time Complexity: " ++ c, ""]
      | none => []
  | .answer (.analyze (.failure message)) | .answer (.optimize (.failure message))
  | .failure message => ["", "Error: " ++ message, ""]

/-! ### Tags and texts of what is shown -/

theorem itemTags_ne (s : Severity) : "li class=\"" ++ s.className ++ "\"" ≠ "/ul" := by
  cases s <;> decide

theorem bracketless_itemTags (s : Severity) : ∀ g ∈ itemTags s, Bracketless g.toList := by
  cases s <;> simp [itemTags, Bracketless, Severity.className]

/-- No template has a bracket inside a tag. -/
theorem Template.bracketless_tags (t : Template) : ∀ g ∈ t.tags, Bracketless g.toList := by
  cases t with
  | diagnostics severities hasStats =>
    intro g hg
    simp only [tags, List.mem_append, List.mem_flatMap] at hg
    rcases hg with (hg | ⟨s, -, hg⟩) | hg
    · revert g
      simp [Bracketless]
    · exact bracketless_itemTags s g hg
    · revert g
      cases hasStats <;> simp [Bracketless]
  | code hasComplexity => cases hasComplexity <;> simp [tags, Bracketless]
  | valid | complexity | failure => simp [tags, Bracketless]

theorem tagsOf_append (p q : List Piece) : tagsOf (p ++ q) = tagsOf p ++ tagsOf q :=
  List.filterMap_append

theorem tagsOf_diagnostics (ds : List Diagnostic) :
    tagsOf (ds.flatMap diagnosticPieces) =
      ((ds.map Diagnostic.severity).flatMap itemTags).map String.toList := by
  induction ds with
  | nil => rfl
  | cons d ds ih =>
    rw [List.flatMap_cons, tagsOf_append, ih, List.map_cons, List.flatMap_cons, List.map_append]
    rfl

theorem textsOf_diagnostics (ds : List Diagnostic) (rest : List Piece) :
    textsOf (ds.flatMap diagnosticPieces ++ rest) =
      (ds.flatMap fun d => ["", d.message]).map String.toList ++ textsOf rest := by
  induction ds with
  | nil => rfl
  | cons d ds ih =>
    rw [List.flatMap_cons, List.append_assoc, List.flatMap_cons, List.map_append,
      List.append_assoc, ← ih]
    simp [diagnosticPieces, element, textsOf]

/-- Every announcement is written with the tags of its template and with its own texts. -/
theorem Announcement.exists_pieces (a : Announcement) : ∃ style pieces,
    a.fragment = .ofPieces style pieces ∧ tagsOf pieces = a.template.tags.map String.toList ∧
      textsOf pieces = a.texts.map String.toList := by
  have hfailure : ∀ message, ∃ style pieces, Display.failure message = .ofPieces style pieces ∧
      tagsOf pieces = Template.failure.tags.map String.toList ∧
      textsOf pieces = ["", "Error: " ++ message, ""].map String.toList := fun message =>
    ⟨_, _, rfl, rfl, by simp [textsOf]⟩
  cases a with
  | failure message => exact hfailure message
  | answer o =>
    cases o with
    | compile o =>
      cases o with
      | valid => exact ⟨_, _, rfl, rfl, by simp [element, textsOf, texts]⟩
      | invalid diagnostics stats =>
        refine ⟨_, _, rfl, ?_, ?_⟩
        · simp only [tagsOf_append, tagsOf_diagnostics, template, Template.tags, List.map_append,
            List.append_assoc]
          cases stats <;> rfl
        · cases stats <;>
            simp [element, statsPieces, statsLine, textsOf, textsOf_diagnostics, texts]
    | analyze o =>
      cases o with
      | success complexity => exact ⟨_, _, rfl, rfl, by simp [complexityPieces, textsOf, texts]⟩
      | failure message => exact hfailure message
    | optimize o =>
      cases o with
      | success code complexity =>
        cases complexity with
        | none => exact ⟨_, _, rfl, rfl, by simp [element, textsOf, texts]⟩
        | some complexity =>
          exact ⟨_, _, rfl, rfl, by simp [element, complexityPieces, textsOf, texts]⟩
      | failure message => exact hfailure message

/-! ### What texts tell -/

/-- A numeral ends where the digits end. -/
theorem toDigits_append_inj {m n : Nat} {s t : List Char}
    (hs : ∀ c ∈ s.head?, c.isDigit = false) (ht : ∀ c ∈ t.head?, c.isDigit = false)
    (h : Nat.toDigits 10 m ++ s = Nat.toDigits 10 n ++ t) : m = n ∧ s = t := by
  have hdigits : ∀ (k : Nat) (r : List Char), (∀ c ∈ r.head?, c.isDigit = false) →
      (Nat.toDigits 10 k ++ r).takeWhile Char.isDigit = Nat.toDigits 10 k := by
    intro k r hr
    have hnil : r.takeWhile Char.isDigit = [] := by
      cases r with
      | nil => rfl
      | cons c r => simp [hr c (by simp)]
    rw [List.takeWhile_append_of_pos fun c hc =>
      Nat.isDigit_of_mem_toDigits (by decide) (by decide) hc, hnil, List.append_nil]
  have hmn : Nat.toDigits 10 m = Nat.toDigits 10 n := by
    rw [← hdigits m s hs, h, hdigits n t ht]
  refine ⟨?_, List.append_cancel_left (hmn ▸ h)⟩
  rw [← Nat.ofDigitChars_ten_toDigits (n := m), hmn, Nat.ofDigitChars_ten_toDigits]

theorem statsLine_inj {s t : Stats} (h : statsLine s = statsLine t) : s = t := by
  have h := congrArg String.toList h
  simp only [statsLine, String.toList_append, Nat.toString_eq_repr, Nat.toList_repr,
    List.append_assoc] at h
  obtain ⟨hl, h⟩ := toDigits_append_inj (by simp) (by simp) (List.append_cancel_left h)
  obtain ⟨hs, h⟩ := toDigits_append_inj (by simp) (by simp) (List.append_cancel_left h)
  have h := List.append_cancel_left h
  obtain ⟨hm, -⟩ := toDigits_append_inj (s := []) (t := []) (by simp) (by simp) (by simpa using h)
  cases s
  cases t
  simp_all

/-- Two lists of diagnostics that are shown alike are alike. -/
theorem diagnostics_inj {ds ds' : List Diagnostic} {stats stats' : Option Stats}
    (htags : (Announcement.answer (.compile (.invalid ds stats))).template.tags =
      (Announcement.answer (.compile (.invalid ds' stats'))).template.tags)
    (htexts : (Announcement.answer (.compile (.invalid ds stats))).texts =
      (Announcement.answer (.compile (.invalid ds' stats'))).texts) : ds = ds' ∧ stats = stats' := by
  simp only [Announcement.template, Announcement.texts, Template.tags, List.append_assoc,
    List.append_cancel_left_eq] at htags htexts
  induction ds generalizing ds' with
  | nil =>
    cases ds' with
    | nil =>
      refine ⟨rfl, ?_⟩
      cases stats <;> cases stats' <;> simp at htags htexts ⊢
      exact statsLine_inj htexts
    | cons d' ds' => simp [itemTags, (itemTags_ne _).symm] at htags
  | cons d ds ih =>
    cases ds' with
    | nil => simp [itemTags, itemTags_ne] at htags
    | cons d' ds' =>
      simp only [itemTags, List.map_cons, List.flatMap_cons, List.cons_append, List.nil_append,
        List.cons.injEq, true_and] at htags htexts
      obtain ⟨rfl, rfl⟩ := ih htags.2 htexts.2
      refine ⟨?_, rfl⟩
      cases d
      cases d'
      simpa using htexts.1

/-- An answer is known from the tags and the texts that show it. -/
theorem outcome_inj {o o' : Outcome} (hop : o.operation = o'.operation)
    (htags : (Announcement.answer o).template.tags = (Announcement.answer o').template.tags)
    (htexts : (Announcement.answer o).texts = (Announcement.answer o').texts) : o = o' := by
  match o, o' with
  | .compile (.invalid ds stats), .compile (.invalid ds' stats') =>
    obtain ⟨rfl, rfl⟩ := diagnostics_inj htags htexts
    rfl
  | .compile .valid, .compile .valid => rfl
  | .compile .valid, .compile (.invalid ds stats) =>
    simp [Announcement.template, Template.tags] at htags
  | .compile (.invalid ds stats), .compile .valid =>
    simp [Announcement.template, Template.tags] at htags
  | .analyze (.success c), .analyze (.success c') =>
    simpa [Announcement.texts] using htexts
  | .analyze (.failure m), .analyze (.failure m') =>
    simpa [Announcement.texts] using htexts
  | .analyze (.success c), .analyze (.failure m) =>
    simp [Announcement.template, Template.tags] at htags
  | .analyze (.failure m), .analyze (.success c) =>
    simp [Announcement.template, Template.tags] at htags
  | .optimize (.success code c), .optimize (.success code' c') =>
    cases c <;> cases c' <;> simp_all [Announcement.template, Template.tags, Announcement.texts]
  | .optimize (.failure m), .optimize (.failure m') =>
    simpa [Announcement.texts] using htexts
  | .optimize (.success code c), .optimize (.failure m) =>
    simp [Announcement.template, Template.tags] at htags
  | .optimize (.failure m), .optimize (.success code c) =>
    simp [Announcement.template, Template.tags] at htags

/-- The tags and texts of an announcement can be read off its fragment. -/
theorem Announcement.cut_fragment (a : Announcement) : ∃ texts : List (List Char),
    texts.length = a.template.tags.length + 1 ∧ (∀ t ∈ texts, Inert t) ∧
      texts.map Markup.decode = a.texts.map String.toList ∧
      cut a.fragment.markup.toList = weave texts (a.template.tags.map String.toList) ∧
      (weave texts (a.template.tags.map String.toList)).flatMap Stretch.write =
        a.fragment.markup.toList := by
  obtain ⟨style, pieces, hfragment, htags, htexts⟩ := a.exists_pieces
  have hbracketless : ∀ g ∈ tagsOf pieces, Bracketless g := by
    rw [htags]
    simpa using a.template.bracketless_tags
  refine ⟨(textsOf pieces).map escape, ?_, ?_, ?_, ?_, ?_⟩
  · rw [List.length_map, length_textsOf, htags, List.length_map]
  · simp only [List.mem_map]
    rintro _ ⟨t, -, rfl⟩
    exact Inert.escape t
  · rw [List.map_map, ← htexts]
    exact (List.map_congr_left fun t _ => decode_escape t).trans (List.map_id _)
  · rw [hfragment, ← htags]
    exact cut_write hbracketless
  · rw [hfragment, ← htags]
    exact flatMap_write_weave pieces

/-- **A fragment follows its template.** Cut at its angle brackets it falls apart into the tags of
the template and the texts before, between and after them, and nothing is lost. No tag holds a
bracket, and the texts are nothing but text; read as such they say what the announcement says, to
the letter. So no two answers to one operation are shown alike. -/
theorem fragment_follows_template :
    (∀ a : Announcement, ∃ texts : List (List Char),
      let stretches := weave texts (a.template.tags.map String.toList)
      cut a.fragment.markup.toList = stretches ∧
        stretches.flatMap Stretch.write = a.fragment.markup.toList ∧
        (∀ g ∈ a.template.tags, Bracketless g.toList) ∧ (∀ t ∈ texts, Inert t) ∧
        texts.map Markup.decode = a.texts.map String.toList) ∧
      ∀ o o' : Outcome,
        o.operation = o'.operation ∧ Display.outcome o = Display.outcome o' ↔ o = o' := by
  constructor
  · intro a
    obtain ⟨texts, -, hinert, hdecode, hcut, hwrite⟩ := a.cut_fragment
    exact ⟨texts, hcut, hwrite, a.template.bracketless_tags, hinert, hdecode⟩
  · intro o o'
    constructor
    · rintro ⟨hop, hfragment⟩
      obtain ⟨texts, hl, -, hdecode, hcut, -⟩ := (Announcement.answer o).cut_fragment
      obtain ⟨texts', hl', -, hdecode', hcut', -⟩ := (Announcement.answer o').cut_fragment
      have hsame : cut (Announcement.answer o).fragment.markup.toList =
          cut (Announcement.answer o').fragment.markup.toList := by
        simp only [Announcement.fragment, hfragment]
      rw [hcut, hcut'] at hsame
      obtain ⟨rfl, htags⟩ := weave_inj (by simpa using hl) (by simpa using hl') hsame
      have hstrings : Function.Injective (List.map String.toList) :=
        List.map_injective_iff.mpr fun s t => String.toList_inj.mp
      exact outcome_inj hop (hstrings htags) (hstrings (hdecode.symm.trans hdecode'))
    · rintro rfl
      exact ⟨rfl, rfl⟩

/-- A message that looks like a tag is no tag. -/
example : cut (Display.failure "</span>").markup.toList =
    [.text [], .tag "span class=\"error\"".toList, .text "Error: &lt;/span&gt;".toList,
      .tag "/span".toList, .text []] := by decide +kernel

end Workbench.Display
