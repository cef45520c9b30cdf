import Workbench.Proofs.Text.Utf8
import Workbench.Url.Join

/-!
# Paths of the web

What is read as the path of an address is kept in a form that stays the same when it is read again:
the characters that have to be encoded are, dot segments are gone, and no segment has a slash in it.
So the text of a path can be put in its place, with a slash behind it, and nothing but that slash is
new.

* `webPath_of_parse` — every address of the web has a path of this form.
* `pathOfText_text` — a path of this form is read back from its text.
* `WebPath.withTrailingSlash_eq` — an address gets an empty segment at the end of its path, unless
  it has one.
* `WebPath.join_eq` — a relative path takes the place of the last segment.
-/

namespace Workbench.Url

open Workbench.Text.Utf8 (encodeChar encodeChar_ascii encodeChar_ne_nil le_of_mem_encodeChar
  toNat_ofNat)

/-- The schemes of the web. -/
def IsWeb (scheme : String) : Prop := scheme = "http" ∨ scheme = "https"

theorem IsWeb.special {scheme : String} (h : IsWeb scheme) : isSpecial scheme = true := by
  rcases h with rfl | rfl <;> decide

theorem IsWeb.not_file {scheme : String} (h : IsWeb scheme) : scheme ≠ "file" := by
  rcases h with rfl | rfl <;> decide

/-! ### Percent encoding -/

section

variable {inSet : Char → Bool} {s rest : List Char} {c : Char}

theorem percentEncode_pos (h : inSet c = true) : percentEncode inSet (c :: s) =
    (encodeChar c).flatMap encodeByte ++ percentEncode inSet s := by
  rw [percentEncode, List.flatMap_cons, if_pos h]
  rfl

theorem percentEncode_neg (h : inSet c = false) :
    percentEncode inSet (c :: s) = c :: percentEncode inSet s := by
  rw [percentEncode, List.flatMap_cons, if_neg (by rw [h]; decide)]
  rfl

theorem percentEncode_eq_self (h : ∀ c ∈ s, inSet c = false) : percentEncode inSet s = s := by
  induction s with
  | nil => rfl
  | cons c s ih => rw [percentEncode_neg (h c (.head _)), ih fun c hc => h c (.tail _ hc)]

/-- The characters that bytes are written with. -/
def escapeMarks : List Char := "%0123456789ABCDEF".toList

theorem upperHex_mem : ∀ n < 16, upperHex n ∈ escapeMarks := by decide

theorem mem_encodeByte {b : UInt8} (h : c ∈ encodeByte b) : c ∈ escapeMarks := by
  have hb := b.toNat_lt
  simp only [encodeByte, List.mem_cons, List.not_mem_nil, or_false] at h
  rcases h with rfl | rfl | rfl
  · decide
  · exact upperHex_mem _ (by omega)
  · exact upperHex_mem _ (by omega)

/-- What has been encoded consists of characters that stand for themselves and of written bytes. -/
theorem mem_percentEncode (h : c ∈ percentEncode inSet s) :
    c ∈ s ∧ inSet c = false ∨ c ∈ escapeMarks := by
  obtain ⟨d, hd, hc⟩ := List.mem_flatMap.mp h
  split at hc
  next =>
    obtain ⟨b, -, hb⟩ := List.mem_flatMap.mp hc
    exact .inr (mem_encodeByte hb)
  next hd' =>
    rw [List.mem_singleton] at hc
    exact .inl (hc ▸ ⟨hd, Bool.eq_false_iff.mpr hd'⟩)

/-- Encoded text that does not start with a percent sign starts with a character that stands for
itself. -/
theorem percentEncode_eq_cons (h : percentEncode inSet s = c :: rest) (hc : c ≠ '%') :
    ∃ s', s = c :: s' ∧ percentEncode inSet s' = rest := by
  cases s with
  | nil => cases h
  | cons d s =>
    cases hd : inSet d with
    | true =>
      obtain ⟨b, bs, hbs⟩ := List.exists_cons_of_ne_nil (encodeChar_ne_nil d)
      rw [percentEncode_pos hd, hbs, List.flatMap_cons, List.append_assoc] at h
      exact absurd (List.cons.inj h).1.symm hc
    | false =>
      rw [percentEncode_neg hd] at h
      obtain ⟨rfl, hrest⟩ := List.cons.inj h
      exact ⟨s, rfl, hrest⟩

end

/-! ### Dot segments -/

/-- How a full stop is written in a dot segment. -/
inductive Dotted : List Char → List Char → Prop where
  /-- As it is. -/
  | plain (rest : List Char) : Dotted ('.' :: rest) rest
  /-- As its byte. -/
  | escaped {e : Char} (rest : List Char) : e = 'e' ∨ e = 'E' →
      Dotted ('%' :: '2' :: e :: rest) rest

section

variable {s rest : List Char}

theorem Dotted.dotForm (h : Dotted s rest) : dotForm s = '.' :: Url.dotForm rest := by
  cases h with
  | plain => rfl
  | escaped _ he => exact if_pos he

theorem dotted_of_dotForm {dots : List Char} (h : dotForm s = '.' :: dots) :
    ∃ rest, Dotted s rest ∧ dotForm rest = dots := by
  unfold dotForm at h
  split at h
  next e rest =>
    split at h
    next he => exact ⟨rest, .escaped rest he, (List.cons.inj h).2⟩
    next => cases h
  next rest => exact ⟨rest, .plain rest, (List.cons.inj h).2⟩
  next hplain => exact absurd h (hplain dots)

theorem eq_nil_of_dotForm (h : dotForm s = []) : s = [] := by
  unfold dotForm at h
  split at h
  next =>
    split at h
    next => cases h
    next => cases h
  next => cases h
  next => exact h

/-- No character but the full stop is encoded as its byte. -/
theorem encodeByte_ne_dot {b : UInt8} {c e : Char} (hb : b ∈ encodeChar c) (hc : inPathSet c = true)
    (he : e = 'e' ∨ e = 'E') : encodeByte b ≠ ['%', '2', e] := by
  intro h
  have hdigits : ∀ n < 256, upperHex (n / 16) = '2' →
      upperHex (n % 16) = 'e' ∨ upperHex (n % 16) = 'E' → n = 0x2E := by
    decide +kernel
  simp only [encodeByte, List.cons.injEq, true_and, and_true] at h
  have hbyte : b.toNat = 0x2E := hdigits _ b.toNat_lt h.1 (h.2 ▸ he)
  have hascii : c.toNat < 0x80 := Nat.lt_of_not_le fun hbeyond => by
    have hle := le_of_mem_encodeChar hbeyond hb
    omega
  rw [encodeChar_ascii hascii, List.mem_singleton] at hb
  have hdot : c = '.' := by
    rw [hb, toNat_ofNat (by omega)] at hbyte
    exact Char.toNat_inj.mp hbyte
  rw [hdot] at hc
  exact absurd hc (by decide)

/-- A full stop at the start of an encoded text was there before. -/
theorem Dotted.of_percentEncode (h : Dotted (percentEncode inPathSet s) rest) :
    ∃ rest', Dotted s rest' ∧ percentEncode inPathSet rest' = rest := by
  generalize ht : percentEncode inPathSet s = t at h
  cases h with
  | plain =>
    obtain ⟨s', rfl, hrest⟩ := percentEncode_eq_cons ht (by decide)
    exact ⟨s', .plain s', hrest⟩
  | @escaped e _ he =>
    cases s with
    | nil => cases ht
    | cons c s =>
      cases hc : inPathSet c with
      | true =>
        obtain ⟨b, bs, hbs⟩ := List.exists_cons_of_ne_nil (encodeChar_ne_nil c)
        rw [percentEncode_pos hc, hbs, List.flatMap_cons, List.append_assoc] at ht
        have hb : encodeByte b = ['%', '2', e] := by
          simp only [encodeByte, List.cons_append, List.cons.injEq, true_and] at ht ⊢
          exact ⟨ht.1, ht.2.1, trivial⟩
        exact absurd hb (encodeByte_ne_dot (hbs ▸ .head _) hc he)
      | false =>
        rw [percentEncode_neg hc] at ht
        obtain ⟨rfl, htwo⟩ := List.cons.inj ht
        obtain ⟨s, rfl, hletter⟩ := percentEncode_eq_cons htwo (by decide)
        obtain ⟨s, rfl, hrest⟩ :=
          percentEncode_eq_cons hletter (by rcases he with rfl | rfl <;> decide)
        exact ⟨s, .escaped s he, hrest⟩

/-- Encoding makes no dot segments. -/
theorem dotForm_of_percentEncode {n : Nat}
    (h : dotForm (percentEncode inPathSet s) = List.replicate n '.') :
    dotForm s = List.replicate n '.' := by
  induction n generalizing s with
  | zero =>
    have hnil := eq_nil_of_dotForm h
    cases s with
    | nil => rfl
    | cons c s =>
      cases hc : inPathSet c with
      | true =>
        rw [percentEncode_pos hc, List.append_eq_nil_iff] at hnil
        obtain ⟨b, bs, hbs⟩ := List.exists_cons_of_ne_nil (encodeChar_ne_nil c)
        rw [hbs] at hnil
        cases hnil.1
      | false =>
        rw [percentEncode_neg hc] at hnil
        cases hnil
  | succ n ih =>
    obtain ⟨rest, hdot, hrest⟩ := dotted_of_dotForm h
    obtain ⟨rest', hdot', rfl⟩ := hdot.of_percentEncode
    rw [hdot'.dotForm, ih hrest]
    rfl

theorem isSingleDot_of_percentEncode (h : isSingleDot s = false) :
    isSingleDot (percentEncode inPathSet s) = false := by
  refine beq_eq_false_iff_ne.mpr fun hdot => ?_
  exact beq_eq_false_iff_ne.mp h (@dotForm_of_percentEncode s 1 hdot)

theorem isDoubleDot_of_percentEncode (h : isDoubleDot s = false) :
    isDoubleDot (percentEncode inPathSet s) = false := by
  refine beq_eq_false_iff_ne.mpr fun hdot => ?_
  exact beq_eq_false_iff_ne.mp h (@dotForm_of_percentEncode s 2 hdot)

end

/-! ### Slashes -/

section

variable {special : Bool} {s piece rest : List Char}

theorem splitSlashes_ne_nil (special : Bool) (s : List Char) : splitSlashes special s ≠ [] := by
  cases s with
  | nil => exact List.cons_ne_nil _ _
  | cons c s =>
    unfold splitSlashes
    split
    next => exact List.cons_ne_nil _ _
    next => split <;> exact List.cons_ne_nil _ _

theorem splitSlashes_slash (s : List Char) :
    splitSlashes special ('/' :: s) = [] :: splitSlashes special s := by
  obtain ⟨piece, pieces, hs⟩ := List.exists_cons_of_ne_nil (splitSlashes_ne_nil special s)
  rw [splitSlashes, hs]
  exact if_pos rfl

/-- A text without a slash goes on as the first piece. -/
theorem splitSlashes_append {pieces : List (List Char)}
    (hpiece : ∀ c ∈ piece, isSlash special c = false) (hs : splitSlashes special s = rest :: pieces) :
    splitSlashes special (piece ++ s) = (piece ++ rest) :: pieces := by
  induction piece with
  | nil => exact hs
  | cons c piece ih =>
    have hmore := ih fun c hc => hpiece c (.tail _ hc)
    rw [List.cons_append, splitSlashes, hmore]
    exact if_neg (by rw [hpiece c (.head _)]; decide)

/-- No piece has a slash in it. -/
theorem not_slash_of_mem_splitSlashes {c : Char} (h : piece ∈ splitSlashes special s)
    (hc : c ∈ piece) : isSlash special c = false := by
  induction s generalizing piece c with
  | nil =>
    rw [List.mem_singleton.mp h] at hc
    cases hc
  | cons d s ih =>
    obtain ⟨first, pieces, hs⟩ := List.exists_cons_of_ne_nil (splitSlashes_ne_nil special s)
    have hmem : ∀ p ∈ first :: pieces, ∀ c ∈ p, isSlash special c = false :=
      fun p hp c hc => ih (hs ▸ hp) hc
    rw [splitSlashes, hs] at h
    dsimp only at h
    split at h
    next =>
      rcases List.mem_cons.mp h with rfl | h
      · cases hc
      · exact hmem piece h c hc
    next hd =>
      rcases List.mem_cons.mp h with rfl | h
      · rcases List.mem_cons.mp hc with rfl | hc
        · exact Bool.eq_false_iff.mpr hd
        · exact hmem first (.head _) c hc
      · exact hmem piece (.tail _ h) c hc

end

/-! ### Segments -/

/-- A segment of an address of the web in the form in which it is kept. -/
structure IsKept (part : String) : Prop where
  /-- All that has to be encoded is. -/
  encoded : ∀ c ∈ part.toList, inPathSet c = false
  /-- There are no slashes in it. -/
  whole : ∀ c ∈ part.toList, isSlash true c = false
  /-- It does not mean the current place. -/
  notSingle : isSingleDot part.toList = false
  /-- It does not mean the place above. -/
  notDouble : isDoubleDot part.toList = false

section

variable {scheme : String} {parts path : List String} {part : String} {pieces : List (List Char)}

/-- Whether a character may stand in a segment as it is. -/
def isKeptChar (c : Char) : Bool := !inPathSet c && !isSlash true c

theorem kept_of_all {s : List Char} (h : s.all isKeptChar = true) :
    ∀ c ∈ s, inPathSet c = false ∧ isSlash true c = false := by
  intro c hc
  have hkept := List.all_eq_true.mp h c hc
  rwa [isKeptChar, Bool.and_eq_true, Bool.not_eq_true', Bool.not_eq_true'] at hkept

/-- Whether a segment is in this form, found out by looking at its characters. -/
def looksKept (part : String) : Bool :=
  part.toList.all isKeptChar && !isSingleDot part.toList && !isDoubleDot part.toList

theorem isKept_iff : IsKept part ↔ looksKept part = true := by
  simp only [looksKept, Bool.and_eq_true, Bool.not_eq_true']
  constructor
  · rintro ⟨hencoded, hwhole, hsingle, hdouble⟩
    refine ⟨⟨List.all_eq_true.mpr fun c hc => ?_, hsingle⟩, hdouble⟩
    rw [isKeptChar, hencoded c hc, hwhole c hc]
    rfl
  · rintro ⟨⟨hall, hsingle⟩, hdouble⟩
    exact ⟨fun c hc => (kept_of_all hall c hc).1, fun c hc => (kept_of_all hall c hc).2, hsingle,
      hdouble⟩

instance (part : String) : Decidable (IsKept part) := decidable_of_iff _ isKept_iff.symm

theorem isKept_empty : IsKept "" := by decide

/-- What is kept of a segment is in the form in which it is kept. -/
theorem isKept_keptSegment (hfile : scheme ≠ "file") {segment : List Char}
    (hslash : ∀ c ∈ segment, isSlash true c = false) (hsingle : isSingleDot segment = false)
    (hdouble : isDoubleDot segment = false) : IsKept (keptSegment scheme path segment) := by
  have hmarks := kept_of_all (s := escapeMarks) (by decide)
  rw [keptSegment, if_neg fun h => hfile h.1]
  refine ⟨fun c hc => ?_, fun c hc => ?_, ?_, ?_⟩
  · rw [String.toList_ofList] at hc
    exact (mem_percentEncode hc).elim And.right fun h => (hmarks c h).1
  · rw [String.toList_ofList] at hc
    exact (mem_percentEncode hc).elim (fun h => hslash c h.1) fun h => (hmarks c h).2
  · rw [String.toList_ofList]
    exact isSingleDot_of_percentEncode hsingle
  · rw [String.toList_ofList]
    exact isDoubleDot_of_percentEncode hdouble

/-- A segment that is in the form in which it is kept is kept as it is. -/
theorem keptSegment_eq (hfile : scheme ≠ "file") (h : IsKept part) :
    keptSegment scheme path part.toList = part := by
  rw [keptSegment, if_neg fun h => hfile h.1, percentEncode_eq_self h.encoded, String.ofList_toList]

theorem dropLastSegment_eq (hfile : scheme ≠ "file") :
    dropLastSegment scheme path = path.dropLast := by
  unfold dropLastSegment
  split
  next => exact if_neg fun h => hfile h.1
  next => rfl

/-- What one segment adds is in the form in which it is kept, and is something if no more
follow. -/
theorem addSegments_kept (hfile : scheme ≠ "file") (hpath : ∀ p ∈ path, IsKept p)
    (hpieces : ∀ piece ∈ pieces, ∀ c ∈ piece, isSlash true c = false) :
    (∀ p ∈ addSegments scheme path pieces, IsKept p) ∧
      (pieces ≠ [] → addSegments scheme path pieces ≠ []) := by
  induction pieces generalizing path with
  | nil => exact ⟨hpath, fun h => absurd rfl h⟩
  | cons segment pieces ih =>
    have hlast {path : List String} (hpath : ∀ p ∈ path, IsKept p) :
        ∀ p ∈ path ++ (if pieces.isEmpty then [""] else []), IsKept p := by
      intro p hp
      rcases List.mem_append.mp hp with hp | hp
      · exact hpath p hp
      · split at hp
        · rw [List.mem_singleton.mp hp]
          exact isKept_empty
        · cases hp
    have hstep {path : List String} (hpath : ∀ p ∈ path, IsKept p)
        (hsome : pieces = [] → path ≠ []) :
        (∀ p ∈ addSegments scheme path pieces, IsKept p) ∧
          (segment :: pieces ≠ [] → addSegments scheme path pieces ≠ []) := by
      obtain ⟨hkept, hne⟩ := ih hpath fun piece hpiece => hpieces piece (.tail _ hpiece)
      refine ⟨hkept, fun _ => ?_⟩
      cases pieces with
      | nil => exact hsome rfl
      | cons next pieces => exact hne (List.cons_ne_nil _ _)
    have hsome (path : List String) (hnil : pieces = []) :
        path ++ (if pieces.isEmpty then [""] else []) ≠ [] := by
      rw [hnil]
      exact List.append_ne_nil_of_right_ne_nil _ (List.cons_ne_nil _ _)
    rw [addSegments]
    split
    next =>
      rw [dropLastSegment_eq hfile]
      exact hstep (hlast fun p hp => hpath p (List.dropLast_subset _ hp)) (hsome _)
    next hdouble =>
      split
      next => exact hstep (hlast hpath) (hsome _)
      next hsingle =>
        refine hstep (fun p hp => ?_) fun _ =>
          List.append_ne_nil_of_right_ne_nil _ (List.cons_ne_nil _ _)
        rcases List.mem_append.mp hp with hp | hp
        · exact hpath p hp
        · rw [List.mem_singleton.mp hp]
          exact isKept_keptSegment hfile (hpieces segment (.head _)) (Bool.eq_false_iff.mpr hsingle)
            (Bool.eq_false_iff.mpr hdouble)

/-- Segments that are in the form in which they are kept are added as they are. -/
theorem addSegments_eq (hfile : scheme ≠ "file") (hparts : ∀ p ∈ parts, IsKept p) :
    addSegments scheme path (parts.map String.toList) = path ++ parts := by
  induction parts generalizing path with
  | nil => exact (List.append_nil path).symm
  | cons part parts ih =>
    have hpart := hparts part (.head _)
    rw [List.map_cons, addSegments, if_neg (by rw [hpart.notDouble]; decide),
      if_neg (by rw [hpart.notSingle]; decide), keptSegment_eq hfile hpart,
      ih fun p hp => hparts p (.tail _ hp), List.append_assoc, List.singleton_append]

/-! ### Texts of paths -/

/-- The characters of the text of a path. -/
theorem toList_text (parts : List String) :
    (Path.segments parts).text.toList = parts.flatMap fun p => '/' :: p.toList := by
  rw [Path.text, String.toList_join, List.flatMap_map]
  simp only [String.toList_append]
  rfl

theorem text_append (parts parts' : List String) :
    (Path.segments (parts ++ parts')).text =
      (Path.segments parts).text ++ (Path.segments parts').text := by
  rw [← String.toList_inj, String.toList_append, toList_text, toList_text, toList_text,
    List.flatMap_append]

/-- Segments with slashes between them are found again. -/
theorem splitSlashes_parts (hparts : ∀ p ∈ part :: parts, IsKept p) :
    splitSlashes true (part.toList ++ parts.flatMap fun p => '/' :: p.toList) =
      (part :: parts).map String.toList := by
  induction parts generalizing part with
  | nil =>
    have hnil : splitSlashes true [] = [] :: [] := rfl
    rw [List.flatMap_nil, splitSlashes_append (hparts part (.head _)).whole hnil, List.append_nil]
    rfl
  | cons next parts ih =>
    rw [List.flatMap_cons, List.cons_append,
      splitSlashes_append (hparts part (.head _)).whole (splitSlashes_slash _), List.append_nil,
      ih fun p hp => hparts p (.tail _ hp)]
    rfl

/-- A path is read back from its text. -/
theorem pathOfText_text (hweb : IsWeb scheme) (hne : parts ≠ []) (hparts : ∀ p ∈ parts, IsKept p) :
    pathOfText scheme (Path.segments parts).text.toList = parts := by
  cases parts with
  | nil => exact absurd rfl hne
  | cons part parts =>
    have hslash : isSlash true '/' = true := rfl
    rw [toList_text, List.flatMap_cons, List.cons_append, pathOfText]
    simp only [hweb.special, hslash, if_true, List.isEmpty_cons, Bool.false_eq_true, false_and,
      if_false, hweb.not_file, splitSlashes_parts hparts, addSegments_eq hweb.not_file hparts,
      List.nil_append]

theorem withoutBreaks_eq_self {s : List Char} (h : ∀ c ∈ s, inPathSet c = false) :
    withoutBreaks s = s := by
  refine List.filter_eq_self.mpr fun c hc => decide_eq_true ⟨?_, ?_, ?_⟩ <;>
    · rintro rfl
      exact absurd (h _ hc) (by decide)

/-- Nothing in the text of a path has to be encoded. -/
theorem encoded_text (hparts : ∀ p ∈ parts, IsKept p) :
    ∀ c ∈ (Path.segments parts).text.toList, inPathSet c = false := by
  intro c hc
  rw [toList_text] at hc
  obtain ⟨p, hp, hc⟩ := List.mem_flatMap.mp hc
  rcases List.mem_cons.mp hc with rfl | hc
  · decide
  · exact (hparts p hp).encoded c hc

/-- The text of a path ends in a slash exactly if the last segment is empty. -/
theorem endsInSlash_text (path : List String) {last : String} (hlast : IsKept last) :
    endsInSlash (Path.segments (path ++ [last])).text = true ↔ last = "" := by
  have htext : (Path.segments (path ++ [last])).text.toList.getLast? =
      ('/' :: last.toList).getLast? := by
    rw [text_append, String.toList_append, toList_text [last], List.flatMap_singleton,
      List.getLast?_append, List.getLast?_cons]
    rfl
  rw [endsInSlash, htext, beq_iff_eq, ← String.toList_eq_nil_iff]
  cases hchars : last.toList with
  | nil => exact iff_of_true rfl rfl
  | cons c cs =>
    refine iff_of_false (fun hslash => ?_) (List.cons_ne_nil _ _)
    rw [List.getLast?_cons_cons] at hslash
    have hmem : '/' ∈ last.toList := hchars ▸ List.mem_of_getLast? hslash
    exact absurd (hlast.whole '/' hmem) (by decide)

end

/-! ### Addresses of the web -/

/-- An address of the web with its path: there is at least one segment, and all are in the form in
which they are kept. -/
structure WebPath (u : Url) (parts : List String) : Prop where
  /-- The scheme is one of the web. -/
  web : IsWeb u.scheme
  /-- These are the segments. -/
  path : u.path = .segments parts
  /-- There is one. -/
  ne_nil : parts ≠ []
  /-- They are in the form in which they are kept. -/
  kept : ∀ p ∈ parts, IsKept p

section

variable {u : Url} {scheme : String} {text : List Char} {parts : List String}

theorem scheme_readFile (h : readFile text = .ok u) : u.scheme = "file" := by
  unfold readFile at h
  dsimp only at h
  -- every way to an address finishes one of this scheme
  repeat' split at h
  all_goals cases h
  all_goals rfl

/-- What is read with a host has the path that follows the host. -/
theorem readWithAuthority_ok (h : readWithAuthority scheme text = .ok u) :
    ∃ authority behind, u = finish scheme (some authority) behind := by
  unfold readWithAuthority at h
  dsimp only at h
  cases hauthority :
      readAuthority scheme (text.takeWhile fun c => !endsAuthority (isSpecial scheme) c) with
  | error e =>
    rw [hauthority] at h
    cases h
  | ok authority =>
    rw [hauthority] at h
    cases h
    exact ⟨authority, _, rfl⟩

theorem scheme_readPlain (h : readPlain scheme text = .ok u) : u.scheme = scheme := by
  unfold readPlain at h
  split at h
  next =>
    obtain ⟨authority, behind, rfl⟩ := readWithAuthority_ok h
    rfl
  next =>
    cases h
    rfl
  next =>
    cases h
    rfl

/-- A path of the web is read in the form in which it is kept. -/
theorem pathOfText_kept (hweb : IsWeb scheme) (text : List Char) :
    (∀ p ∈ pathOfText scheme text, IsKept p) ∧ pathOfText scheme text ≠ [] := by
  have hpath : ∃ behind, pathOfText scheme text =
      addSegments scheme [] (splitSlashes true behind) := by
    cases text with
    | nil => exact ⟨[], by simp [pathOfText, hweb.special, hweb.not_file]⟩
    | cons c rest =>
      exact ⟨if isSlash true c then rest else c :: rest,
        by simp [pathOfText, hweb.special, hweb.not_file]⟩
  obtain ⟨behind, hpath⟩ := hpath
  obtain ⟨hkept, hne⟩ := addSegments_kept hweb.not_file
    (fun p (hp : p ∈ ([] : List String)) => absurd hp List.not_mem_nil)
    fun piece hp c hc => not_slash_of_mem_splitSlashes (s := behind) hp hc
  rw [hpath]
  exact ⟨hkept, hne (splitSlashes_ne_nil true behind)⟩

/-- Every address of the web has a path in the form in which it is kept. -/
theorem webPath_of_parse {s : String} (h : parse s = .ok u) (hweb : IsWeb u.scheme) :
    ∃ parts, WebPath u parts := by
  unfold parse at h
  split at h
  next => cases h
  next scheme rest _ =>
    split at h
    next => exact absurd (scheme_readFile h) hweb.not_file
    next =>
      split at h
      next =>
        obtain ⟨authority, behind, rfl⟩ := readWithAuthority_ok h
        obtain ⟨hkept, hne⟩ := pathOfText_kept hweb (behind.takeWhile inPath)
        exact ⟨_, hweb, rfl, hne, hkept⟩
      next hplain =>
        rw [scheme_readPlain h] at hweb
        exact absurd hweb.special hplain

/-- The segments of a path but for an empty one at its end. -/
def stem (parts : List String) : List String :=
  if parts.getLast? = some "" then parts.dropLast else parts

theorem stem_concat (parts : List String) : stem (parts ++ [""]) = parts := by
  rw [stem, List.getLast?_concat, if_pos rfl, List.dropLast_concat]

theorem stem_subset (parts : List String) : stem parts ⊆ parts := by
  unfold stem
  split
  next => exact List.dropLast_subset parts
  next => exact List.Subset.refl parts

/-- A text with a slash at its end. -/
def slashed (text : String) : String := if endsInSlash text then text else text ++ "/"

theorem text_empty : (Path.segments [""]).text = "/" := by decide

/-- Either there is an empty segment at the end, and the text ends in a slash, or there is
neither. -/
theorem WebPath.stem_cases (h : WebPath u parts) :
    endsInSlash u.path.text = true ∧ parts = stem parts ++ [""] ∨
      endsInSlash u.path.text = false ∧ stem parts = parts := by
  obtain ⟨front, last, rfl⟩ : ∃ front last, parts = front ++ [last] :=
    ⟨_, _, (List.dropLast_concat_getLast h.ne_nil).symm⟩
  have hends := endsInSlash_text front (h.kept last (List.mem_append_right _ (.head _)))
  rw [h.path]
  by_cases hlast : last = ""
  · refine .inl ⟨hends.mpr hlast, ?_⟩
    rw [hlast, stem_concat]
  · refine .inr ⟨Bool.eq_false_iff.mpr fun htrue => hlast (hends.mp htrue), ?_⟩
    rw [stem, List.getLast?_concat, if_neg fun hsome => hlast (Option.some.inj hsome)]

/-- The path with an empty segment at its end has the text with a slash at its end. -/
theorem WebPath.text_stem (h : WebPath u parts) :
    (Path.segments (stem parts ++ [""])).text = slashed u.path.text := by
  rcases h.stem_cases with ⟨hends, hparts⟩ | ⟨hends, hparts⟩
  · rw [slashed, hends, if_pos rfl, ← hparts, h.path]
  · rw [slashed, hends, if_neg Bool.false_ne_true, hparts, text_append, text_empty, h.path]

/-- The path with an empty segment at its end is in the form in which it is kept. -/
theorem WebPath.kept_stem (h : WebPath u parts) : ∀ p ∈ stem parts ++ [""], IsKept p := by
  intro p hp
  rcases List.mem_append.mp hp with hp | hp
  · exact h.kept p (stem_subset parts hp)
  · rw [List.mem_singleton.mp hp]
    exact isKept_empty

theorem concat_ne_nil (parts : List String) (p : String) : parts ++ [p] ≠ [] :=
  List.append_ne_nil_of_right_ne_nil parts (List.cons_ne_nil p [])

/-- What is set as the path of an address is read as a path of the web. -/
theorem WebPath.setPath_eq (h : WebPath u parts) {parts' : List String} (hne : parts' ≠ [])
    (hkept : ∀ p ∈ parts', IsKept p) :
    u.setPath (Path.segments parts').text = { u with path := .segments parts' } := by
  rw [setPath, h.path, Path.replace, withoutBreaks_eq_self (encoded_text hkept),
    pathOfText_text h.web hne hkept]

/-- **An address gets an empty segment at the end of its path, unless it has one.** -/
theorem WebPath.withTrailingSlash_eq (h : WebPath u parts) :
    u.withTrailingSlash = { u with path := .segments (stem parts ++ [""]) } := by
  have htext := h.text_stem
  rcases h.stem_cases with ⟨hends, hparts⟩ | ⟨hends, -⟩
  · rw [withTrailingSlash, hends, if_pos rfl, ← hparts, ← h.path]
  · rw [slashed, hends, if_neg Bool.false_ne_true] at htext
    rw [withTrailingSlash, hends, if_neg Bool.false_ne_true, ← htext]
    exact h.setPath_eq (concat_ne_nil _ _) h.kept_stem

/-- An address with a slash at the end of its path is one of the web, too. -/
theorem WebPath.withTrailingSlash (h : WebPath u parts) :
    WebPath u.withTrailingSlash (stem parts ++ [""]) := by
  rw [h.withTrailingSlash_eq]
  exact ⟨h.web, rfl, concat_ne_nil _ _, h.kept_stem⟩

/-- **A relative path takes the place of the last segment**; query and fragment are dropped. -/
theorem WebPath.join_eq (h : WebPath u parts) {more : List String} {relative : String}
    (hne : more ≠ []) (hmore : ∀ p ∈ more, IsKept p)
    (hrelative : (Path.segments more).text = "/" ++ relative) :
    u.join relative = .ok { u with
      path := .segments (parts.dropLast ++ more)
      query := none
      fragment := none } := by
  obtain ⟨part, more, rfl⟩ := List.exists_cons_of_ne_nil hne
  rw [← String.toList_inj, toList_text, List.flatMap_cons, List.cons_append, String.toList_append]
    at hrelative
  have hchars : part.toList ++ more.flatMap (fun p => '/' :: p.toList) = relative.toList :=
    (List.cons.inj hrelative).2
  rw [join, h.path]
  simp only [h.web.special, ← hchars, splitSlashes_parts hmore, dropLastSegment_eq h.web.not_file,
    addSegments_eq h.web.not_file hmore]

/-- Paths of the web that have the same text but for a slash at the end have the same segments but
for an empty one at the end. -/
theorem WebPath.stem_eq_of_text {u' : Url} {parts' : List String} (h : WebPath u parts)
    (h' : WebPath u' parts') (htext : slashed u.path.text = slashed u'.path.text) :
    stem parts = stem parts' := by
  rw [← h.text_stem, ← h'.text_stem] at htext
  have hparts := pathOfText_text h.web (concat_ne_nil _ _) h.kept_stem
  rw [htext, pathOfText_text h.web (concat_ne_nil _ _) h'.kept_stem] at hparts
  exact (List.append_cancel_right hparts).symm

end

end Workbench.Url
