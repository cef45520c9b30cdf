import Workbench.Json.Reader
import Workbench.Json.Writer
import Workbench.Proofs.Text.Utf8

/-!
# Reading what was written

A text is written between quotes with some characters escaped, and its bytes are read back one by
one. What a text was written as is read as this text, whatever its characters are, and an object
of texts that was laid out is read as the same members.

* `readString_write` — the inside of a written string is read as its text.
* `readTextMap_prettyObject` — an object of texts that was laid out is read as its members.
-/

namespace Workbench.Json

open Workbench.Text (Bytes)
open Workbench.Text.Utf8 (encode encodeChar encode_append encode_cons encode_nil encode_singleton
  encodeChar_ascii le_of_mem_encodeChar toNat_ofNat)

/-! ### Bytes of a string -/

/-- A text starts with the inside of a string that stands for some data, and after the closing
quote the rest follows. -/
def Reads (text data rest : Bytes) : Prop :=
  ∀ fuel, text.length ≤ fuel → readStringBytes fuel text = .ok (data, rest)

variable {text data rest : Bytes}

theorem Reads.of_cons {b : UInt8}
    (h : ∀ fuel, text.length ≤ fuel → readStringBytes (fuel + 1) (b :: text) = .ok (data, rest)) :
    Reads (b :: text) data rest := by
  intro fuel hf
  cases fuel with
  | zero => exact absurd hf (Nat.not_succ_le_zero _)
  | succ fuel => exact h fuel (Nat.le_of_succ_le_succ hf)

theorem Reads.quote (rest : Bytes) : Reads (byte '"' :: rest) [] rest :=
  .of_cons fun _ _ => if_pos rfl

theorem Reads.plain {b : UInt8} (hq : b ≠ byte '"') (hs : b ≠ byte '\\') (hc : ¬b < 32)
    (h : Reads text data rest) : Reads (b :: text) (b :: data) rest := by
  refine .of_cons fun fuel hf => ?_
  simp only [readStringBytes, hq, hs, hc, if_false, h fuel hf]
  rfl

theorem Reads.escape {escape escaped : Bytes} (he : readEscape (escape ++ text) = .ok (escaped, text))
    (h : Reads text data rest) : Reads (byte '\\' :: (escape ++ text)) (escaped ++ data) rest := by
  refine .of_cons fun fuel hf => ?_
  have hmore := h fuel (by rw [List.length_append] at hf; omega)
  have hne : byte '\\' ≠ byte '"' := by decide
  simp only [readStringBytes, hne, if_true, if_false, he]
  simp only [bind, Except.bind, hmore]
  rfl

theorem Reads.append {bs : Bytes} (hbs : ∀ b ∈ bs, b ≠ byte '"' ∧ b ≠ byte '\\' ∧ ¬b < 32)
    (h : Reads text data rest) : Reads (bs ++ text) (bs ++ data) rest := by
  induction bs with
  | nil => exact h
  | cons b bs ih =>
    obtain ⟨hq, hs, hc⟩ := hbs b (.head _)
    exact .plain hq hs hc (ih fun b hb => hbs b (.tail _ hb))

/-! ### Escapes -/

theorem hexChar_ascii : ∀ k < 16, (hexChar k).toNat < 0x80 := by decide

/-- Two digits after two zeros write every number below 32. -/
theorem hexNumber_hexChar : ∀ n < 32,
    hexNumber (byte '0') (byte '0') (byte (hexChar (n / 16))) (byte (hexChar (n % 16))) = some n := by
  decide

theorem encode_ascii_cons {c : Char} (h : c.toNat < 0x80) (s : List Char) :
    encode (c :: s) = byte c :: encode s := by
  rw [encode_cons, encodeChar_ascii h, List.singleton_append]

/-- An escape of one letter. -/
theorem Reads.letter {c e : Char} (he : e.toNat < 0x80) (hc : c.toNat < 0x80)
    (hu : byte e ≠ byte 'u') (hs : simpleEscape (byte e) = some (byte c))
    (h : Reads text data rest) : Reads (encode ['\\', e] ++ text) (encodeChar c ++ data) rest := by
  have hescape : readEscape ([byte e] ++ text) = .ok ([byte c], text) := by
    simp only [List.singleton_append, readEscape, hu, if_false, hs]
  rw [encode_ascii_cons (by decide), encode_ascii_cons he, encodeChar_ascii hc]
  exact .escape hescape h

/-- An escape by a number. -/
theorem Reads.control {c : Char} (hc : c.toNat < 0x20) (h : Reads text data rest) :
    Reads (encode ['\\', 'u', '0', '0', hexChar (c.toNat / 16), hexChar (c.toNat % 16)] ++ text)
      (encodeChar c ++ data) rest := by
  have hlow : isLowSurrogate c.toNat = false := by
    simp only [isLowSurrogate, Bool.and_eq_false_imp, decide_eq_true_eq]
    omega
  have hhigh : isHighSurrogate c.toNat = false := by
    simp only [isHighSurrogate, Bool.and_eq_false_imp, decide_eq_true_eq]
    omega
  have hescape : readEscape ([byte 'u', byte '0', byte '0', byte (hexChar (c.toNat / 16)),
      byte (hexChar (c.toNat % 16))] ++ text) = .ok (encodeChar c, text) := by
    simp only [List.cons_append, List.nil_append, readEscape, if_true,
      hexNumber_hexChar _ (show c.toNat < 32 from hc), hlow, hhigh, Bool.false_eq_true, if_false,
      codePoint, Char.ofNat_toNat]
  rw [encode_ascii_cons (by decide), encode_ascii_cons (by decide), encode_ascii_cons (by decide),
    encode_ascii_cons (by decide), encode_ascii_cons (hexChar_ascii _ (by omega)),
    encode_ascii_cons (hexChar_ascii _ (by omega))]
  exact .escape hescape h

/-- A character that stands for itself. -/
theorem Reads.itself {c : Char} (hq : c ≠ '"') (hs : c ≠ '\\') (hc : ¬c.toNat < 0x20)
    (h : Reads text data rest) : Reads (encode [c] ++ text) (encodeChar c ++ data) rest := by
  rw [encode_singleton]
  refine .append (fun b hb => ?_) h
  have hbyte (hb : 0x80 ≤ b.toNat ∨ b.toNat = c.toNat) :
      b ≠ byte '"' ∧ b ≠ byte '\\' ∧ ¬b < 32 := by
    have hchar (a : Char) (ha : a.toNat < 0x80) (hca : c ≠ a) : b ≠ byte a := by
      rintro rfl
      rw [byte, toNat_ofNat (by omega)] at hb
      exact hca (Char.toNat_inj.mp (by omega))
    refine ⟨hchar '"' (by decide) hq, hchar '\\' (by decide) hs, fun hlt => ?_⟩
    have hlt : b.toNat < 32 := hlt
    omega
  by_cases hascii : c.toNat < 0x80
  · rw [encodeChar_ascii hascii, List.mem_singleton] at hb
    exact hbyte (.inr (by rw [hb, toNat_ofNat (by omega)]))
  · exact hbyte (.inl (le_of_mem_encodeChar (by omega) hb))

/-- Whatever a character is, it is read as it was written. -/
theorem Reads.escapeChar (c : Char) (h : Reads text data rest) :
    Reads (encode (escapeChar c) ++ text) (encodeChar c ++ data) rest := by
  -- A character that has a letter of its own is read back through that letter.
  have hletter (a e : Char) (hca : c = a) (he : e.toNat < 0x80 ∧ a.toNat < 0x80)
      (hu : byte e ≠ byte 'u') (hs : simpleEscape (byte e) = some (byte a)) :
      Reads (encode ['\\', e] ++ text) (encodeChar c ++ data) rest := by
    subst hca
    exact .letter he.1 he.2 hu hs h
  unfold Json.escapeChar
  split
  next hq => exact hletter '"' '"' hq (by decide) (by decide) (by decide)
  next hq =>
    split
    next hs => exact hletter '\\' '\\' hs (by decide) (by decide) (by decide)
    next hs =>
      split
      next hc => exact hletter '\x08' 'b' hc (by decide) (by decide) (by decide)
      split
      next hc => exact hletter '\x0c' 'f' hc (by decide) (by decide) (by decide)
      split
      next hc => exact hletter '\n' 'n' hc (by decide) (by decide) (by decide)
      split
      next hc => exact hletter '\r' 'r' hc (by decide) (by decide) (by decide)
      split
      next hc => exact hletter '\t' 't' hc (by decide) (by decide) (by decide)
      split
      next hc => exact .control hc h
      next hc => exact .itself hq hs hc h

/-- The inside of a written string is read as its bytes. -/
theorem Reads.write (s : List Char) (rest : Bytes) :
    Reads (encode (s.flatMap Json.escapeChar) ++ byte '"' :: rest) (encode s) rest := by
  induction s with
  | nil => exact .quote rest
  | cons c s ih =>
    rw [List.flatMap_cons, encode_append, List.append_assoc, encode_cons]
    exact .escapeChar c ih

/-- The inside of a written string is read as its text. -/
theorem readString_write (s : String) (rest : Bytes) :
    readString (encode (s.toList.flatMap escapeChar) ++ byte '"' :: rest) = .ok (s, rest) := by
  have hdata : Text.ofBytes? (encode s.toList) = some s := Text.ofBytes?_toBytes s
  rw [readString, Reads.write s.toList rest _ (Nat.le_refl _)]
  simp only [bind, Except.bind, hdata]
  rfl

/-! ### Objects -/

/-- How a member of an object of texts is read, from the end of its name. -/
def textMember (members : List (String × String)) (name : String) (rest : Bytes) :
    Except Fault (List (String × String) × Bytes) :=
  match readColon rest with
  | .error e => .error e
  | .ok rest =>
    match readText rest with
    | .ok (s, rest) => .ok (members ++ [(name, s)], rest)
    | .error e => .error e

theorem readTextMap_open (room : Nat) (rest : Bytes) :
    readTextMap (room + 1) (byte '\x7b' :: rest) =
      readMembers textMember (rest.length + 1) true [] rest := rfl

/-- The bytes of a member that was laid out, behind its first quote. -/
def memberBytes (m : String × String) (rest : Bytes) : Bytes :=
  encode (m.1.toList.flatMap escapeChar) ++ byte '"' :: byte ':' :: byte ' ' :: byte '"' ::
    (encode (m.2.toList.flatMap escapeChar) ++ byte '"' :: rest)

theorem memberBytes_append (m : String × String) (rest after : Bytes) :
    memberBytes m rest ++ after = memberBytes m (rest ++ after) := by
  simp only [memberBytes, List.append_assoc, List.cons_append]

theorem encode_prettyMember (m : String × String) (rest : Bytes) :
    encode (prettyMember m) ++ rest =
      byte ' ' :: byte ' ' :: byte '"' :: memberBytes m rest := by
  simp (disch := decide) only [prettyMember, writeString, memberBytes, encode_ascii_cons,
    encode_append, encode_nil, List.cons_append, List.append_assoc, List.nil_append]

/-- A member that was laid out is read as it was. -/
theorem textMember_memberBytes (members : List (String × String)) (name s : String) (rest : Bytes) :
    textMember members name (byte ':' :: byte ' ' :: byte '"' ::
      (encode (s.toList.flatMap escapeChar) ++ byte '"' :: rest)) =
        .ok (members ++ [(name, s)], rest) := by
  have htext : readText (byte ' ' :: byte '"' ::
      (encode (s.toList.flatMap escapeChar) ++ byte '"' :: rest)) = .ok (s, rest) :=
    readString_write s rest
  have hcolon : readColon (byte ':' :: byte ' ' :: byte '"' ::
      (encode (s.toList.flatMap escapeChar) ++ byte '"' :: rest)) = .ok (byte ' ' :: byte '"' ::
      (encode (s.toList.flatMap escapeChar) ++ byte '"' :: rest)) := rfl
  rw [textMember, hcolon]
  simp only [htext]

theorem readMembers_member {first : Bool} {text rest : Bytes} {m : String × String}
    (hkey : nextKey first text = .ok (.more (memberBytes m rest))) (fuel : Nat)
    (members : List (String × String)) :
    readMembers textMember (fuel + 1) first members text =
      readMembers textMember fuel false (members ++ [m]) rest := by
  rw [readMembers, hkey]
  simp only [memberBytes, readString_write, textMember_memberBytes]

theorem nextKey_first (rest : Bytes) :
    nextKey true (byte '\n' :: byte ' ' :: byte ' ' :: byte '"' :: rest) = .ok (.more rest) := rfl

theorem nextKey_comma (rest : Bytes) :
    nextKey false (byte ',' :: byte '\n' :: byte ' ' :: byte ' ' :: byte '"' :: rest) =
      .ok (.more rest) := rfl

theorem nextKey_close (first : Bool) (rest : Bytes) :
    nextKey first (byte '\n' :: byte '\x7d' :: rest) = .ok (.finished (byte '\x7d' :: rest)) := rfl

/-- The members after the first one, each behind a comma on a line of its own. -/
def laterMembers (members : List (String × String)) : List Char :=
  members.flatMap fun m => ',' :: '\n' :: prettyMember m

theorem laterMembers_cons (m : String × String) (members : List (String × String))
    (rest : Bytes) :
    encode (laterMembers (m :: members)) ++ rest =
      byte ',' :: byte '\n' :: byte ' ' :: byte ' ' :: byte '"' ::
        memberBytes m (encode (laterMembers members) ++ rest) := by
  rw [laterMembers, List.flatMap_cons, ← laterMembers, encode_append, List.append_assoc,
    encode_ascii_cons (by decide), encode_ascii_cons (by decide), List.cons_append,
    List.cons_append, encode_prettyMember]

theorem length_laterMembers (members : List (String × String)) (rest : Bytes) :
    members.length ≤ (encode (laterMembers members) ++ rest).length := by
  induction members with
  | nil => exact Nat.zero_le _
  | cons m members ih =>
    rw [laterMembers_cons]
    simp only [memberBytes, List.length_cons, List.length_append] at ih ⊢
    omega

/-- What is put between texts stands before each of them but the first. -/
theorem intercalate_map_cons {α : Type} (between : List Char) (f : α → List Char) (m : α)
    (ms : List α) : between.intercalate ((m :: ms).map f) =
      f m ++ ms.flatMap fun m => between ++ f m := by
  induction ms generalizing m with
  | nil => rw [List.map_singleton, List.intercalate_singleton, List.flatMap_nil, List.append_nil]
  | cons next ms ih =>
    rw [List.map_cons, List.map_cons, List.intercalate_cons_cons, ← List.map_cons, ih,
      List.flatMap_cons, List.append_assoc, List.append_assoc]

theorem prettyObject_cons (m : String × String) (members : List (String × String)) :
    (prettyObject (m :: members)).toList =
      '\x7b' :: '\n' :: (prettyMember m ++ laterMembers members ++ ['\n', '\x7d']) := by
  rw [prettyObject, String.toList_ofList, intercalate_map_cons]
  rfl

/-- Members that were laid out are read one after the other up to the closing bracket. -/
theorem readMembers_later {fuel : Nat} (members later : List (String × String)) (rest : Bytes)
    (hf : later.length < fuel) :
    readMembers textMember fuel false members
      (encode (laterMembers later) ++ byte '\n' :: byte '\x7d' :: rest) =
        .ok (members ++ later, rest) := by
  induction later generalizing members fuel with
  | nil =>
    obtain ⟨fuel, rfl⟩ : ∃ k, fuel = k + 1 := Nat.exists_eq_add_one.mpr hf
    rw [show encode (laterMembers []) = [] from rfl, List.nil_append, readMembers, nextKey_close,
      List.append_nil]
    rfl
  | cons m later ih =>
    obtain ⟨fuel, rfl⟩ : ∃ k, fuel = k + 1 := Nat.exists_eq_add_one.mpr (by omega)
    rw [laterMembers_cons, readMembers_member (nextKey_comma _), ih _ (by simpa using hf),
      List.append_assoc, List.singleton_append]

/-- An object of texts that was laid out is read as its members. -/
theorem readTextMap_prettyObject (room : Nat) (members : List (String × String)) (rest : Bytes) :
    readTextMap (room + 1) (Text.toBytes (prettyObject members) ++ rest) = .ok (members, rest) := by
  cases members with
  | nil =>
    have hbytes : Text.toBytes (prettyObject []) =
        [byte '\x7b', byte '\n', byte '\n', byte '\x7d'] := by
      rw [Text.toBytes, prettyObject, String.toList_ofList]
      rfl
    rw [hbytes]
    rfl
  | cons m members =>
    have hbytes : Text.toBytes (prettyObject (m :: members)) ++ rest = byte '\x7b' :: byte '\n' ::
        byte ' ' :: byte ' ' :: byte '"' :: memberBytes m
          (encode (laterMembers members) ++ byte '\n' :: byte '\x7d' :: rest) := by
      rw [Text.toBytes, prettyObject_cons, List.append_assoc]
      simp (disch := decide) only [encode_ascii_cons, encode_append, encode_nil, encode_prettyMember,
        memberBytes_append, List.append_assoc, List.cons_append, List.nil_append]
    have hfuel := length_laterMembers members (byte '\n' :: byte '\x7d' :: rest)
    rw [hbytes, readTextMap_open, readMembers_member (nextKey_first _), List.nil_append,
      readMembers_later _ _ _ ?_, List.singleton_append]
    simp only [memberBytes, List.length_cons, List.length_append] at hfuel ⊢
    omega

end Workbench.Json
