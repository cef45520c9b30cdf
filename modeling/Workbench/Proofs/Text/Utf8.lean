import Workbench.Text.Utf8

/-!
# Decoding undoes encoding

Every character has one to four bytes. Decoding them gives the character back whatever follows,
and so the bytes of a text stand for that text and for no other. Data that is decoded without a
fault is made of the bytes of characters.

* `decodeFrom_encodeChar` — the bytes of a character are read as this character, and what follows
  is read on its own.
* `ofBytes?_toBytes` — the bytes of a text are read as the text.
* `ofBytes?_eq_some_iff` — no other bytes are.
-/

namespace Workbench.Text

namespace Utf8

variable {c : Char} {b : UInt8} {rest : Bytes}

/-- The last byte of a sequence. -/
theorem decodeFrom_last {low high value k : Nat} (hb : b.toNat = k) (hl : low ≤ k)
    (hh : k ≤ high) :
    decodeFrom (some ⟨low, high, 0, value⟩) (b :: rest) =
      some (Char.ofNat (value * 64 + k % 64)) :: decodeFrom none rest := by
  simp only [decodeFrom, step, hb, hl, hh, and_self, if_true, List.singleton_append]

/-- A byte of a sequence after which more belong to it. -/
theorem decodeFrom_next {low high missing value k : Nat} (hb : b.toNat = k) (hl : low ≤ k)
    (hh : k ≤ high) :
    decodeFrom (some ⟨low, high, missing + 1, value⟩) (b :: rest) =
      decodeFrom (some ⟨0x80, 0xBF, missing, value * 64 + k % 64⟩) rest := by
  simp only [decodeFrom, step, hb, hl, hh, and_self, if_true, List.nil_append]

/-- A byte that may not come next ends the sequence, and is read as the first of another. -/
theorem decodeFrom_off {low high missing value : Nat} (hb : ¬(low ≤ b.toNat ∧ b.toNat ≤ high)) :
    decodeFrom (some ⟨low, high, missing, value⟩) (b :: rest) =
      none :: decodeFrom none (b :: rest) := by
  simp only [decodeFrom, step, hb, if_false, List.cons_append]

theorem decodeFrom_lead {p : Pending} (h : Lead.ofByte b = .more p) :
    decodeFrom none (b :: rest) = decodeFrom (some p) rest := by
  simp only [decodeFrom, step, start, h, List.nil_append]

theorem decodeFrom_whole (h : Lead.ofByte b = .whole c) :
    decodeFrom none (b :: rest) = some c :: decodeFrom none rest := by
  simp only [decodeFrom, step, start, h, List.singleton_append]

theorem decodeFrom_bad (h : Lead.ofByte b = .bad) :
    decodeFrom none (b :: rest) = none :: decodeFrom none rest := by
  simp only [decodeFrom, step, start, h, List.singleton_append]

/-- The bound is written as a numeral, for arithmetic to decide. -/
theorem toNat_ofNat {n : Nat} (h : n < 256) : (UInt8.ofNat n).toNat = n :=
  UInt8.toNat_ofNat_of_lt' h

/-- A byte that goes on with a sequence. -/
theorem toNat_tail (n : Nat) : (UInt8.ofNat (0x80 + n % 64)).toNat = 0x80 + n % 64 :=
  toNat_ofNat (by omega)

/-- A character is no surrogate, and its code point is at most U+10FFFF. -/
theorem toNat_range (c : Char) : c.toNat < 0xD800 ∨ 0xDFFF < c.toNat ∧ c.toNat < 0x110000 :=
  c.valid

/-! ### Sequences of two, three and four bytes -/

section Sequences

variable {n : Nat}

theorem decodeFrom_two (rest : Bytes) (hl : 0x80 ≤ n) (hh : n < 0x800) :
    decodeFrom none (UInt8.ofNat (0xC0 + n / 64) :: UInt8.ofNat (0x80 + n % 64) :: rest) =
      some (Char.ofNat n) :: decodeFrom none rest := by
  have hlead : Lead.ofByte (UInt8.ofNat (0xC0 + n / 64)) = .more ⟨0x80, 0xBF, 0, n / 64⟩ := by
    rw [Lead.ofByte, toNat_ofNat (by omega), if_neg (by omega), if_neg (by omega),
      if_pos (by omega), Nat.add_sub_cancel_left]
  rw [decodeFrom_lead hlead, decodeFrom_last (toNat_tail _) (by omega) (by omega)]
  congr 3
  omega

theorem decodeFrom_three (rest : Bytes) (hl : 0x800 ≤ n) (hh : n < 0x10000)
    (hs : n < 0xD800 ∨ 0xDFFF < n) :
    decodeFrom none (UInt8.ofNat (0xE0 + n / 4096) :: UInt8.ofNat (0x80 + n / 64 % 64) ::
        UInt8.ofNat (0x80 + n % 64) :: rest) =
      some (Char.ofNat n) :: decodeFrom none rest := by
  have hlead : Lead.ofByte (UInt8.ofNat (0xE0 + n / 4096)) =
      .more ⟨if 0xE0 + n / 4096 = 0xE0 then 0xA0 else 0x80,
        if 0xE0 + n / 4096 = 0xED then 0x9F else 0xBF, 1, n / 4096⟩ := by
    rw [Lead.ofByte, toNat_ofNat (by omega), if_neg (by omega), if_neg (by omega),
      if_neg (by omega), if_pos (by omega), Nat.add_sub_cancel_left]
  -- The narrow bounds hold because short forms and surrogates are shut out.
  have hlow : (if 0xE0 + n / 4096 = 0xE0 then 0xA0 else 0x80) ≤ 0x80 + n / 64 % 64 := by
    split <;> omega
  have hhigh : 0x80 + n / 64 % 64 ≤ if 0xE0 + n / 4096 = 0xED then 0x9F else 0xBF := by
    split <;> omega
  rw [decodeFrom_lead hlead, decodeFrom_next (toNat_tail _) hlow hhigh,
    decodeFrom_last (toNat_tail _) (by omega) (by omega)]
  congr 3
  omega

theorem decodeFrom_four (rest : Bytes) (hl : 0x10000 ≤ n) (hh : n < 0x110000) :
    decodeFrom none (UInt8.ofNat (0xF0 + n / 262144) :: UInt8.ofNat (0x80 + n / 4096 % 64) ::
        UInt8.ofNat (0x80 + n / 64 % 64) :: UInt8.ofNat (0x80 + n % 64) :: rest) =
      some (Char.ofNat n) :: decodeFrom none rest := by
  have hlead : Lead.ofByte (UInt8.ofNat (0xF0 + n / 262144)) =
      .more ⟨if 0xF0 + n / 262144 = 0xF0 then 0x90 else 0x80,
        if 0xF0 + n / 262144 = 0xF4 then 0x8F else 0xBF, 2, n / 262144⟩ := by
    rw [Lead.ofByte, toNat_ofNat (by omega), if_neg (by omega), if_neg (by omega),
      if_neg (by omega), if_neg (by omega), if_pos (by omega), Nat.add_sub_cancel_left]
  -- The narrow bounds hold because short forms and what lies beyond U+10FFFF are shut out.
  have hlow : (if 0xF0 + n / 262144 = 0xF0 then 0x90 else 0x80) ≤ 0x80 + n / 4096 % 64 := by
    split <;> omega
  have hhigh : 0x80 + n / 4096 % 64 ≤ if 0xF0 + n / 262144 = 0xF4 then 0x8F else 0xBF := by
    split <;> omega
  rw [decodeFrom_lead hlead, decodeFrom_next (toNat_tail _) hlow hhigh,
    decodeFrom_next (toNat_tail _) (by omega) (by omega),
    decodeFrom_last (toNat_tail _) (by omega) (by omega)]
  congr 3
  omega

end Sequences

/-- The bytes of a character are read as this character, whatever follows. -/
theorem decodeFrom_encodeChar (c : Char) (rest : Bytes) :
    decodeFrom none (encodeChar c ++ rest) = some c :: decodeFrom none rest := by
  have hrange := toNat_range c
  have hc : Char.ofNat c.toNat = c := Char.ofNat_toNat c
  rw [encodeChar]
  generalize c.toNat = n at hrange hc
  by_cases h1 : n < 0x80
  · have hlead : Lead.ofByte (UInt8.ofNat n) = .whole c := by
      rw [Lead.ofByte, toNat_ofNat (by omega)]
      simp only [h1, if_true, hc]
    rw [if_pos h1, List.singleton_append, decodeFrom_whole hlead]
  · by_cases h2 : n < 0x800
    · have h := decodeFrom_two rest (by omega) h2
      simpa only [h1, h2, if_true, if_false, hc, List.cons_append, List.nil_append] using h
    · by_cases h3 : n < 0x10000
      · have h := decodeFrom_three (n := n) rest (by omega) h3 (by omega)
        simpa only [h1, h2, h3, if_true, if_false, hc, List.cons_append, List.nil_append] using h
      · have h := decodeFrom_four (n := n) rest (by omega) (by omega)
        simpa only [h1, h2, h3, if_false, hc, List.cons_append, List.nil_append] using h

/-! ### Texts -/

theorem encode_append (s t : List Char) : encode (s ++ t) = encode s ++ encode t :=
  List.flatMap_append

theorem encode_cons (c : Char) (s : List Char) : encode (c :: s) = encodeChar c ++ encode s := rfl

theorem encode_nil : encode [] = [] := rfl

theorem encode_singleton (c : Char) : encode [c] = encodeChar c := List.append_nil _

theorem encodeChar_ne_nil (c : Char) : encodeChar c ≠ [] := by
  unfold encodeChar
  dsimp only
  repeat' split
  all_goals exact List.cons_ne_nil _ _

theorem encodeChar_ascii (h : c.toNat < 0x80) : encodeChar c = [UInt8.ofNat c.toNat] := by
  rw [encodeChar]
  exact if_pos h

/-- No byte of a character beyond ASCII is itself an ASCII character. -/
theorem le_of_mem_encodeChar (h : 0x80 ≤ c.toNat) (hb : b ∈ encodeChar c) : 0x80 ≤ b.toNat := by
  have hrange := toNat_range c
  rw [encodeChar] at hb
  generalize c.toNat = n at h hb hrange
  have hbyte {k : Nat} (hl : 0x80 ≤ k) (hh : k < 256) (e : b = UInt8.ofNat k) : 0x80 ≤ b.toNat := by
    rwa [e, toNat_ofNat hh]
  by_cases h2 : n < 0x800
  · simp only [Nat.not_lt.mpr h, h2, if_true, if_false, List.mem_cons, List.not_mem_nil,
      or_false] at hb
    rcases hb with e | e
    all_goals exact hbyte (by omega) (by omega) e
  · by_cases h3 : n < 0x10000
    · simp only [Nat.not_lt.mpr h, h2, h3, if_true, if_false, List.mem_cons, List.not_mem_nil,
        or_false] at hb
      rcases hb with e | e | e
      all_goals exact hbyte (by omega) (by omega) e
    · simp only [Nat.not_lt.mpr h, h2, h3, if_false, List.mem_cons, List.not_mem_nil,
        or_false] at hb
      rcases hb with e | e | e | e
      all_goals exact hbyte (by omega) (by omega) e

/-- The bytes of characters are read as these characters, and without a fault. -/
theorem decode_encode (s : List Char) : decode (encode s) = s.map some := by
  induction s with
  | nil => rfl
  | cons c s ih =>
    rw [encode, List.flatMap_cons, ← encode, decode, decodeFrom_encodeChar, ← decode, ih,
      List.map_cons]

theorem decode?_encode (s : List Char) : decode? (encode s) = some s := by
  rw [decode?, decode_encode]
  induction s with
  | nil => rfl
  | cons c s ih => simp [ih]

/-! ### Data without faults -/

section Faultless

variable {data : Bytes} {s : List Char} {low high missing value : Nat}

theorem none_notMem (s : List Char) : none ∉ s.map some := by
  intro h
  obtain ⟨c, -, hc⟩ := List.mem_map.mp h
  cases hc

/-- Without a fault the last byte of a sequence is there, and completes a character. -/
theorem last_of_decodeFrom (h : decodeFrom (some ⟨low, high, 0, value⟩) data = s.map some) :
    ∃ b rest s', data = b :: rest ∧ (low ≤ b.toNat ∧ b.toNat ≤ high) ∧
      s = Char.ofNat (value * 64 + b.toNat % 64) :: s' ∧ decodeFrom none rest = s'.map some := by
  cases data with
  | nil => exact absurd (h ▸ List.mem_singleton_self none) (none_notMem s)
  | cons b rest =>
    by_cases hb : low ≤ b.toNat ∧ b.toNat ≤ high
    · rw [decodeFrom_last rfl hb.1 hb.2] at h
      cases s with
      | nil => cases h
      | cons c s =>
        obtain ⟨hc, hrest⟩ := List.cons.inj h
        exact ⟨b, rest, s, rfl, hb, by rw [Option.some.inj hc], hrest⟩
    · rw [decodeFrom_off hb] at h
      exact absurd (h ▸ List.mem_cons_self) (none_notMem s)

/-- Without a fault the next byte of a sequence is there. -/
theorem next_of_decodeFrom
    (h : decodeFrom (some ⟨low, high, missing + 1, value⟩) data = s.map some) :
    ∃ b rest, data = b :: rest ∧ (low ≤ b.toNat ∧ b.toNat ≤ high) ∧
      decodeFrom (some ⟨0x80, 0xBF, missing, value * 64 + b.toNat % 64⟩) rest = s.map some := by
  cases data with
  | nil => exact absurd (h ▸ List.mem_singleton_self none) (none_notMem s)
  | cons b rest =>
    by_cases hb : low ≤ b.toNat ∧ b.toNat ≤ high
    · rw [decodeFrom_next rfl hb.1 hb.2] at h
      exact ⟨b, rest, rfl, hb, h⟩
    · rw [decodeFrom_off hb] at h
      exact absurd (h ▸ List.mem_cons_self) (none_notMem s)

theorem toNat_charOfNat {n : Nat} (h : n < 0xD800 ∨ 0xDFFF < n ∧ n < 0x110000) :
    (Char.ofNat n).toNat = n := by
  have hvalid : n.isValidChar := h
  rw [Char.ofNat, dif_pos hvalid]
  rfl

theorem ofNat_eq {k : Nat} (h : k = b.toNat) : UInt8.ofNat k = b := by
  rw [h, UInt8.ofNat_toNat]

/-- Data starts with the bytes of the first of some characters, and the others are decoded from what
follows. -/
def Peels (data : Bytes) (s : List Char) : Prop :=
  ∃ c s' rest, s = c :: s' ∧ data = encodeChar c ++ rest ∧ decodeFrom none rest = s'.map some

theorem peels_one (hb : b.toNat < 0x80) (h : decodeFrom none (b :: data) = s.map some) :
    Peels (b :: data) s := by
  have hlead : Lead.ofByte b = .whole (Char.ofNat b.toNat) := by
    rw [Lead.ofByte]
    exact if_pos hb
  rw [decodeFrom_whole hlead] at h
  cases s with
  | nil => cases h
  | cons c s =>
    obtain ⟨hc, hrest⟩ := List.cons.inj h
    refine ⟨c, s, data, rfl, ?_, hrest⟩
    rw [← Option.some.inj hc, encodeChar, toNat_charOfNat (by omega), if_pos hb, ofNat_eq rfl]
    rfl

theorem peels_two (hl : 0xC2 ≤ b.toNat) (hh : b.toNat < 0xE0)
    (h : decodeFrom none (b :: data) = s.map some) : Peels (b :: data) s := by
  have hlead : Lead.ofByte b = .more ⟨0x80, 0xBF, 0, b.toNat - 0xC0⟩ := by
    rw [Lead.ofByte, if_neg (by omega), if_neg (by omega), if_pos hh]
  rw [decodeFrom_lead hlead] at h
  obtain ⟨b₁, rest, s', rfl, h₁, rfl, hrest⟩ := last_of_decodeFrom h
  refine ⟨_, s', rest, rfl, ?_, hrest⟩
  rw [encodeChar, toNat_charOfNat (by omega), if_neg (by omega), if_pos (by omega),
    ofNat_eq (b := b) (by omega), ofNat_eq (b := b₁) (by omega)]
  rfl

theorem peels_three (hl : 0xE0 ≤ b.toNat) (hh : b.toNat < 0xF0)
    (h : decodeFrom none (b :: data) = s.map some) : Peels (b :: data) s := by
  have hlead : Lead.ofByte b = .more ⟨if b.toNat = 0xE0 then 0xA0 else 0x80,
      if b.toNat = 0xED then 0x9F else 0xBF, 1, b.toNat - 0xE0⟩ := by
    rw [Lead.ofByte, if_neg (by omega), if_neg (by omega), if_neg (by omega), if_pos hh]
  rw [decodeFrom_lead hlead] at h
  obtain ⟨b₁, rest, rfl, h₁, h⟩ := next_of_decodeFrom h
  obtain ⟨b₂, rest, s', rfl, h₂, rfl, hrest⟩ := last_of_decodeFrom h
  -- The narrow bounds shut out short forms and surrogates.
  have hbounds : 0x80 ≤ b₁.toNat ∧ b₁.toNat ≤ 0xBF ∧ (b.toNat = 0xE0 → 0xA0 ≤ b₁.toNat) ∧
      (b.toNat = 0xED → b₁.toNat ≤ 0x9F) := by
    obtain ⟨hlow, hhigh⟩ := h₁
    split at hlow <;> split at hhigh <;> omega
  refine ⟨_, s', rest, rfl, ?_, hrest⟩
  rw [encodeChar, toNat_charOfNat (by omega), if_neg (by omega), if_neg (by omega),
    if_pos (by omega), ofNat_eq (b := b) (by omega), ofNat_eq (b := b₁) (by omega),
    ofNat_eq (b := b₂) (by omega)]
  rfl

theorem peels_four (hl : 0xF0 ≤ b.toNat) (hh : b.toNat < 0xF5)
    (h : decodeFrom none (b :: data) = s.map some) : Peels (b :: data) s := by
  have hlead : Lead.ofByte b = .more ⟨if b.toNat = 0xF0 then 0x90 else 0x80,
      if b.toNat = 0xF4 then 0x8F else 0xBF, 2, b.toNat - 0xF0⟩ := by
    rw [Lead.ofByte, if_neg (by omega), if_neg (by omega), if_neg (by omega), if_neg (by omega),
      if_pos hh]
  rw [decodeFrom_lead hlead] at h
  obtain ⟨b₁, rest, rfl, h₁, h⟩ := next_of_decodeFrom h
  obtain ⟨b₂, rest, rfl, h₂, h⟩ := next_of_decodeFrom h
  obtain ⟨b₃, rest, s', rfl, h₃, rfl, hrest⟩ := last_of_decodeFrom h
  -- The narrow bounds shut out short forms and what lies beyond U+10FFFF.
  have hbounds : 0x80 ≤ b₁.toNat ∧ b₁.toNat ≤ 0xBF ∧ (b.toNat = 0xF0 → 0x90 ≤ b₁.toNat) ∧
      (b.toNat = 0xF4 → b₁.toNat ≤ 0x8F) := by
    obtain ⟨hlow, hhigh⟩ := h₁
    split at hlow <;> split at hhigh <;> omega
  refine ⟨_, s', rest, rfl, ?_, hrest⟩
  rw [encodeChar, toNat_charOfNat (by omega), if_neg (by omega), if_neg (by omega),
    if_neg (by omega), ofNat_eq (b := b) (by omega), ofNat_eq (b := b₁) (by omega),
    ofNat_eq (b := b₂) (by omega), ofNat_eq (b := b₃) (by omega)]
  rfl

/-- Data that is decoded without a fault starts with the bytes of its first character. -/
theorem peels_of_decodeFrom (h : decodeFrom none (b :: data) = s.map some) :
    Peels (b :: data) s := by
  by_cases hbad : 0x80 ≤ b.toNat ∧ b.toNat < 0xC2 ∨ 0xF5 ≤ b.toNat
  · have hlead : Lead.ofByte b = .bad := by
      rw [Lead.ofByte, if_neg (by omega)]
      rcases hbad with hbad | hbad
      · exact if_pos hbad.2
      · rw [if_neg (by omega), if_neg (by omega), if_neg (by omega), if_neg (by omega)]
    rw [decodeFrom_bad hlead] at h
    exact absurd (h ▸ List.mem_cons_self) (none_notMem s)
  · by_cases h1 : b.toNat < 0x80
    · exact peels_one h1 h
    by_cases h2 : b.toNat < 0xE0
    · exact peels_two (by omega) h2 h
    by_cases h3 : b.toNat < 0xF0
    · exact peels_three (by omega) h3 h
    · exact peels_four (by omega) (by omega) h

/-- Data that is decoded without a fault is made of the bytes of characters. -/
theorem eq_encode_of_decodeFrom (h : decodeFrom none data = s.map some) : data = encode s := by
  induction s generalizing data with
  | nil =>
    cases data with
    | nil => rfl
    | cons b data =>
      obtain ⟨c, s', rest, hs, -⟩ := peels_of_decodeFrom h
      cases hs
  | cons c s ih =>
    cases data with
    | nil => cases h
    | cons b data =>
      obtain ⟨c', s', rest, hs, hdata, hrest⟩ := peels_of_decodeFrom h
      cases hs
      rw [hdata, encode_cons, ih hrest]

theorem eq_map_some_of_mapM {cs : List (Option Char)} (h : cs.mapM id = some s) :
    cs = s.map some := by
  induction cs generalizing s with
  | nil =>
    cases h
    rfl
  | cons c cs ih =>
    cases c with
    | none => cases h
    | some c =>
      cases hcs : cs.mapM id with
      | none => simp [hcs] at h
      | some s' =>
        simp only [List.mapM_cons, id, hcs] at h
        cases h
        rw [List.map_cons, ih hcs]

end Faultless

end Utf8

/-- The bytes of a text are read as the text. -/
theorem ofBytes?_toBytes (s : String) : ofBytes? (toBytes s) = some s := by
  rw [ofBytes?, toBytes, Utf8.decode?_encode, Option.map_some, String.ofList_toList]

/-- Data is read as a text exactly if it is the bytes of the text. -/
theorem ofBytes?_eq_some_iff {data : Bytes} {s : String} :
    ofBytes? data = some s ↔ data = toBytes s := by
  constructor
  · intro h
    obtain ⟨cs, hcs, rfl⟩ := Option.map_eq_some_iff.mp h
    rw [toBytes, String.toList_ofList]
    exact Utf8.eq_encode_of_decodeFrom (Utf8.eq_map_some_of_mapM hcs)
  · rintro rfl
    exact ofBytes?_toBytes s

end Workbench.Text
