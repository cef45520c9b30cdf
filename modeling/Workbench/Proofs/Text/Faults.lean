import Mathlib.Data.List.Infix
import Workbench.Proofs.Text.Utf8

/-!
# What is shown of faulty data

Data that is not made of the bytes of characters can be shown all the same. The characters in it are
shown as they are, and U+FFFD is shown for each piece between them. How many pieces there are is
a matter of agreement: a piece goes on as long as it could still become a character, and where
not even its first byte could, it is that byte.

* `shownAs_iff` — there is one way to show data, and it is the one that decoding finds.
-/

namespace Workbench.Text.Utf8

variable {c d : Char} {b : UInt8} {piece data rest : Bytes} {s t : List Char} {p : Pending}

/-- The bytes of some character start with these. -/
def Begins (piece : Bytes) : Prop := ∃ c, piece <+: encodeChar c

/-- A piece of data is ill-formed, with the given data behind it, and is as long as it can be. -/
structure IsFault (piece rest : Bytes) : Prop where
  /-- There is no character here. -/
  illFormed : ∀ c, ¬encodeChar c <+: piece ++ rest
  /-- There is something. -/
  filled : piece ≠ []
  /-- It could become a character, unless it is a single byte. -/
  begins : piece.length = 1 ∨ Begins piece
  /-- With one more byte it could not. -/
  longest : ∀ b ∈ rest.head?, ¬Begins (piece ++ [b])

/-- Data is shown as these characters. -/
inductive ShownAs : Bytes → List Char → Prop where
  /-- Nothing is shown of nothing. -/
  | nil : ShownAs [] []
  /-- A character is shown as it is. -/
  | char (c : Char) {rest : Bytes} {s : List Char} :
    ShownAs rest s → ShownAs (encodeChar c ++ rest) (c :: s)
  /-- U+FFFD is shown for an ill-formed piece. -/
  | fault {piece rest : Bytes} {s : List Char} (h : IsFault piece rest) :
    ShownAs rest s → ShownAs (piece ++ rest) ('\uFFFD' :: s)

/-! ### One way to show data -/

/-- Two characters at one place are the same. -/
theorem encodeChar_append_inj {rest' : Bytes}
    (h : encodeChar c ++ rest = encodeChar d ++ rest') : c = d ∧ rest = rest' := by
  have hread := congrArg (decodeFrom none) h
  rw [decodeFrom_encodeChar, decodeFrom_encodeChar] at hread
  obtain rfl : c = d := Option.some.inj (List.cons.inj hread).1
  exact ⟨rfl, List.append_cancel_left h⟩

/-- A piece is not the beginning of a longer one at the same place. -/
theorem IsFault.eq_nil {more : Bytes} (h : IsFault piece (more ++ rest))
    (hlong : IsFault (piece ++ more) rest) : more = [] := by
  cases more with
  | nil => rfl
  | cons b more =>
    rcases hlong.begins with hone | ⟨c, hc⟩
    · have hpiece : 0 < piece.length := List.length_pos_iff.mpr h.filled
      rw [List.length_append, List.length_cons] at hone
      omega
    · have hb : piece ++ [b] <+: piece ++ b :: more := ⟨more, by simp⟩
      exact absurd ⟨c, hb.trans hc⟩ (h.longest b rfl)

/-- Two pieces at one place are the same. -/
theorem IsFault.append_inj {piece' rest' : Bytes} (h : IsFault piece rest)
    (h' : IsFault piece' rest') (hdata : piece ++ rest = piece' ++ rest') :
    piece = piece' ∧ rest = rest' := by
  rcases List.append_eq_append_iff.mp hdata with ⟨more, rfl, rfl⟩ | ⟨more, rfl, rfl⟩
  · obtain rfl := h.eq_nil h'
    simp
  · obtain rfl := h'.eq_nil h
    simp

theorem ShownAs.unique (h : ShownAs data s) (h' : ShownAs data t) : s = t := by
  induction h generalizing t with
  | nil =>
    generalize hdata : ([] : Bytes) = data at h'
    cases h' with
    | nil => rfl
    | char c _ => exact absurd (List.append_eq_nil_iff.mp hdata.symm).1 (encodeChar_ne_nil c)
    | fault hfault _ => exact absurd (List.append_eq_nil_iff.mp hdata.symm).1 hfault.filled
  | @char c rest s _ ih =>
    generalize hdata : encodeChar c ++ rest = data at h'
    cases h' with
    | nil => exact absurd (List.append_eq_nil_iff.mp hdata).1 (encodeChar_ne_nil c)
    | char d h' =>
      obtain ⟨rfl, rfl⟩ := encodeChar_append_inj hdata
      rw [ih h']
    | fault hfault _ => exact absurd ⟨rest, hdata⟩ (hfault.illFormed c)
  | @fault piece rest s hfault _ ih =>
    generalize hdata : piece ++ rest = data at h'
    cases h' with
    | nil => exact absurd (List.append_eq_nil_iff.mp hdata).1 hfault.filled
    | char c _ => exact absurd ⟨_, hdata.symm⟩ (hfault.illFormed c)
    | fault hfault' h' =>
      obtain ⟨rfl, rfl⟩ := hfault.append_inj hfault' hdata
      rw [ih h']

/-! ### Sequences under way -/

/-- A byte may come next in a sequence. -/
def Pending.Admits (p : Pending) (b : UInt8) : Prop := p.low ≤ b.toNat ∧ b.toNat ≤ p.high

/-- After some bytes a sequence is under way. -/
structure Leaves (piece : Bytes) (p : Pending) : Prop where
  /-- What follows is read with this sequence. -/
  reads : ∀ rest, decodeFrom none (piece ++ rest) = decodeFrom (some p) rest
  /-- There are some bytes. -/
  filled : piece ≠ []
  /-- The sequence could become a character, unless it is a single byte. -/
  begins : piece.length = 1 ∨ Begins piece

/-- A sequence that does not go on is a fault. -/
theorem decodeFrom_broken (h : ∀ b ∈ rest.head?, ¬p.Admits b) :
    decodeFrom (some p) rest = none :: decodeFrom none rest := by
  cases rest with
  | nil => rfl
  | cons b rest => exact decodeFrom_off (h b rfl)

/-- Each byte that may come next can be followed up to a character. -/
theorem exists_decodeFrom (h : p.Admits b) :
    ∃ more c, decodeFrom (some p) (b :: more) = [some c] := by
  obtain ⟨low, high, missing, value⟩ := p
  induction missing generalizing low high value b with
  | zero => exact ⟨[], _, decodeFrom_last rfl h.1 h.2⟩
  | succ m ih =>
    have hnext : Pending.Admits ⟨0x80, 0xBF, m, value * 64 + b.toNat % 64⟩ 0x80 :=
      ⟨Nat.le_refl 0x80, (by decide : 0x80 ≤ 0xBF)⟩
    obtain ⟨more, c, hc⟩ := ih _ _ _ hnext
    exact ⟨0x80 :: more, c, (decodeFrom_next rfl h.1 h.2).trans hc⟩

/-- The bytes that may come next are those that a character could go on with. -/
theorem Leaves.begins_iff (h : Leaves piece p) : Begins (piece ++ [b]) ↔ p.Admits b := by
  constructor
  · rintro ⟨c, more, hc⟩
    by_contra hb
    have hread := decodeFrom_encodeChar c []
    rw [← hc, List.append_assoc, List.append_assoc, h.reads, decodeFrom_broken (by simpa using hb)]
      at hread
    cases hread
  · intro hb
    obtain ⟨more, c, hc⟩ := exists_decodeFrom hb
    refine ⟨c, more, ?_⟩
    rw [← h.reads] at hc
    rw [List.append_assoc, List.singleton_append, ← encode_singleton]
    exact eq_encode_of_decodeFrom hc

theorem Leaves.isFault (h : Leaves piece p) (hb : ∀ b ∈ rest.head?, ¬p.Admits b) :
    IsFault piece rest where
  illFormed := by
    rintro c ⟨more, hc⟩
    have hread := h.reads rest
    rw [← hc, decodeFrom_encodeChar, decodeFrom_broken hb] at hread
    cases hread
  filled := h.filled
  begins := h.begins
  longest := fun b hrest => h.begins_iff.not.mpr (hb b hrest)

/-- A first byte that announces more bytes leaves a sequence under way. -/
theorem leaves_lead (h : Lead.ofByte b = .more p) : Leaves [b] p where
  reads := fun _ => decodeFrom_lead h
  filled := List.cons_ne_nil b []
  begins := .inl rfl

/-- And so does a byte that goes on with one, if more belong to it. -/
theorem Leaves.next {low high missing value : Nat}
    (h : Leaves piece ⟨low, high, missing + 1, value⟩)
    (hb : Pending.Admits ⟨low, high, missing + 1, value⟩ b) :
    Leaves (piece ++ [b]) ⟨0x80, 0xBF, missing, value * 64 + b.toNat % 64⟩ where
  reads := by
    intro rest
    rw [List.append_assoc, h.reads]
    exact decodeFrom_next rfl hb.1 hb.2
  filled := by simp
  begins := .inr (h.begins_iff.mpr hb)

/-- If no more belong to it the character is complete. -/
theorem Leaves.last {low high value : Nat} (h : Leaves piece ⟨low, high, 0, value⟩)
    (hb : Pending.Admits ⟨low, high, 0, value⟩ b) :
    piece ++ [b] = encodeChar (Char.ofNat (value * 64 + b.toNat % 64)) := by
  have hread : decodeFrom none (piece ++ [b]) =
      [Char.ofNat (value * 64 + b.toNat % 64)].map some := by
    rw [h.reads]
    exact decodeFrom_last rfl hb.1 hb.2
  rw [← encode_singleton]
  exact eq_encode_of_decodeFrom hread

/-! ### What decoding finds -/

/-- A byte that no character starts with is a fault. -/
theorem isFault_of_bad (h : Lead.ofByte b = .bad) (rest : Bytes) : IsFault [b] rest := by
  have hnone (c : Char) (more : Bytes) : ¬[b] <+: encodeChar c ++ more := by
    rintro ⟨tail, hc⟩
    have hread := decodeFrom_encodeChar c more
    rw [← hc, List.singleton_append, decodeFrom_bad h] at hread
    cases hread
  refine ⟨?_, List.cons_ne_nil b [], .inl rfl, ?_⟩
  · rintro c ⟨more, hc⟩
    exact hnone c more ⟨rest, hc.symm⟩
  · rintro d - ⟨c, hc⟩
    apply hnone c []
    rw [List.append_nil]
    exact (List.prefix_append [b] [d]).trans hc

theorem eq_encodeChar_of_whole (h : Lead.ofByte b = .whole c) : [b] = encodeChar c := by
  rw [← encode_singleton]
  exact eq_encode_of_decodeFrom (decodeFrom_whole h)

/-- What is shown of the characters and faults that were found. -/
def shown (found : List (Option Char)) : List Char := found.map fun c => c.getD '\uFFFD'

/-- What is found in data is shown of it, and where a sequence is under way, what is found is shown
of the bytes that left it and the data. -/
theorem shownAs_shown (data : Bytes) : ShownAs data (shown (decodeFrom none data)) ∧
    ∀ piece p, Leaves piece p → ShownAs (piece ++ data) (shown (decodeFrom (some p) data)) := by
  -- What follows a sequence is read with none under way, so neither part goes without the other.
  induction data with
  | nil => exact ⟨.nil, fun piece p h => .fault (h.isFault (by simp)) .nil⟩
  | cons b rest ih =>
    obtain ⟨ihnone, ihsome⟩ := ih
    have hstart : ShownAs (b :: rest) (shown (decodeFrom none (b :: rest))) := by
      cases hlead : Lead.ofByte b with
      | whole c =>
        rw [decodeFrom_whole hlead, ← List.singleton_append, eq_encodeChar_of_whole hlead]
        exact .char c ihnone
      | more p =>
        rw [decodeFrom_lead hlead]
        exact ihsome [b] p (leaves_lead hlead)
      | bad =>
        rw [decodeFrom_bad hlead]
        exact .fault (isFault_of_bad hlead rest) ihnone
    refine ⟨hstart, fun piece p h => ?_⟩
    by_cases hb : p.Admits b
    · obtain ⟨low, high, missing, value⟩ := p
      have hdata : piece ++ b :: rest = piece ++ [b] ++ rest := by simp
      cases missing with
      | zero =>
        rw [decodeFrom_last rfl hb.1 hb.2, hdata, h.last hb]
        exact .char _ ihnone
      | succ m =>
        rw [decodeFrom_next rfl hb.1 hb.2, hdata]
        exact ihsome _ _ (h.next hb)
    · -- The byte is read again, as the first of what follows the fault.
      have hbroken : ∀ d ∈ (b :: rest).head?, ¬p.Admits d := by simpa using hb
      rw [decodeFrom_broken hbroken]
      exact .fault (h.isFault hbroken) hstart

/-- **There is one way to show data**, and lenient decoding finds it. -/
theorem shownAs_iff : ShownAs data s ↔ s = decodeLossy data := by
  have hdata : ShownAs data (decodeLossy data) := (shownAs_shown data).1
  constructor
  · intro h
    exact h.unique hdata
  · rintro rfl
    exact hdata

end Workbench.Text.Utf8
