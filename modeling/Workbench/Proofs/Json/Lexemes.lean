import Workbench.Proofs.Json.Grammar
import Workbench.Proofs.Json.Texts

/-!
# Parts without structure, wherever they stand

Whatever the grammar calls a number or a string is read to its end and no further, if only
something follows that may follow a value. What a number stands for, or that it is out of range,
does not depend on what follows it; and the inside of a string either stands for one text, which is
read, or for none, and then reading it fails.

* `skipNumber_numeral`, `readNumber_of_some` — numbers are skipped and read.
* `skipString_inside`, `StandsFor.read` — so are strings.
-/

namespace Workbench.Json

open Workbench.Text (Bytes)

/-! ### What may follow a value -/

/-- A value may end here: nothing follows, or a blank, a comma, or a closing bracket. -/
inductive Stops : Bytes → Prop where
  /-- Nothing follows. -/
  | done : Stops []
  /-- Something follows that does not belong to the value. -/
  | before {b : UInt8} (rest : Bytes) :
      isSpace b ∨ b = byte ',' ∨ b = byte ']' ∨ b = byte '\x7d' → Stops (b :: rest)

/-- What does not go on with the digits before it. -/
def EndsDigits (text : Bytes) : Prop := ∀ b ∈ text.head?, isDigit b = false

variable {text rest : Bytes} {b : UInt8}

theorem Stops.of_blanks (hb : Blanks text rest) (h : Stops rest) : Stops text := by
  cases hb with
  | none => exact h
  | skip hs _ => exact .before _ (.inl hs)

/-- What follows a value does not go on with a number. -/
theorem Stops.no_numeral (h : Stops (b :: rest)) :
    isDigit b = false ∧ b ≠ byte '.' ∧ isExponentLetter b = false ∧ b ≠ byte '+' ∧
      b ≠ byte '-' := by
  cases h with
  | before _ h =>
    rcases h with hs | rfl | rfl | rfl
    · simp only [isSpace, Bool.or_eq_true, beq_iff_eq] at hs
      rcases hs with ((rfl | rfl) | rfl) | rfl <;> decide
    all_goals decide

theorem Stops.endsDigits (h : Stops rest) : EndsDigits rest := by
  cases h with
  | done => nofun
  | before rest h =>
    intro c hc
    obtain rfl := Option.some.inj hc
    exact (Stops.before rest h).no_numeral.1

/-! ### Digits -/

theorem takeWhile_digits {ds : Bytes} (hds : ∀ d ∈ ds, isDigit d) (h : EndsDigits rest) :
    (ds ++ rest).takeWhile isDigit = ds := by
  have hrest : rest.takeWhile isDigit = [] := by
    cases rest with
    | nil => rfl
    | cons b rest => rw [List.takeWhile_cons, h b rfl]; rfl
  rw [List.takeWhile_append_of_pos hds, hrest, List.append_nil]

theorem dropWhile_digits {ds : Bytes} (hds : ∀ d ∈ ds, isDigit d) (h : EndsDigits rest) :
    (ds ++ rest).dropWhile isDigit = rest := by
  have hrest : rest.dropWhile isDigit = rest := by
    cases rest with
    | nil => rfl
    | cons b rest => rw [List.dropWhile_cons, h b rfl]; rfl
  rw [List.dropWhile_append_of_pos hds, hrest]

/-- The digits that a text starts with. -/
theorem Digits.split (h : Digits text rest) :
    ∃ d ds, text = d :: ds ++ rest ∧ ∀ c ∈ d :: ds, isDigit c := by
  induction h with
  | @one d rest hd => exact ⟨d, [], rfl, List.forall_mem_singleton.mpr hd⟩
  | @more d text rest hd _ ih =>
    obtain ⟨c, ds, rfl, hds⟩ := ih
    exact ⟨d, c :: ds, rfl, List.forall_mem_cons.mpr ⟨hd, hds⟩⟩

/-- A text that starts with digits starts with digits whatever follows them. -/
theorem Digits.shift (h : Digits text rest) :
    ∃ ds, text = ds ++ rest ∧ ∀ after, Digits (ds ++ after) after := by
  induction h with
  | @one d rest hd => exact ⟨[d], rfl, fun after => .one after hd⟩
  | @more d text rest hd _ ih =>
    obtain ⟨ds, rfl, hds⟩ := ih
    exact ⟨d :: ds, rfl, fun after => .more hd (hds after)⟩

theorem Whole.shift (h : Whole text rest) :
    ∃ ds, text = ds ++ rest ∧ ∀ after, Whole (ds ++ after) after := by
  cases h with
  | zero => exact ⟨[byte '0'], rfl, fun after => .zero after⟩
  | digits hzero h =>
    obtain ⟨ds, htext, hds⟩ := h.shift
    cases ds with
    | nil =>
      -- there is at least one digit
      cases hds []
    | cons d ds =>
      rw [List.cons_append, List.cons.injEq] at htext
      obtain ⟨rfl, rfl⟩ := htext
      exact ⟨_ :: ds, rfl, fun after => .digits hzero (hds after)⟩

theorem Fraction.shift (h : Fraction text rest) :
    ∃ ds, text = ds ++ rest ∧ ∀ after, Fraction (ds ++ after) after := by
  cases h with
  | none => exact ⟨[], rfl, .none⟩
  | some h =>
    obtain ⟨ds, rfl, hds⟩ := h.shift
    exact ⟨byte '.' :: ds, rfl, fun after => .some (hds after)⟩

theorem Exponent.shift (h : Exponent text rest) :
    ∃ ds, text = ds ++ rest ∧ ∀ after, Exponent (ds ++ after) after := by
  cases h with
  | none => exact ⟨[], rfl, .none⟩
  | @unsigned e _ _ he h =>
    obtain ⟨ds, rfl, hds⟩ := h.shift
    exact ⟨e :: ds, rfl, fun after => .unsigned he (hds after)⟩
  | @signed e s _ _ he hs h =>
    obtain ⟨ds, rfl, hds⟩ := h.shift
    exact ⟨e :: s :: ds, rfl, fun after => .signed he hs (hds after)⟩

theorem Numeral.parts (h : Numeral text rest) :
    ∃ point letter, Whole text point ∧ Fraction point letter ∧ Exponent letter rest := by
  obtain ⟨hwhole, hfraction, hexponent⟩ := h
  exact ⟨_, _, hwhole, hfraction, hexponent⟩

/-- The digits of a number are a number whatever follows them. -/
theorem Numeral.shift (h : Numeral text rest) :
    ∃ ds, text = ds ++ rest ∧ ∀ after, Numeral (ds ++ after) after := by
  obtain ⟨_, _, hw, hf, he⟩ := h.parts
  obtain ⟨whole, rfl, hwhole⟩ := hw.shift
  obtain ⟨fraction, rfl, hfraction⟩ := hf.shift
  obtain ⟨exponent, rfl, hexponent⟩ := he.shift
  refine ⟨whole ++ (fraction ++ exponent), by simp only [List.append_assoc], fun after => ?_⟩
  simp only [List.append_assoc]
  exact ⟨hwhole _, hfraction _, hexponent after⟩

/-- The digits of a number are a number by themselves. -/
theorem Numeral.split (h : Numeral text rest) : ∃ ds, text = ds ++ rest ∧ Numeral ds [] := by
  obtain ⟨ds, rfl, hds⟩ := h.shift
  exact ⟨ds, rfl, by simpa only [List.append_nil] using hds []⟩

theorem Numeral.append {ds : Bytes} (h : Numeral ds []) (rest : Bytes) :
    Numeral (ds ++ rest) rest := by
  obtain ⟨_, rfl, hds⟩ := h.shift
  rw [List.append_nil]
  exact hds rest

/-- A number starts with a digit. -/
theorem Numeral.head (h : Numeral text rest) : ∃ d tail, text = d :: tail ∧ isDigit d := by
  obtain ⟨_, _, hwhole, -⟩ := h.parts
  cases hwhole with
  | zero => exact ⟨_, _, rfl, by decide⟩
  | digits _ h =>
    obtain ⟨d, ds, htext, hds⟩ := h.split
    exact ⟨d, ds ++ _, htext, hds d (List.mem_cons_self ..)⟩

theorem Numeral.isDigit {d : UInt8} (h : Numeral (d :: text) rest) : isDigit d := by
  obtain ⟨_, _, hcons, hd⟩ := h.head
  rwa [(List.cons.inj hcons).1]

theorem Exponent.endsDigits (h : Exponent text []) (hrest : Stops rest) :
    EndsDigits (text ++ rest) := by
  have hletter {e : UInt8} (he : isExponentLetter e) : isDigit e = false := by
    simp only [isExponentLetter, Bool.or_eq_true, beq_iff_eq] at he
    rcases he with rfl | rfl <;> decide
  cases h with
  | none => exact hrest.endsDigits
  | unsigned he =>
    intro b hb
    obtain rfl := Option.some.inj hb
    exact hletter he
  | signed he =>
    intro b hb
    obtain rfl := Option.some.inj hb
    exact hletter he

theorem Fraction.endsDigits {letter : Bytes} (h : Fraction text letter)
    (hletter : Exponent letter []) (hrest : Stops rest) : EndsDigits (text ++ rest) := by
  cases h with
  | none => exact hletter.endsDigits hrest
  | some =>
    intro b hb
    obtain rfl := Option.some.inj hb
    decide

/-! ### Numbers are skipped -/

theorem isDigit_ne {c : Char} {d : UInt8} (hd : isDigit d) (hc : isDigit (byte c) = false) :
    d ≠ byte c := by
  rintro rfl
  rw [hc] at hd
  cases hd

/-- A digit is no sign. -/
theorem isDigit_ne_sign {d : UInt8} (hd : isDigit d) : d ≠ byte '+' ∧ d ≠ byte '-' :=
  ⟨isDigit_ne hd (by decide), isDigit_ne hd (by decide)⟩

theorem skipExponent_digits {d : UInt8} {ds : Bytes} (hds : ∀ c ∈ d :: ds, isDigit c)
    (hrest : Stops rest) : skipExponent (d :: ds ++ rest) = .ok rest := by
  obtain ⟨hd, hds⟩ := List.forall_mem_cons.mp hds
  obtain ⟨hplus, hminus⟩ := isDigit_ne_sign hd
  simp only [skipExponent, List.cons_append, hplus, hminus, or_self, if_false, hd, if_true,
    dropWhile_digits hds hrest.endsDigits]

/-- An exponent is skipped. -/
theorem skipExponent_exponent {e : UInt8} (h : Exponent (e :: text) []) (hrest : Stops rest) :
    skipExponent (text ++ rest) = .ok rest := by
  cases h with
  | unsigned _ h =>
    obtain ⟨d, ds, rfl, hds⟩ := h.split
    rw [List.append_nil]
    exact skipExponent_digits hds hrest
  | signed _ hs h =>
    obtain ⟨d, ds, rfl, hds⟩ := h.split
    rw [List.append_nil]
    obtain ⟨hd, hds⟩ := List.forall_mem_cons.mp hds
    simp only [skipExponent, List.cons_append, hs, if_true, hd,
      dropWhile_digits hds hrest.endsDigits]

theorem Exponent.isExponentLetter {e : UInt8} (h : Exponent (e :: text) []) :
    isExponentLetter e := by
  cases h with
  | unsigned he => exact he
  | signed he => exact he

theorem Exponent.ne_point {e : UInt8} (h : Exponent (e :: text) []) : e ≠ byte '.' := by
  rintro rfl
  cases h.isExponentLetter

/-- A fraction is skipped, and an exponent behind it. -/
theorem skipFraction_fraction {letter : Bytes} (h : Digits text letter)
    (hletter : Exponent letter []) (hrest : Stops rest) :
    skipFraction (text ++ rest) = .ok rest := by
  obtain ⟨d, ds, rfl, hds⟩ := h.split
  have hends := hletter.endsDigits hrest
  rw [skipFraction, List.append_assoc, takeWhile_digits hds hends, dropWhile_digits hds hends]
  simp only [List.isEmpty_cons, Bool.false_eq_true, if_false]
  cases letter with
  | nil =>
    cases rest with
    | nil => rfl
    | cons b rest =>
      simp only [List.nil_append, hrest.no_numeral.2.2.1, Bool.false_eq_true, if_false]
  | cons e letter =>
    simp only [List.cons_append, hletter.isExponentLetter, if_true]
    exact skipExponent_exponent hletter hrest

/-- A number is skipped to its end. -/
theorem skipNumber_numeral {ds : Bytes} (h : Numeral ds []) (hrest : Stops rest) :
    skipNumber (ds ++ rest) = .ok rest := by
  obtain ⟨point, letter, hwhole, hfraction, hletter⟩ := h.parts
  have hends := hfraction.endsDigits hletter hrest
  unfold skipNumber
  extract_lets behind
  -- whatever the digits before it are, the fraction and the exponent are skipped in the same way
  have hbehind : behind (point ++ rest) = .ok rest := by
    unfold behind
    cases hfraction with
    | none =>
      cases point with
      | nil =>
        cases rest with
        | nil => rfl
        | cons b rest =>
          obtain ⟨-, hpoint, hexponent, -⟩ := hrest.no_numeral
          simp only [List.nil_append, hpoint, hexponent, Bool.false_eq_true, if_false]
      | cons e text =>
        simp only [List.cons_append, hletter.ne_point, hletter.isExponentLetter, if_true, if_false]
        exact skipExponent_exponent hletter hrest
    | some h =>
      simp only [List.cons_append, if_true]
      exact skipFraction_fraction h hletter hrest
  clear_value behind
  cases hwhole with
  | zero =>
    simp only [List.cons_append, if_true]
    -- a digit behind the zero is refused, but none can stand there
    split
    next heq =>
      rw [heq] at hends
      simp only [hends _ rfl, Bool.false_eq_true, if_false, hbehind]
    next heq =>
      rw [heq] at hbehind
      exact hbehind
  | digits hzero h =>
    obtain ⟨d, digits, htext, hds⟩ := h.split
    rw [List.cons_append, List.cons.injEq] at htext
    obtain ⟨rfl, rfl⟩ := htext
    obtain ⟨hd, hds⟩ := List.forall_mem_cons.mp hds
    simp only [List.cons_append, hzero, if_false, hd, if_true, List.append_assoc,
      dropWhile_digits hds hends, hbehind]

/-! ### Numbers are read -/

/-- Whatever follows a part of a number that may follow a value, the part is read to its end with
the same result, or it is never read. -/
def Settles (read : Bytes → Reading Number) (part : Bytes) : Prop :=
  (∃ n, ∀ rest, Stops rest → read (part ++ rest) = .ok (n, rest)) ∨
    ∀ rest, Stops rest → ∃ e, read (part ++ rest) = .error e

section

variable {read read' : Bytes → Reading Number} {part part' : Bytes} (negative : Bool)
  (significand : Nat) (exponent : Int)

theorem Settles.congr (h : Settles read' part')
    (heq : ∀ rest, Stops rest → read (part ++ rest) = read' (part' ++ rest)) :
    Settles read part := by
  rcases h with ⟨n, h⟩ | h
  · exact .inl ⟨n, fun rest hrest => (heq rest hrest).trans (h rest hrest)⟩
  · exact .inr fun rest hrest => by rw [heq rest hrest]; exact h rest hrest

theorem settles_rounded (x : Option Decimal.Magnitude) : Settles (rounded negative x) [] := by
  cases x with
  | none => exact .inr fun _ _ => ⟨_, rfl⟩
  | some m => exact .inl ⟨_, fun _ _ => rfl⟩

theorem settles_signedInteger (n : Nat) : Settles (signedInteger negative n) [] := by
  unfold signedInteger
  split
  · exact .inl ⟨_, fun _ _ => rfl⟩
  · split
    · exact .inl ⟨_, fun _ _ => rfl⟩
    · exact settles_rounded ..

/-- The digits of an exponent are read to their end, or until the exponent is too large. -/
theorem readExponentDigits_digits {ds : Bytes} (hds : ∀ d ∈ ds, isDigit d) (e : Nat) :
    (∃ n, ∀ rest, EndsDigits rest → readExponentDigits e (ds ++ rest) = (some n, rest)) ∨
      ∃ left : Bytes, (∀ d ∈ left, isDigit d) ∧
        ∀ rest, readExponentDigits e (ds ++ rest) = (none, left ++ rest) := by
  induction ds generalizing e with
  | nil =>
    refine .inl ⟨e, fun rest hrest => ?_⟩
    cases rest with
    | nil => rfl
    | cons b rest =>
      rw [List.nil_append, readExponentDigits, hrest b rfl]
      rfl
  | cons d ds ih =>
    obtain ⟨hd, hds⟩ := List.forall_mem_cons.mp hds
    by_cases hlarge : greatestExponent < e * 10 + digitValue d
    · refine .inr ⟨ds, hds, fun rest => ?_⟩
      simp only [List.cons_append, readExponentDigits, hd, hlarge, if_true]
    · simp only [List.cons_append, readExponentDigits, hd, hlarge, if_true, if_false]
      exact ih hds _

/-- Finishes a number after the digits of its exponent. -/
def finishExponent (minus : Bool) : Option Nat × Bytes → Reading Number
  | (some e, rest) =>
    rounded negative (scale significand (if minus then exponent - e else exponent + e)) rest
  | (none, rest) =>
    if significand ≠ 0 ∧ !minus then .error (.before .numberOutOfRange rest)
    else .ok (.float ⟨negative, .zero⟩, rest.dropWhile isDigit)

theorem settles_finishExponent {ds : Bytes} (hds : ∀ d ∈ ds, isDigit d) (minus : Bool) :
    Settles (fun text => finishExponent negative significand exponent minus
      (readExponentDigits 0 text)) ds := by
  rcases readExponentDigits_digits hds 0 with ⟨n, h⟩ | ⟨left, hleft, h⟩
  · refine (settles_rounded negative
      (scale significand (if minus then exponent - n else exponent + n))).congr fun rest hrest => ?_
    rw [h rest hrest.endsDigits]
    rfl
  · simp only [Settles, h, finishExponent]
    split
    · exact .inr fun _ _ => ⟨_, rfl⟩
    · refine .inl ⟨.float ⟨negative, .zero⟩, fun rest hrest => ?_⟩
      rw [dropWhile_digits hleft hrest.endsDigits]

/-- What is read as an exponent does not depend on what follows. -/
theorem settles_readExponent {e : UInt8} (h : Exponent (e :: part) []) :
    Settles (readExponent negative significand exponent) part := by
  cases h with
  | unsigned _ h =>
    obtain ⟨d, ds, rfl, hds⟩ := h.split
    rw [List.append_nil]
    refine (settles_finishExponent negative significand exponent hds false).congr fun rest _ => ?_
    obtain ⟨hd, -⟩ := List.forall_mem_cons.mp hds
    obtain ⟨hplus, hminus⟩ := isDigit_ne_sign hd
    simp only [readExponent, List.cons_append, hplus, hminus, if_false, hd, if_true]
    rfl
  | @signed _ s _ _ _ hs h =>
    obtain ⟨d, ds, rfl, hds⟩ := h.split
    rw [List.append_nil]
    refine (settles_finishExponent negative significand exponent hds (s == byte '-')).congr
      fun rest _ => ?_
    obtain ⟨hd, -⟩ := List.forall_mem_cons.mp hds
    rcases hs with rfl | rfl
    · simp only [readExponent, List.cons_append, hd, if_true]
      rfl
    · have hne : byte '-' ≠ byte '+' := by decide
      simp only [readExponent, List.cons_append, hne, hd, if_true, if_false]
      rfl

theorem settles_readScaled (h : Exponent part []) :
    Settles (readScaled negative significand exponent) part := by
  cases part with
  | nil =>
    refine (settles_rounded negative (scale significand exponent)).congr fun rest hrest => ?_
    cases rest with
    | nil => rfl
    | cons b rest =>
      simp only [List.nil_append, readScaled, hrest.no_numeral.2.2.1, Bool.false_eq_true, if_false]
  | cons e part =>
    refine (settles_readExponent negative significand exponent h).congr fun rest _ => ?_
    simp only [List.cons_append, readScaled, h.isExponentLetter, if_true]

theorem settles_readFraction {letter : Bytes} (h : Digits part letter)
    (hletter : Exponent letter []) :
    Settles (readFraction negative significand exponent) part := by
  obtain ⟨d, ds, rfl, hds⟩ := h.split
  let pushed := pushDigits significand (d :: ds)
  refine (settles_readScaled negative pushed.1
    (exponent - ((d :: ds).length - pushed.2.length)) hletter).congr fun rest hrest => ?_
  have hends := hletter.endsDigits hrest
  rw [readFraction, List.append_assoc, takeWhile_digits hds hends, dropWhile_digits hds hends]
  rfl

theorem settles_readAfterInteger {letter : Bytes} (digits : Bytes) (h : Fraction part letter)
    (hletter : Exponent letter []) : Settles (readAfterInteger negative digits) part := by
  let pushed := pushDigits 0 digits
  cases h with
  | none =>
    cases part with
    | nil =>
      have hlast : Settles (fun text =>
          if pushed.2.isEmpty then signedInteger negative pushed.1 text
          else rounded negative (scale pushed.1 pushed.2.length) text) [] := by
        split
        · exact settles_signedInteger ..
        · exact settles_rounded ..
      refine hlast.congr fun rest hrest => ?_
      cases rest with
      | nil => rfl
      | cons b rest =>
        obtain ⟨-, hpoint, hexponent, -⟩ := hrest.no_numeral
        simp only [List.nil_append, readAfterInteger, hpoint, hexponent, Bool.false_eq_true,
          if_false]
        rfl
    | cons e part =>
      refine (settles_readExponent negative pushed.1 pushed.2.length hletter).congr fun rest _ => ?_
      simp only [List.cons_append, readAfterInteger, hletter.ne_point, hletter.isExponentLetter,
        if_true, if_false]
      rfl
  | some h =>
    refine (settles_readFraction negative pushed.1 pushed.2.length h hletter).congr fun rest _ => ?_
    simp only [readAfterInteger, List.cons_append, if_true]
    rfl

/-- What is read as a number does not depend on what follows it. -/
theorem settles_readNumber {ds : Bytes} (h : Numeral ds []) : Settles (readNumber negative) ds := by
  obtain ⟨point, letter, hwhole, hfraction, hletter⟩ := h.parts
  cases hwhole with
  | zero =>
    refine (settles_readAfterInteger negative [byte '0'] hfraction hletter).congr
      fun rest hrest => ?_
    have hends := hfraction.endsDigits hletter hrest
    simp only [readNumber, List.cons_append, if_true]
    split
    next heq =>
      rw [heq] at hends
      rw [hends _ rfl, heq]
      rfl
    next heq => rw [heq]
  | @digits d _ _ hzero h =>
    obtain ⟨_, digits, htext, hds⟩ := h.split
    rw [List.cons_append, List.cons.injEq] at htext
    obtain ⟨rfl, rfl⟩ := htext
    refine (settles_readAfterInteger negative (d :: digits) hfraction hletter).congr
      fun rest hrest => ?_
    have hends := hfraction.endsDigits hletter hrest
    obtain ⟨hd, -⟩ := List.forall_mem_cons.mp hds
    have htake := takeWhile_digits hds hends
    have hdrop := dropWhile_digits hds hends
    simp only [List.cons_append] at htake hdrop
    simp only [readNumber, List.cons_append, hzero, if_false, hd, if_true, List.append_assoc,
      htake, hdrop]

end

/-- The number that digits stand for; `none` when it is out of range. -/
def numberOf? (negative : Bool) (ds : Bytes) : Option Number :=
  match readNumber negative ds with
  | .ok (n, _) => some n
  | .error _ => none

section

variable {negative : Bool} {ds : Bytes} (h : Numeral ds []) (hrest : Stops rest)

include h hrest

/-- What is read as a number is what its digits stand for. -/
theorem readNumber_of_some {n : Number} (hn : numberOf? negative ds = some n) :
    readNumber negative (ds ++ rest) = .ok (n, rest) := by
  rcases settles_readNumber negative h with ⟨n', hread⟩ | hread
  · have halone := hread [] .done
    rw [List.append_nil] at halone
    rw [numberOf?, halone, Option.some.injEq] at hn
    rw [← hn]
    exact hread rest hrest
  · obtain ⟨e, halone⟩ := hread [] .done
    rw [List.append_nil] at halone
    rw [numberOf?, halone] at hn
    cases hn

theorem readNumber_of_none (hn : numberOf? negative ds = none) :
    ∃ e, readNumber negative (ds ++ rest) = .error e := by
  rcases settles_readNumber negative h with ⟨n', hread⟩ | hread
  · have halone := hread [] .done
    rw [List.append_nil] at halone
    rw [numberOf?, halone] at hn
    cases hn
  · exact hread rest hrest

end

/-! ### Strings -/

/-- A string is skipped to its closing quote. -/
theorem skipString_inside {body : Bytes} (h : Inside body) (rest : Bytes) :
    skipString (body ++ byte '"' :: rest) = .ok rest := by
  have hne : byte '\\' ≠ byte '"' := by decide
  induction h with
  | nil =>
    rw [List.nil_append, skipString.eq_def]
    simp only [if_true]
  | plain hq hs hc _ ih =>
    rw [List.cons_append, skipString.eq_def]
    simp only [hq, hs, hc, if_false]
    exact ih
  | @letter e body he _ ih =>
    obtain ⟨b, hb⟩ := Option.isSome_iff_exists.mp he
    have hu : e ≠ byte 'u' := by
      rintro rfl
      cases hb
    rw [List.cons_append, List.cons_append, skipString.eq_def]
    simp only [hne, hu, hb, if_true, if_false]
    exact ih
  | code hn _ ih =>
    obtain ⟨n, hn⟩ := Option.isSome_iff_exists.mp hn
    simp only [List.cons_append]
    rw [skipString.eq_def]
    simp only [hne, hn, if_true, if_false]
    exact ih

/-- The inside of a string is read as the bytes it stands for. -/
theorem Means.reads {body data : Bytes} (h : Means body data) (rest : Bytes) :
    Reads (body ++ byte '"' :: rest) data rest := by
  induction h with
  | nil => exact .quote rest
  | plain hq hs hc _ ih => exact .plain hq hs hc ih
  | @letter e b body data he _ ih =>
    have hu : e ≠ byte 'u' := by
      rintro rfl
      cases he
    have hescape : readEscape ([e] ++ (body ++ byte '"' :: rest)) =
        .ok ([b], body ++ byte '"' :: rest) := by
      simp only [List.cons_append, List.nil_append, readEscape, hu, he, if_false]
    exact .escape hescape ih
  | @code a b c d n body data hn hlow hhigh _ ih =>
    have hescape : readEscape ([byte 'u', a, b, c, d] ++ (body ++ byte '"' :: rest)) =
        .ok (codePoint n, body ++ byte '"' :: rest) := by
      simp only [List.cons_append, List.nil_append, readEscape, hn, hlow, hhigh, if_true,
        Bool.false_eq_true, if_false]
    exact (Reads.escape hescape ih :)
  | @pair a b c d e f g k high low body data hhigh hh hlow hl _ ih =>
    have hnot : isLowSurrogate high = false := by
      simp only [isHighSurrogate, Bool.and_eq_true, decide_eq_true_eq] at hh
      simp only [isLowSurrogate, Bool.and_eq_false_imp, decide_eq_true_eq]
      omega
    have hescape : readEscape ([byte 'u', a, b, c, d, byte '\\', byte 'u', e, f, g, k] ++
        (body ++ byte '"' :: rest)) =
        .ok (codePoint ((high - 0xD800) * 0x400 + (low - 0xDC00) + 0x10000),
          body ++ byte '"' :: rest) := by
      simp only [List.cons_append, List.nil_append, readEscape, readLowSurrogate, hhigh, hnot, hh,
        hlow, hl, if_true, Bool.false_eq_true, if_false, ne_eq, not_true_eq_false]
    exact (Reads.escape hescape ih :)

/-- A string that stands for a text is read as this text. -/
theorem StandsFor.read {body : Bytes} {s : String} (h : StandsFor body s) (rest : Bytes) :
    readString (body ++ byte '"' :: rest) = .ok (s, rest) := by
  obtain ⟨data, hmeans, hs⟩ := h
  have hdata := hmeans.reads rest _ (Nat.le_refl _)
  simp only [readString, hdata, bind, Except.bind, hs]
  rfl

/-- A string stands for one text at most. -/
theorem StandsFor.unique {body : Bytes} {s s' : String} (h : StandsFor body s)
    (h' : StandsFor body s') : s = s' := by
  have heq := (h.read []).symm.trans (h'.read [])
  cases heq
  rfl

/-- The inside of a string stands for a text, or for none. -/
structure MayStandFor (body : Bytes) (s? : Option String) : Prop where
  /-- It is the inside of a string. -/
  inside : Inside body
  /-- The text is the only one that it stands for. -/
  stands : ∀ s, StandsFor body s ↔ s? = some s

/-- The inside of every string stands for a text, or for none. -/
theorem Inside.exists_mayStandFor {body : Bytes} (h : Inside body) : ∃ s?, MayStandFor body s? := by
  by_cases hs : ∃ s, StandsFor body s
  · obtain ⟨s, hs⟩ := hs
    refine ⟨some s, h, fun s' => ⟨fun hs' => ?_, fun hs' => ?_⟩⟩
    · rw [hs.unique hs']
    · rwa [← Option.some.inj hs']
  · exact ⟨none, h, fun s => ⟨fun hs' => absurd ⟨s, hs'⟩ hs, nofun⟩⟩

/-- A byte that stands for itself in a string. -/
def isPlain (b : UInt8) : Bool := b != byte '"' && b != byte '\\' && !decide (b < 32)

/-- A string without special bytes stands for the text of its bytes. -/
theorem MayStandFor.of_plain {body : Bytes} {s : String} (h : body.all isPlain)
    (hs : Text.ofBytes? body = some s) : MayStandFor body (some s) := by
  have hmeans : Means body body := by
    clear hs
    induction body with
    | nil => exact .nil
    | cons b body ih =>
      simp only [List.all_cons, isPlain, Bool.and_eq_true, bne_iff_ne, ne_eq, Bool.not_eq_true',
        decide_eq_false_iff_not] at h
      obtain ⟨⟨⟨hq, hb⟩, hc⟩, h⟩ := h
      exact .plain hq hb hc (ih h)
  have hstands : StandsFor body s := ⟨body, hmeans, hs⟩
  refine ⟨hmeans.inside, fun s' => ⟨fun h' => by rw [hstands.unique h'], fun heq => ?_⟩⟩
  rwa [← Option.some.inj heq]

theorem MayStandFor.read_some {body : Bytes} {s : String} (h : MayStandFor body (some s))
    (rest : Bytes) : readString (body ++ byte '"' :: rest) = .ok (s, rest) :=
  ((h.stands s).mpr rfl).read rest

/-- A string that stands for no text cannot be read. -/
theorem MayStandFor.read_none {body : Bytes} (h : MayStandFor body none) (rest : Bytes) :
    ∃ e, readString (body ++ byte '"' :: rest) = .error e := by
  cases hread : readString (body ++ byte '"' :: rest) with
  | error e => exact ⟨e, rfl⟩
  | ok r =>
    -- whatever is read is the same string, which stands for no text
    obtain ⟨body', hinside, hstands, htext⟩ := readString_sound hread
    have hskip := skipString_inside h.inside rest
    rw [htext, skipString_inside hinside, Except.ok.injEq] at hskip
    rw [hskip, List.append_cancel_right_eq] at htext
    rw [← htext] at hstands
    cases (h.stands _).mp hstands

end Workbench.Json
