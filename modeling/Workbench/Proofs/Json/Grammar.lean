import Workbench.Json.Skip

/-!
# The grammar of JSON

What is JSON and what is not, without a word on how it is read. All rules have the form of a
relation between a text and the rest of it that follows the part in question. A text as a whole is
described by a tree. The strings of a tree are kept as they are written; what they stand for is a
matter of its own, since some of them stand for no text at all: their bytes need not be UTF-8, and
an escape may write half of a surrogate pair.

The second half of the module shows that the readers of parts without structure keep to the
grammar: where they go on reading, there was what the grammar asks for.

* `Leads` — a text leads with a value.
* `Spells` — a text is a value with blanks around it.
-/

namespace Workbench.Json

open Workbench.Text (Bytes)

/-! ### Parts without structure -/

/-- A text starts with blanks, if with anything, before the rest. -/
inductive Blanks : Bytes → Bytes → Prop where
  /-- There are none. -/
  | none (rest : Bytes) : Blanks rest rest
  /-- There is one more. -/
  | skip {b : UInt8} {text rest : Bytes} : isSpace b → Blanks text rest → Blanks (b :: text) rest

/-- A text starts with digits, at least one. -/
inductive Digits : Bytes → Bytes → Prop where
  /-- There is one. -/
  | one {d : UInt8} (rest : Bytes) : isDigit d → Digits (d :: rest) rest
  /-- There is one more. -/
  | more {d : UInt8} {text rest : Bytes} : isDigit d → Digits text rest → Digits (d :: text) rest

/-- A text starts with an integer without sign: a zero, or digits that do not start with one. -/
inductive Whole : Bytes → Bytes → Prop where
  /-- A zero. -/
  | zero (rest : Bytes) : Whole (byte '0' :: rest) rest
  /-- Other digits. -/
  | digits {d : UInt8} {text rest : Bytes} : d ≠ byte '0' → Digits (d :: text) rest →
      Whole (d :: text) rest

/-- A text starts with a fraction, if with anything, before the rest. -/
inductive Fraction : Bytes → Bytes → Prop where
  /-- There is none. -/
  | none (rest : Bytes) : Fraction rest rest
  /-- There is one. -/
  | some {text rest : Bytes} : Digits text rest → Fraction (byte '.' :: text) rest

/-- A text starts with an exponent, if with anything, before the rest. -/
inductive Exponent : Bytes → Bytes → Prop where
  /-- There is none. -/
  | none (rest : Bytes) : Exponent rest rest
  /-- There is one without sign. -/
  | unsigned {e : UInt8} {text rest : Bytes} : isExponentLetter e → Digits text rest →
      Exponent (e :: text) rest
  /-- There is one with a sign. -/
  | signed {e s : UInt8} {text rest : Bytes} : isExponentLetter e → s = byte '+' ∨ s = byte '-' →
      Digits text rest → Exponent (e :: s :: text) rest

/-- A text starts with a number without sign. -/
inductive Numeral : Bytes → Bytes → Prop where
  /-- Its parts follow each other. -/
  | mk {text point letter rest : Bytes} : Whole text point → Fraction point letter →
      Exponent letter rest → Numeral text rest

/-- The inside of a string: characters that are not special, and escapes. -/
inductive Inside : Bytes → Prop where
  /-- Nothing is left. -/
  | nil : Inside []
  /-- A byte that is not special. -/
  | plain {b : UInt8} {body : Bytes} : b ≠ byte '"' → b ≠ byte '\\' → ¬b < 32 → Inside body →
      Inside (b :: body)
  /-- An escape of one letter. -/
  | letter {e : UInt8} {body : Bytes} : (simpleEscape e).isSome → Inside body →
      Inside (byte '\\' :: e :: body)
  /-- An escape of four digits. -/
  | code {a b c d : UInt8} {body : Bytes} : (hexNumber a b c d).isSome → Inside body →
      Inside (byte '\\' :: byte 'u' :: a :: b :: c :: d :: body)

/-- The inside of a string stands for bytes. -/
inductive Means : Bytes → Bytes → Prop where
  /-- Nothing is left. -/
  | nil : Means [] []
  /-- A byte that is not special stands for itself. -/
  | plain {b : UInt8} {body data : Bytes} : b ≠ byte '"' → b ≠ byte '\\' → ¬b < 32 →
      Means body data → Means (b :: body) (b :: data)
  /-- An escape of one letter. -/
  | letter {e b : UInt8} {body data : Bytes} : simpleEscape e = some b → Means body data →
      Means (byte '\\' :: e :: body) (b :: data)
  /-- An escape of four digits writes a code point. -/
  | code {a b c d : UInt8} {n : Nat} {body data : Bytes} : hexNumber a b c d = some n →
      isLowSurrogate n = false → isHighSurrogate n = false → Means body data →
      Means (byte '\\' :: byte 'u' :: a :: b :: c :: d :: body) (codePoint n ++ data)
  /-- Two of them may write a surrogate pair. -/
  | pair {a b c d e f g h : UInt8} {high low : Nat} {body data : Bytes} :
      hexNumber a b c d = some high → isHighSurrogate high → hexNumber e f g h = some low →
      isLowSurrogate low → Means body data →
      Means (byte '\\' :: byte 'u' :: a :: b :: c :: d ::
          byte '\\' :: byte 'u' :: e :: f :: g :: h :: body)
        (codePoint ((high - 0xD800) * 0x400 + (low - 0xDC00) + 0x10000) ++ data)

/-- The inside of a string stands for a text. -/
def StandsFor (body : Bytes) (s : String) : Prop :=
  ∃ data, Means body data ∧ Text.ofBytes? data = some s

/-! ### Values -/

/-- A JSON text taken apart. Strings are kept as they are written between their quotes; the digits
of numbers are of no interest here. -/
inductive Tree where
  /-- The literal `null`. -/
  | null
  /-- The literals `true` and `false`. -/
  | boolean (b : Bool)
  /-- A number. -/
  | number
  /-- A string. -/
  | string (body : Bytes)
  /-- A sequence. -/
  | array (elements : List Tree)
  /-- Names with values. -/
  | object (members : List (Bytes × Tree))

/-- A literal. -/
def wordOf (b : Bool) : Bytes :=
  if b then [byte 't', byte 'r', byte 'u', byte 'e']
  else [byte 'f', byte 'a', byte 'l', byte 's', byte 'e']

mutual

/-- A text leads with a value, which may have blanks before it. -/
inductive Leads : Tree → Bytes → Bytes → Prop where
  /-- A blank. -/
  | blank {tree : Tree} {b : UInt8} {text rest : Bytes} : isSpace b → Leads tree text rest →
      Leads tree (b :: text) rest
  /-- The literal `null`. -/
  | null (rest : Bytes) : Leads .null (byte 'n' :: byte 'u' :: byte 'l' :: byte 'l' :: rest) rest
  /-- The other literals. -/
  | boolean (b : Bool) (rest : Bytes) : Leads (.boolean b) (wordOf b ++ rest) rest
  /-- A number. -/
  | number {text rest : Bytes} : Numeral text rest → Leads .number text rest
  /-- A number below zero. -/
  | negative {text rest : Bytes} : Numeral text rest → Leads .number (byte '-' :: text) rest
  /-- A string. -/
  | string {body : Bytes} (rest : Bytes) : Inside body →
      Leads (.string body) (byte '"' :: (body ++ byte '"' :: rest)) rest
  /-- A sequence. -/
  | array {elements : List Tree} {text rest : Bytes} : LeadsElements true elements text rest →
      Leads (.array elements) (byte '[' :: text) rest
  /-- An object. -/
  | object {members : List (Bytes × Tree)} {text rest : Bytes} :
      LeadsMembers true members text rest → Leads (.object members) (byte '\x7b' :: text) rest

/-- A text leads with the elements of a sequence and its closing bracket. All but the first have a
comma before them. -/
inductive LeadsElements : Bool → List Tree → Bytes → Bytes → Prop where
  /-- There are no more. -/
  | close {first : Bool} {text rest : Bytes} : Blanks text (byte ']' :: rest) →
      LeadsElements first [] text rest
  /-- The first one. -/
  | first {tree : Tree} {elements : List Tree} {text behind rest : Bytes} :
      Leads tree text behind → LeadsElements false elements behind rest →
      LeadsElements true (tree :: elements) text rest
  /-- One more. -/
  | next {tree : Tree} {elements : List Tree} {text element behind rest : Bytes} :
      Blanks text (byte ',' :: element) → Leads tree element behind →
      LeadsElements false elements behind rest → LeadsElements false (tree :: elements) text rest

/-- A text leads with the members of an object and its closing bracket. All but the first have a
comma before them. -/
inductive LeadsMembers : Bool → List (Bytes × Tree) → Bytes → Bytes → Prop where
  /-- There are no more. -/
  | close {first : Bool} {text rest : Bytes} : Blanks text (byte '\x7d' :: rest) →
      LeadsMembers first [] text rest
  /-- The first one. -/
  | first {name : Bytes} {tree : Tree} {members : List (Bytes × Tree)} {text behind rest : Bytes} :
      LeadsMember name tree text behind → LeadsMembers false members behind rest →
      LeadsMembers true ((name, tree) :: members) text rest
  /-- One more. -/
  | next {name : Bytes} {tree : Tree} {members : List (Bytes × Tree)}
      {text member behind rest : Bytes} :
      Blanks text (byte ',' :: member) → LeadsMember name tree member behind →
      LeadsMembers false members behind rest →
      LeadsMembers false ((name, tree) :: members) text rest

/-- A text leads with a name, a colon and a value. -/
inductive LeadsMember : Bytes → Tree → Bytes → Bytes → Prop where
  /-- They follow each other. -/
  | mk {name : Bytes} {tree : Tree} {text colon value rest : Bytes} :
      Blanks text (byte '"' :: (name ++ byte '"' :: colon)) → Inside name →
      Blanks colon (byte ':' :: value) → Leads tree value rest →
      LeadsMember name tree text rest

end

/-- A text is a value with blanks around it. -/
def Spells (tree : Tree) (text : Bytes) : Prop :=
  ∃ rest, Leads tree text rest ∧ Blanks rest []

/-! ### Blanks and literals are read as they should be -/

theorem blanks_skipSpace (text : Bytes) : Blanks text (skipSpace text) := by
  induction text with
  | nil => exact .none []
  | cons b text ih =>
    rw [skipSpace]
    split
    next hb => exact .skip hb ih
    next => exact .none _

theorem Blanks.trans {text behind rest : Bytes} (hb : Blanks text behind) (h : Blanks behind rest) :
    Blanks text rest := by
  induction hb with
  | none => exact h
  | skip hs _ ih => exact .skip hs (ih h)

/-- Blanks may stand before a value. -/
theorem Blanks.leads {tree : Tree} {text behind rest : Bytes} (hb : Blanks text behind)
    (h : Leads tree behind rest) : Leads tree text rest := by
  induction hb with
  | none => exact h
  | skip hs _ ih => exact .blank hs (ih h)

theorem readWord_sound {word text rest : Bytes} (h : readWord word text = .ok rest) :
    text = word ++ rest := by
  induction word generalizing text with
  | nil =>
    cases h
    rfl
  | cons w word ih =>
    cases text with
    | nil => cases h
    | cons b text =>
      rw [readWord] at h
      split at h
      next hb => rw [hb, ih h, List.cons_append]
      next => cases h

theorem readColon_sound {text rest : Bytes} (h : readColon text = .ok rest) :
    Blanks text (byte ':' :: rest) := by
  have hb := blanks_skipSpace text
  unfold readColon at h
  split at h
  next => cases h
  next hs =>
    split at h
    next hc =>
      cases h
      rwa [hs, hc] at hb
    next => cases h

/-! ### Numbers are read as they should be -/

theorem Digits.dropWhile {d : UInt8} (hd : isDigit d) (text : Bytes) :
    Digits (d :: text) (text.dropWhile isDigit) := by
  induction text generalizing d with
  | nil => exact .one [] hd
  | cons b text ih =>
    rw [List.dropWhile_cons]
    split
    next hb => exact .more hd (ih hb)
    next => exact .one _ hd

theorem Digits.of_takeWhile {text : Bytes} (h : ¬(text.takeWhile isDigit).isEmpty) :
    Digits text (text.dropWhile isDigit) := by
  cases text with
  | nil => exact absurd rfl h
  | cons d text =>
    rw [List.takeWhile_cons] at h
    rw [List.dropWhile_cons]
    split at h
    next hd =>
      rw [if_pos hd]
      exact .dropWhile hd text
    next => exact absurd rfl h

theorem readExponentDigits_some {e n : Nat} {text rest : Bytes}
    (h : readExponentDigits e text = (some n, rest)) : rest = text.dropWhile isDigit := by
  induction text generalizing e with
  | nil =>
    cases h
    rfl
  | cons b text ih =>
    rw [readExponentDigits] at h
    rw [List.dropWhile_cons]
    split at h
    next hb =>
      rw [if_pos hb]
      dsimp only at h
      split at h
      · cases h
      · exact ih h
    next hb =>
      cases h
      rw [if_neg hb]

theorem readExponentDigits_none {e : Nat} {text rest : Bytes}
    (h : readExponentDigits e text = (none, rest)) :
    rest.dropWhile isDigit = text.dropWhile isDigit := by
  induction text generalizing e with
  | nil => cases h
  | cons b text ih =>
    rw [readExponentDigits] at h
    rw [List.dropWhile_cons]
    split at h
    next hb =>
      rw [if_pos hb]
      dsimp only at h
      split at h
      · cases h
        rfl
      · exact ih h
    next => cases h

variable {negative : Bool} {significand : Nat} {exponent : Int} {text rest : Bytes} {n : Number}

theorem rounded_rest {x : Option Decimal.Magnitude} (h : rounded negative x text = .ok (n, rest)) :
    rest = text := by
  unfold rounded at h
  split at h
  · cases h
    rfl
  · cases h

theorem signedInteger_rest {k : Nat} (h : signedInteger negative k text = .ok (n, rest)) :
    rest = text := by
  unfold signedInteger at h
  split at h
  · cases h
    rfl
  · split at h
    · cases h
      rfl
    · exact rounded_rest h

theorem readExponent_sound {e : UInt8} (he : isExponentLetter e)
    (h : readExponent negative significand exponent text = .ok (n, rest)) :
    Exponent (e :: text) rest := by
  unfold readExponent at h
  split at h
  next minus digits hsign =>
    have hexponent (hdigits : Digits digits rest) : Exponent (e :: text) rest := by
      split at hsign
      next b text =>
        split at hsign
        next hplus =>
          cases hsign
          exact .signed he (.inl hplus) hdigits
        next =>
          split at hsign
          next hminus =>
            cases hsign
            exact .signed he (.inr hminus) hdigits
          next =>
            cases hsign
            exact .unsigned he hdigits
      next =>
        cases hsign
        exact .unsigned he hdigits
    -- whatever the sign was, digits follow it
    clear hsign
    split at h
    next => cases h
    next b digits =>
      split at h
      next hb =>
        refine hexponent ?_
        split at h
        next hread =>
          rw [rounded_rest h, readExponentDigits_some hread, List.dropWhile_cons, if_pos hb]
          exact .dropWhile hb digits
        next hread =>
          split at h
          · cases h
          · cases h
            rw [readExponentDigits_none hread, List.dropWhile_cons, if_pos hb]
            exact .dropWhile hb digits
      next => cases h

theorem readScaled_sound (h : readScaled negative significand exponent text = .ok (n, rest)) :
    Exponent text rest := by
  unfold readScaled at h
  split at h
  next b text =>
    split at h
    next he => exact readExponent_sound he h
    next => exact rounded_rest h ▸ .none _
  next => exact rounded_rest h ▸ .none _

/-- What is read behind a point is a fraction, perhaps with an exponent. -/
theorem readFraction_sound (h : readFraction negative significand exponent text = .ok (n, rest)) :
    ∃ letter, Fraction (byte '.' :: text) letter ∧ Exponent letter rest := by
  unfold readFraction at h
  dsimp only at h
  split at h
  next => cases h
  next hne =>
    exact ⟨_, .some (.of_takeWhile hne), readScaled_sound h⟩

theorem readAfterInteger_sound {digits : Bytes}
    (h : readAfterInteger negative digits text = .ok (n, rest)) :
    ∃ letter, Fraction text letter ∧ Exponent letter rest := by
  unfold readAfterInteger at h
  dsimp only at h
  split at h
  next b text =>
    split at h
    next hpoint => exact hpoint ▸ readFraction_sound h
    next =>
      refine ⟨_, .none _, ?_⟩
      split at h
      next he => exact readExponent_sound he h
      next =>
        split at h
        · exact signedInteger_rest h ▸ .none _
        · exact rounded_rest h ▸ .none _
  next =>
    refine ⟨_, .none _, ?_⟩
    split at h
    · exact signedInteger_rest h ▸ .none _
    · exact rounded_rest h ▸ .none _

/-- What is read as a number is one. -/
theorem readNumber_sound (h : readNumber negative text = .ok (n, rest)) : Numeral text rest := by
  unfold readNumber at h
  split at h
  next => cases h
  next b text =>
    split at h
    next hzero =>
      subst hzero
      split at h
      next d text =>
        split at h
        next => cases h
        next =>
          obtain ⟨letter, hfraction, hexponent⟩ := readAfterInteger_sound h
          exact ⟨.zero _, hfraction, hexponent⟩
      next =>
        obtain ⟨letter, hfraction, hexponent⟩ := readAfterInteger_sound h
        exact ⟨.zero _, hfraction, hexponent⟩
    next hzero =>
      split at h
      next hb =>
        obtain ⟨letter, hfraction, hexponent⟩ := readAfterInteger_sound h
        rw [List.dropWhile_cons, if_pos hb] at hfraction
        exact ⟨.digits hzero (.dropWhile hb text), hfraction, hexponent⟩
      next => cases h

/-! ### Numbers are skipped as they should be -/

theorem skipExponent_sound {e : UInt8} (he : isExponentLetter e)
    (h : skipExponent text = .ok rest) : Exponent (e :: text) rest := by
  unfold skipExponent at h
  extract_lets digits at h
  have hexponent (hdigits : Digits digits rest) : Exponent (e :: text) rest := by
    unfold digits at hdigits
    split at hdigits
    next b text =>
      split at hdigits
      next hb => exact .signed he hb hdigits
      next => exact .unsigned he hdigits
    next => exact .unsigned he hdigits
  clear_value digits
  split at h
  next => cases h
  next b digits =>
    split at h
    next hb =>
      cases h
      exact hexponent (.dropWhile hb digits)
    next => cases h

theorem skipFraction_sound (h : skipFraction text = .ok rest) :
    ∃ letter, Fraction (byte '.' :: text) letter ∧ Exponent letter rest := by
  unfold skipFraction at h
  split at h
  next => cases h
  next hne =>
    refine ⟨_, .some (.of_takeWhile hne), ?_⟩
    split at h
    next b behind heq =>
      rw [heq]
      split at h
      next he => exact skipExponent_sound he h
      next =>
        cases h
        exact .none _
    next heq =>
      cases h
      rw [heq]
      exact .none _

/-- What is skipped as a number is one. -/
theorem skipNumber_sound (h : skipNumber text = .ok rest) : Numeral text rest := by
  unfold skipNumber at h
  extract_lets behind at h
  have hbehind (text : Bytes) (h : behind text = .ok rest) :
      ∃ letter, Fraction text letter ∧ Exponent letter rest := by
    unfold behind at h
    split at h
    next b text =>
      split at h
      next hpoint => exact hpoint ▸ skipFraction_sound h
      next =>
        refine ⟨_, .none _, ?_⟩
        split at h
        next he => exact skipExponent_sound he h
        next =>
          cases h
          exact .none _
    next =>
      cases h
      exact ⟨_, .none _, .none _⟩
  clear_value behind
  split at h
  next => cases h
  next b text =>
    split at h
    next hzero =>
      subst hzero
      split at h
      next d text =>
        split at h
        next => cases h
        next =>
          obtain ⟨letter, hfraction, hexponent⟩ := hbehind _ h
          exact ⟨.zero _, hfraction, hexponent⟩
      next =>
        obtain ⟨letter, hfraction, hexponent⟩ := hbehind _ h
        exact ⟨.zero _, hfraction, hexponent⟩
    next hzero =>
      split at h
      next hb =>
        obtain ⟨letter, hfraction, hexponent⟩ := hbehind _ h
        exact ⟨.digits hzero (.dropWhile hb text), hfraction, hexponent⟩
      next => cases h

/-! ### Strings are read as they should be -/

theorem Means.inside {body data : Bytes} (h : Means body data) : Inside body := by
  induction h with
  | nil => exact .nil
  | plain hq hs hc _ ih => exact .plain hq hs hc ih
  | letter he _ ih => exact .letter (Option.isSome_of_eq_some he) ih
  | code hn _ _ _ ih => exact .code (Option.isSome_of_eq_some hn) ih
  | pair hh _ hl _ _ ih =>
    exact .code (Option.isSome_of_eq_some hh) (.code (Option.isSome_of_eq_some hl) ih)

/-- What is read as the second half of a surrogate pair goes with the first half before it. -/
theorem readLowSurrogate_sound {a b c d : UInt8} {high : Nat} {escaped : Bytes}
    (hn : hexNumber a b c d = some high) (hh : isHighSurrogate high)
    (h : readLowSurrogate high text = .ok (escaped, rest)) :
    ∃ escape, text = escape ++ rest ∧ ∀ body data, Means body data →
      Means (byte '\\' :: byte 'u' :: a :: b :: c :: d :: (escape ++ body)) (escaped ++ data) := by
  unfold readLowSurrogate at h
  split at h
  next => cases h
  next s text =>
    split at h
    next => cases h
    next hs =>
      split at h
      next => cases h
      next u text =>
        split at h
        next => cases h
        next hu =>
          split at h
          next e f g k text =>
            split at h
            next => cases h
            next low hlow =>
              split at h
              next hl =>
                obtain ⟨rfl, rfl⟩ := Prod.mk.inj (Except.ok.inj h)
                obtain rfl := Decidable.not_not.mp hs
                obtain rfl := Decidable.not_not.mp hu
                exact ⟨[byte '\\', byte 'u', e, f, g, k], rfl, fun _ _ => .pair hn hh hlow hl⟩
              next => cases h
          next => cases h

/-- What is read as an escape is one, with what it stands for. -/
theorem readEscape_sound {escaped : Bytes} (h : readEscape text = .ok (escaped, rest)) :
    ∃ escape, text = escape ++ rest ∧ ∀ body data, Means body data →
      Means (byte '\\' :: (escape ++ body)) (escaped ++ data) := by
  unfold readEscape at h
  split at h
  next => cases h
  next e text =>
    split at h
    next he =>
      subst he
      split at h
      next a b c d text =>
        split at h
        next => cases h
        next n hn =>
          split at h
          next => cases h
          next hl =>
            split at h
            next hh =>
              obtain ⟨escape, rfl, hmeans⟩ := readLowSurrogate_sound hn hh h
              exact ⟨byte 'u' :: a :: b :: c :: d :: escape, rfl, hmeans⟩
            next hh =>
              cases h
              refine ⟨[byte 'u', a, b, c, d], rfl, fun _ _ hm => .code hn ?_ ?_ hm⟩
              · exact Bool.eq_false_iff.mpr hl
              · exact Bool.eq_false_iff.mpr hh
      next => cases h
    next =>
      split at h
      next b hb =>
        cases h
        exact ⟨[e], rfl, fun _ _ hm => .letter hb hm⟩
      next => cases h

theorem bind_eq_ok {α β : Type} {x : Except Fault α} {f : α → Except Fault β} {b : β} :
    x >>= f = .ok b ↔ ∃ a, x = .ok a ∧ f a = .ok b := by
  cases x with
  | error e => exact ⟨nofun, nofun⟩
  | ok a => exact ⟨fun h => ⟨a, rfl, h⟩, by rintro ⟨_, ⟨⟩, h⟩; exact h⟩

theorem readStringBytes_sound {fuel : Nat} {data : Bytes}
    (h : readStringBytes fuel text = .ok (data, rest)) :
    ∃ body, Means body data ∧ text = body ++ byte '"' :: rest := by
  induction fuel generalizing text data with
  | zero => cases text <;> cases h
  | succ fuel ih =>
    cases text with
    | nil => cases h
    | cons b text =>
      rw [readStringBytes] at h
      split at h
      next hq =>
        cases h
        exact ⟨[], .nil, by rw [hq, List.nil_append]⟩
      next hq =>
        split at h
        next hs =>
          obtain ⟨⟨escaped, behind⟩, hescape, h⟩ := bind_eq_ok.mp h
          obtain ⟨⟨more, _⟩, hmore, h⟩ := bind_eq_ok.mp h
          cases h
          obtain ⟨escape, rfl, hmeans⟩ := readEscape_sound hescape
          obtain ⟨body, hbody, rfl⟩ := ih hmore
          exact ⟨_, hmeans body more hbody, by rw [hs, List.cons_append, List.append_assoc]⟩
        next hs =>
          split at h
          next => cases h
          next hc =>
            obtain ⟨⟨more, _⟩, hmore, h⟩ := bind_eq_ok.mp h
            cases h
            obtain ⟨body, hbody, rfl⟩ := ih hmore
            exact ⟨_, .plain hq hs hc hbody, rfl⟩

/-- What is read as a string is one, with what it stands for. -/
theorem readString_sound {s : String} (h : readString text = .ok (s, rest)) :
    ∃ body, Inside body ∧ StandsFor body s ∧ text = body ++ byte '"' :: rest := by
  obtain ⟨⟨data, _⟩, hdata, hdecode⟩ := bind_eq_ok.mp h
  obtain ⟨body, hbody, rfl⟩ := readStringBytes_sound hdata
  dsimp only at hdecode
  split at hdecode
  next hs =>
    cases hdecode
    exact ⟨body, hbody.inside, ⟨data, hbody, hs⟩, rfl⟩
  next => cases hdecode

/-- What is skipped as a string is one. -/
theorem skipString_sound (h : skipString text = .ok rest) :
    ∃ body, Inside body ∧ text = body ++ byte '"' :: rest := by
  fun_induction skipString text with
  | case2 text =>
    cases h
    exact ⟨[], .nil, rfl⟩
  | case4 a b c d text n hn _ ih =>
    obtain ⟨body, hbody, rfl⟩ := ih h
    exact ⟨_, .code (Option.isSome_of_eq_some hn) hbody, rfl⟩
  | case7 e text _ b hb _ ih =>
    obtain ⟨body, hbody, rfl⟩ := ih h
    exact ⟨_, .letter (Option.isSome_of_eq_some hb) hbody, rfl⟩
  | case10 b text hq hs hc ih =>
    obtain ⟨body, hbody, rfl⟩ := ih h
    exact ⟨_, .plain hq hs hc hbody, rfl⟩
  | _ => cases h

end Workbench.Json
