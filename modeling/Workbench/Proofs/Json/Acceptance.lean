import Mathlib.Data.List.Forall2
import Workbench.Json.Record
import Workbench.Proofs.Json.Grammar

/-!
# What the readers accept

Every reader of values keeps to the grammar, those that skip as well as those that read: a text
that is accepted leads with a value, and what is made of the value is what it means. Loops over
elements and members are dealt with once, whatever is done with an element or a member.

* `Sound` — a reader keeps to the grammar.
* `readElements_sound`, `readMembers_sound` — so do the loops, if their parts do.
* `skipValue_sound`, `readValue_sound` — so do the readers of arbitrary values.
-/

namespace Workbench.Json

open Workbench.Text (Bytes)

/-- Where a reader goes on, it has read a value, and what it makes of it is what the value means.
-/
def Sound {α : Type} (one : Bytes → Except Fault (α × Bytes)) (means : Tree → α → Prop) : Prop :=
  ∀ ⦃text : Bytes⦄ ⦃x : α⦄ ⦃rest : Bytes⦄, one text = .ok (x, rest) →
    ∃ tree, Leads tree text rest ∧ means tree x

/-- A name as it is written, with the text that it stands for. -/
structure Named (written : Bytes × Tree) (read : String × Tree) : Prop where
  /-- The name stands for the text. -/
  name : StandsFor written.1 read.1
  /-- The value is the same. -/
  tree : written.2 = read.2

namespace Tree

/-- A tree is that of a text. -/
def IsText : Tree → String → Prop
  | .string body, s => StandsFor body s
  | _, _ => False

/-- A tree is that of a sequence of texts. -/
def AreTexts : Tree → List String → Prop
  | .array elements, texts => List.Forall₂ IsText elements texts
  | _, _ => False

/-- A tree is the literal `null`, or something else. -/
def OrNull {α : Type} (means : Tree → α → Prop) : Tree → Option α → Prop
  | tree, none => tree = .null
  | tree, some x => means tree x

/-- A tree and a value are of the same kind, and the same if they are literals or texts. -/
def Agrees : Tree → Value → Prop
  | .null, .null => True
  | .boolean b, .boolean c => b = c
  | .number, .number _ => True
  | .string body, .string s => StandsFor body s
  | .array _, .array _ => True
  | .object _, .object _ => True
  | _, _ => False

end Tree

/-! ### Loops -/

variable {first : Bool} {text rest behind after : Bytes}

/-- No more elements means that the closing bracket comes next. -/
theorem nextElement_finished (h : nextElement first text = .ok (.finished rest)) :
    ∃ after, rest = byte ']' :: after ∧ Blanks text rest := by
  have hb := blanks_skipSpace text
  unfold nextElement at h
  split at h
  next => cases h
  next b behind hs =>
    split at h
    next hclose =>
      cases h
      exact ⟨behind, by rw [hclose], hs ▸ hb⟩
    next =>
      split at h
      · cases h
      · split at h
        · split at h
          · cases h
          · split at h <;> cases h
        · cases h

/-- An element that comes next may be added in front of those that come later. -/
theorem nextElement_more {tree : Tree} {elements : List Tree}
    (h : nextElement first text = .ok (.more rest)) (htree : Leads tree rest behind)
    (helements : LeadsElements false elements behind after) :
    LeadsElements first (tree :: elements) text after := by
  have hb := blanks_skipSpace text
  unfold nextElement at h
  split at h
  next => cases h
  next b element hs =>
    rw [hs] at hb
    split at h
    next => cases h
    next =>
      split at h
      next hfirst =>
        cases h
        rw [hfirst]
        exact .first (hb.leads htree) helements
      next hfirst =>
        split at h
        next hcomma =>
          have hc := blanks_skipSpace element
          split at h
          next => cases h
          next c element hs =>
            split at h
            next => cases h
            next =>
              cases h
              rw [Bool.eq_false_iff.mpr hfirst]
              exact .next (hcomma ▸ hb) ((hs ▸ hc).leads htree) helements
        next => cases h

/-- Where elements are read, there are elements. -/
theorem readElements_sound {α : Type} {one : Bytes → Except Fault (α × Bytes)}
    {means : Tree → α → Prop} (hone : Sound one means) {fuel : Nat} {xs : List α}
    (h : readElements one fuel first text = .ok (xs, rest)) :
    ∃ elements, LeadsElements first elements text rest ∧ List.Forall₂ means elements xs := by
  induction fuel generalizing first text xs with
  | zero => cases h
  | succ fuel ih =>
    rw [readElements] at h
    split at h
    next => cases h
    next hnext =>
      cases h
      obtain ⟨after, rfl, hclose⟩ := nextElement_finished hnext
      exact ⟨[], .close hclose, .nil⟩
    next element hnext =>
      split at h
      next => cases h
      next x behind hx =>
        split at h
        next => cases h
        next xs rest hxs =>
          cases h
          obtain ⟨tree, htree, hmeans⟩ := hone hx
          obtain ⟨elements, helements, hall⟩ := ih hxs
          exact ⟨_, nextElement_more hnext htree helements, .cons hmeans hall⟩

/-- No more members means that the closing bracket comes next. -/
theorem nextKey_finished (h : nextKey first text = .ok (.finished rest)) :
    ∃ after, rest = byte '\x7d' :: after ∧ Blanks text rest := by
  have hb := blanks_skipSpace text
  unfold nextKey at h
  extract_lets key at h
  have hkey (text : Bytes) : key text ≠ .ok (.finished rest) := by
    unfold key
    split
    · nofun
    · split
      · nofun
      · split <;> nofun
  clear_value key
  split at h
  next => cases h
  next b behind hs =>
    split at h
    next hclose =>
      cases h
      exact ⟨behind, by rw [hclose], hs ▸ hb⟩
    next =>
      split at h
      · exact absurd h (hkey _)
      · split at h
        · exact absurd h (hkey _)
        · cases h

/-- A member whose name comes next may be added in front of those that come later. -/
theorem nextKey_more {name colon value : Bytes} {tree : Tree} {members : List (Bytes × Tree)}
    (h : nextKey first text = .ok (.more (name ++ byte '"' :: colon))) (hname : Inside name)
    (hcolon : Blanks colon (byte ':' :: value)) (htree : Leads tree value behind)
    (hmembers : LeadsMembers false members behind after) :
    LeadsMembers first ((name, tree) :: members) text after := by
  have hb := blanks_skipSpace text
  unfold nextKey at h
  extract_lets key at h
  have hkey (text : Bytes) (h : key text = .ok (.more (name ++ byte '"' :: colon))) :
      text = byte '"' :: (name ++ byte '"' :: colon) := by
    unfold key at h
    split at h
    next => cases h
    next =>
      split at h
      next hq =>
        cases h
        rw [hq]
      next => split at h <;> cases h
  clear_value key
  split at h
  next => cases h
  next b member hs =>
    rw [hs] at hb
    split at h
    next => cases h
    next =>
      split at h
      next hfirst =>
        rw [hkey _ h] at hb
        rw [hfirst]
        exact .first ⟨hb, hname, hcolon, htree⟩ hmembers
      next hfirst =>
        split at h
        next hcomma =>
          have hc := blanks_skipSpace member
          rw [hkey _ h] at hc
          rw [Bool.eq_false_iff.mpr hfirst]
          exact .next (hcomma ▸ hb) ⟨hc, hname, hcolon, htree⟩ hmembers
        next => cases h

/-- Where more members are read, there are members, and what each of them keeps is true in the end.
-/
theorem readMembers_from {σ : Type} {member : σ → String → Bytes → Except Fault (σ × Bytes)}
    (tells : σ → List (String × Tree) → Prop)
    (hmember : ∀ ⦃state before name text state' rest⦄, tells state before →
      member state name text = .ok (state', rest) →
      ∃ value tree, Blanks text (byte ':' :: value) ∧ Leads tree value rest ∧
        tells state' (before ++ [(name, tree)]))
    {fuel : Nat} {state state' : σ} {before : List (String × Tree)} (hbefore : tells state before)
    (h : readMembers member fuel first state text = .ok (state', rest)) :
    ∃ members named, LeadsMembers first members text rest ∧ List.Forall₂ Named members named ∧
      tells state' (before ++ named) := by
  induction fuel generalizing first text state before with
  | zero => cases h
  | succ fuel ih =>
    rw [readMembers] at h
    split at h
    next => cases h
    next hnext =>
      cases h
      obtain ⟨after, rfl, hclose⟩ := nextKey_finished hnext
      exact ⟨[], [], .close hclose, .nil, by rwa [List.append_nil]⟩
    next key hnext =>
      split at h
      next => cases h
      next name colon hname =>
        split at h
        next => cases h
        next state behind hstate =>
          obtain ⟨body, hinside, hstands, rfl⟩ := readString_sound hname
          obtain ⟨value, tree, hcolon, htree, htells⟩ := hmember hbefore hstate
          obtain ⟨members, named, hmembers, hall, hafter⟩ := ih htells h
          have hnamed : Named (body, tree) (name, tree) := ⟨hstands, rfl⟩
          have hleads := nextKey_more hnext hinside hcolon htree hmembers
          rw [List.append_assoc] at hafter
          exact ⟨_, _, hleads, .cons hnamed hall, hafter⟩

/-- Where members are read, there are members, and what each of them keeps is true in the end. -/
theorem readMembers_sound {σ : Type} {member : σ → String → Bytes → Except Fault (σ × Bytes)}
    (tells : σ → List (String × Tree) → Prop)
    (hmember : ∀ ⦃state before name text state' rest⦄, tells state before →
      member state name text = .ok (state', rest) →
      ∃ value tree, Blanks text (byte ':' :: value) ∧ Leads tree value rest ∧
        tells state' (before ++ [(name, tree)]))
    {fuel : Nat} {state state' : σ} (hempty : tells state [])
    (h : readMembers member fuel first state text = .ok (state', rest)) :
    ∃ members named, LeadsMembers first members text rest ∧ List.Forall₂ Named members named ∧
      tells state' named :=
  readMembers_from tells hmember hempty h

/-! ### Skipping -/

/-- Where something is skipped, there is a value. -/
def SkipSound (one : Bytes → Except Fault Bytes) : Prop :=
  ∀ ⦃text rest : Bytes⦄, one text = .ok rest → ∃ tree, Leads tree text rest

section

variable {one : Bytes → Except Fault Bytes}

theorem skipElements_sound (hone : SkipSound one) {fuel : Nat}
    (h : skipElements one fuel text = .ok rest) :
    ∃ elements, LeadsElements false elements text rest := by
  induction fuel generalizing text with
  | zero => cases h
  | succ fuel ih =>
    have hb := blanks_skipSpace text
    rw [skipElements] at h
    split at h
    next => cases h
    next b element hs =>
      rw [hs] at hb
      split at h
      next hclose =>
        cases h
        exact ⟨[], .close (hclose ▸ hb)⟩
      next =>
        split at h
        next hcomma =>
          split at h
          next => cases h
          next hskip =>
            obtain ⟨tree, htree⟩ := hone hskip
            obtain ⟨elements, helements⟩ := ih h
            exact ⟨_, .next (hcomma ▸ hb) htree helements⟩
        next => cases h

theorem Blanks.member {name : Bytes} {tree : Tree} (hb : Blanks text behind)
    (h : LeadsMember name tree behind rest) : LeadsMember name tree text rest := by
  obtain ⟨hquote, hname, hcolon, htree⟩ := h
  exact ⟨hb.trans hquote, hname, hcolon, htree⟩

theorem skipMember_sound (hone : SkipSound one) (h : skipMember one text = .ok rest) :
    ∃ name tree, LeadsMember name tree text rest := by
  have hb := blanks_skipSpace text
  unfold skipMember at h
  split at h
  next => cases h
  next b member hs =>
    rw [hs] at hb
    split at h
    next hq =>
      split at h
      next => cases h
      next value hkey =>
        unfold skipKey at hkey
        split at hkey
        next => cases hkey
        next colon hname =>
          obtain ⟨name, hinside, rfl⟩ := skipString_sound hname
          obtain ⟨tree, htree⟩ := hone h
          exact ⟨name, tree, hq ▸ hb, hinside, readColon_sound hkey, htree⟩
    next => cases h

theorem skipMembers_sound (hone : SkipSound one) {fuel : Nat}
    (h : skipMembers one fuel text = .ok rest) :
    ∃ members, LeadsMembers false members text rest := by
  induction fuel generalizing text with
  | zero => cases h
  | succ fuel ih =>
    have hb := blanks_skipSpace text
    rw [skipMembers] at h
    split at h
    next => cases h
    next b member hs =>
      rw [hs] at hb
      split at h
      next hclose =>
        cases h
        exact ⟨[], .close (hclose ▸ hb)⟩
      next =>
        split at h
        next hcomma =>
          split at h
          next => cases h
          next hskip =>
            obtain ⟨name, tree, hmember⟩ := skipMember_sound hone hskip
            obtain ⟨members, hmembers⟩ := ih h
            exact ⟨_, .next (hcomma ▸ hb) hmember hmembers⟩
        next => cases h

/-- What is skipped between brackets is a sequence. -/
theorem skipArray_sound (hone : SkipSound one)
    (h : (match skipSpace text with
      | [] => .error (.after .endInList [])
      | c :: rest =>
        if c = byte ']' then .ok rest
        else
          match one (c :: rest) with
          | .error e => .error e
          | .ok rest => skipElements one (rest.length + 1) rest : Except Fault Bytes) = .ok rest) :
    ∃ tree, Leads tree (byte '[' :: text) rest := by
  have hb := blanks_skipSpace text
  split at h
  next => cases h
  next c element hs =>
    rw [hs] at hb
    split at h
    next hclose =>
      cases h
      exact ⟨.array [], .array (.close (hclose ▸ hb))⟩
    next =>
      split at h
      next => cases h
      next hskip =>
        obtain ⟨tree, htree⟩ := hone hskip
        obtain ⟨elements, helements⟩ := skipElements_sound hone h
        exact ⟨.array (tree :: elements), .array (.first (hb.leads htree) helements)⟩

/-- What is skipped between braces is an object. -/
theorem skipObject_sound (hone : SkipSound one)
    (h : (match skipSpace text with
      | [] => .error (.after .endInObject [])
      | c :: rest =>
        if c = byte '\x7d' then .ok rest
        else
          match skipMember one (c :: rest) with
          | .error e => .error e
          | .ok rest => skipMembers one (rest.length + 1) rest : Except Fault Bytes) = .ok rest) :
    ∃ tree, Leads tree (byte '\x7b' :: text) rest := by
  have hb := blanks_skipSpace text
  split at h
  next => cases h
  next c member hs =>
    rw [hs] at hb
    split at h
    next hclose =>
      cases h
      exact ⟨.object [], .object (.close (hclose ▸ hb))⟩
    next =>
      split at h
      next => cases h
      next hskip =>
        obtain ⟨name, tree, hmember⟩ := skipMember_sound hone hskip
        obtain ⟨members, hmembers⟩ := skipMembers_sound hone h
        exact ⟨.object ((name, tree) :: members), .object (.first (hb.member hmember) hmembers)⟩

end

/-- What is skipped is a value, however deep the brackets are nested. -/
theorem skipNested_sound (fuel : Nat) : SkipSound (skipNested fuel) := by
  induction fuel with
  | zero => exact fun _ _ h => nomatch h
  | succ fuel ih =>
    intro text rest h
    have hb := blanks_skipSpace text
    rw [skipNested] at h
    split at h
    next => cases h
    next b text hs =>
      rw [hs] at hb
      suffices ∃ tree, Leads tree (b :: text) rest by
        obtain ⟨tree, htree⟩ := this
        exact ⟨tree, hb.leads htree⟩
      -- the first byte tells which kind of value it is
      by_cases hn : b = byte 'n'
      · rw [if_pos hn] at h
        rw [hn, readWord_sound h]
        exact ⟨.null, .null rest⟩
      rw [if_neg hn] at h
      by_cases ht : b = byte 't'
      · rw [if_pos ht] at h
        rw [ht, readWord_sound h]
        exact ⟨.boolean true, .boolean true rest⟩
      rw [if_neg ht] at h
      by_cases hf : b = byte 'f'
      · rw [if_pos hf] at h
        rw [hf, readWord_sound h]
        exact ⟨.boolean false, .boolean false rest⟩
      rw [if_neg hf] at h
      by_cases hminus : b = byte '-'
      · rw [if_pos hminus] at h
        exact ⟨.number, hminus ▸ .negative (skipNumber_sound h)⟩
      rw [if_neg hminus] at h
      by_cases hdigit : isDigit b
      · rw [if_pos hdigit] at h
        exact ⟨.number, .number (skipNumber_sound h)⟩
      rw [if_neg hdigit] at h
      by_cases hquote : b = byte '"'
      · rw [if_pos hquote] at h
        obtain ⟨body, hinside, rfl⟩ := skipString_sound h
        exact ⟨.string body, hquote ▸ .string rest hinside⟩
      rw [if_neg hquote] at h
      by_cases hlist : b = byte '['
      · rw [if_pos hlist] at h
        rw [hlist]
        exact skipArray_sound ih h
      rw [if_neg hlist] at h
      by_cases hbrace : b = byte '\x7b'
      · rw [if_pos hbrace] at h
        rw [hbrace]
        exact skipObject_sound ih h
      rw [if_neg hbrace] at h
      cases h

theorem skipValue_sound : SkipSound skipValue := fun _ _ h => skipNested_sound _ h

/-! ### Reading -/

/-- What is read as a value without structure is one. -/
theorem readScalar?_sound {b : UInt8} {v : Value}
    (h : readScalar? b text = some (.ok (v, rest))) :
    ∃ tree, Leads tree (b :: text) rest ∧ tree.Agrees v := by
  unfold readScalar? at h
  extract_lets literal number at h
  have hliteral {word : Bytes} {w : Value} (h : some (literal word w) = some (.ok (v, rest))) :
      v = w ∧ text = word ++ rest := by
    replace h := Option.some.inj h
    unfold literal at h
    split at h
    next hword =>
      cases h
      exact ⟨rfl, readWord_sound hword⟩
    next => cases h
  have hnumber {negative : Bool} {text : Bytes}
      (h : some (number negative text) = some (.ok (v, rest))) :
      Numeral text rest ∧ Tree.number.Agrees v := by
    replace h := Option.some.inj h
    unfold number at h
    split at h
    next hn =>
      cases h
      exact ⟨readNumber_sound hn, trivial⟩
    next => cases h
  clear_value literal number
  by_cases hn : b = byte 'n'
  · rw [if_pos hn] at h
    obtain ⟨rfl, rfl⟩ := hliteral h
    exact ⟨.null, hn ▸ .null rest, trivial⟩
  rw [if_neg hn] at h
  by_cases ht : b = byte 't'
  · rw [if_pos ht] at h
    obtain ⟨rfl, rfl⟩ := hliteral h
    exact ⟨.boolean true, ht ▸ .boolean true rest, rfl⟩
  rw [if_neg ht] at h
  by_cases hf : b = byte 'f'
  · rw [if_pos hf] at h
    obtain ⟨rfl, rfl⟩ := hliteral h
    exact ⟨.boolean false, hf ▸ .boolean false rest, rfl⟩
  rw [if_neg hf] at h
  by_cases hminus : b = byte '-'
  · rw [if_pos hminus] at h
    obtain ⟨hnumeral, hv⟩ := hnumber h
    exact ⟨.number, hminus ▸ .negative hnumeral, hv⟩
  rw [if_neg hminus] at h
  by_cases hdigit : isDigit b
  · rw [if_pos hdigit] at h
    obtain ⟨hnumeral, hv⟩ := hnumber h
    exact ⟨.number, .number hnumeral, hv⟩
  rw [if_neg hdigit] at h
  split at h
  next hquote =>
    replace h := Option.some.inj h
    split at h
    next hs =>
      cases h
      obtain ⟨body, hinside, hstands, rfl⟩ := readString_sound hs
      exact ⟨.string body, hquote ▸ .string rest hinside, hstands⟩
    next => cases h
  next => cases h

/-- What is read as a value is one, if that is so wherever one bracket less may be opened. -/
theorem readValue_step {room : Nat}
    (inner : ∀ less, room = less + 1 → Sound (readValue less) Tree.Agrees) :
    Sound (readValue room) Tree.Agrees := by
  intro text v rest h
  have hb := blanks_skipSpace text
  unfold readValue at h
  split at h
  next => cases h
  next b text hs =>
    rw [hs] at hb
    split at h
    next result hscalar =>
      subst h
      obtain ⟨tree, htree, hv⟩ := readScalar?_sound hscalar
      exact ⟨tree, hb.leads htree, hv⟩
    next =>
      split at h
      next hlist =>
        split at h
        next => cases h
        next room =>
          split at h
          next hread =>
            cases h
            obtain ⟨elements, helements, -⟩ := readElements_sound (inner room rfl) hread
            exact ⟨.array elements, hb.leads (hlist ▸ .array helements), trivial⟩
          next => cases h
      next =>
        split at h
        next hbrace =>
          split at h
          next => cases h
          next room =>
            dsimp only at h
            split at h
            next hread =>
              cases h
              -- nothing is to be remembered of the members
              obtain ⟨members, -, hmembers, -, -⟩ := by
                refine readMembers_sound (fun _ _ => True) ?_ trivial hread
                intro members before name text members' rest _ h
                split at h
                next => cases h
                next value hcolon =>
                  split at h
                  next hvalue =>
                    cases h
                    obtain ⟨tree, htree, -⟩ := inner room rfl hvalue
                    exact ⟨value, tree, readColon_sound hcolon, htree, trivial⟩
                  next => cases h
              exact ⟨.object members, hb.leads (hbrace ▸ .object hmembers), trivial⟩
            next => cases h
        next => cases h

/-- What is read as a value is one. -/
theorem readValue_sound (room : Nat) : Sound (readValue room) Tree.Agrees := by
  induction room with
  | zero => exact readValue_step nofun
  | succ room ih =>
    refine readValue_step fun less hless => ?_
    obtain rfl := Nat.succ.inj hless
    exact ih

/-- What is read as a text is one. -/
theorem readText_sound : Sound readText Tree.IsText := by
  intro text s rest h
  have hb := blanks_skipSpace text
  unfold readText at h
  split at h
  next => cases h
  next b text hs =>
    rw [hs] at hb
    split at h
    next hquote =>
      obtain ⟨body, hinside, hstands, rfl⟩ := readString_sound h
      exact ⟨.string body, hb.leads (hquote ▸ .string rest hinside), hstands⟩
    next => cases h

/-- What is read as an integer is a number. -/
theorem readNatural_sound : Sound readNatural fun tree _ => tree = .number := by
  intro text n rest h
  have hb := blanks_skipSpace text
  unfold readNatural at h
  split at h
  next => cases h
  next b text hs =>
    rw [hs] at hb
    split at h
    next hfirst =>
      have hnumeral {n : Number} {rest : Bytes}
          (h : readNumber (b == byte '-') (if b = byte '-' then text else b :: text) =
            .ok (n, rest)) : Leads .number (b :: text) rest := by
        by_cases hminus : b = byte '-'
        · rw [if_pos hminus] at h
          exact hminus ▸ .negative (readNumber_sound h)
        · rw [if_neg hminus] at h
          exact .number (readNumber_sound h)
      split at h
      next i rest hi =>
        split at h
        next => cases h
        next =>
          cases h
          exact ⟨.number, hb.leads (hnumeral hi), rfl⟩
      next => cases h
      next => cases h
    next => cases h

/-- What is read as a value or `null` is one of both. -/
theorem readOptional_sound {α : Type} {one : Bytes → Except Fault (α × Bytes)}
    {means : Tree → α → Prop} (hone : Sound one means) :
    Sound (readOptional one) (Tree.OrNull means) := by
  intro text x rest h
  have hb := blanks_skipSpace text
  unfold readOptional at h
  split at h
  next b text hs =>
    rw [hs] at hb
    split at h
    next hn =>
      split at h
      next hword =>
        cases h
        rw [hn, readWord_sound hword] at hb
        exact ⟨.null, hb.leads (.null rest), rfl⟩
      next => cases h
    next =>
      split at h
      next hx =>
        cases h
        obtain ⟨tree, htree, hmeans⟩ := hone hx
        exact ⟨tree, hb.leads htree, hmeans⟩
      next => cases h
  next hs =>
    rw [hs] at hb
    split at h
    next hx =>
      cases h
      obtain ⟨tree, htree, hmeans⟩ := hone hx
      exact ⟨tree, hb.leads htree, hmeans⟩
    next => cases h

/-- What is read as a sequence of texts is one. -/
theorem readTexts_sound (room : Nat) : Sound (readTexts room) Tree.AreTexts := by
  intro text texts rest h
  have hb := blanks_skipSpace text
  unfold readTexts at h
  split at h
  next => cases h
  next b text hs =>
    rw [hs] at hb
    split at h
    next hlist =>
      split at h
      next => cases h
      next =>
        obtain ⟨elements, helements, hall⟩ := readElements_sound readText_sound h
        exact ⟨.array elements, hb.leads (hlist ▸ .array helements), hall⟩
    next => cases h

/-- What is read as a whole text is a value with blanks around it. -/
theorem readWhole_sound {α : Type} {one : Bytes → Except Fault (α × Bytes)}
    {means : Tree → α → Prop} (hone : Sound one means) {x : α} (h : readWhole one text = .ok x) :
    ∃ tree, Spells tree text ∧ means tree x := by
  unfold readWhole at h
  split at h
  next => cases h
  next x rest hx =>
    have hb := blanks_skipSpace rest
    obtain ⟨tree, htree, hmeans⟩ := hone hx
    split at h
    next hs =>
      cases h
      exact ⟨tree, ⟨rest, htree, hs ▸ hb⟩, hmeans⟩
    next => cases h

end Workbench.Json
