import Mathlib.Data.List.Forall2
import Workbench.Json.Skip
import Workbench.Proofs.Json.Content

/-!
# The readers accept what they should

Where a text says something, the readers of values go through it to its end and no further, and
what they make of it depends on what it says alone; or they refuse it, whatever way it is written.
Loops over elements and members are dealt with once, as for the other direction.

* `skipValue_complete` — every JSON value is skipped to its end.
* `Complete` — a reader makes of a text what it says, and fails where nothing can be made of it.
* `readElements_complete`, `readMembers_complete` — the loops are complete, if their parts are.
* `readValue_complete` — so is the reader of arbitrary values.
-/

namespace Workbench.Json

open Workbench.Text (Bytes)

variable {c : Content} {text rest behind : Bytes} {b : UInt8} {first : Bool}
  {elements : List Content} {members : List (Option String × Content)} {name? : Option String}

/-! ### Lengths -/

theorem Blanks.length_le (h : Blanks text rest) : rest.length ≤ text.length := by
  induction h with
  | none => exact Nat.le_refl _
  | skip _ _ ih => exact Nat.le_succ_of_le ih

theorem Numeral.length_lt (h : Numeral text rest) : rest.length < text.length := by
  obtain ⟨ds, rfl, hds⟩ := h.split
  obtain ⟨d, ds, rfl, -⟩ := hds.head
  rw [List.cons_append, List.length_cons, List.length_append]
  omega

mutual

theorem Leads.length_lt {tree : Tree} {text rest : Bytes} : Leads tree text rest →
    rest.length < text.length
  | .blank _ h => Nat.lt_succ_of_lt h.length_lt
  | .null rest => by
    simp only [List.length_cons]
    omega
  | .boolean true rest | .boolean false rest => by
    simp only [wordOf, List.length_append, List.length_cons, if_true, Bool.false_eq_true, if_false]
    omega
  | .number h => h.length_lt
  | .negative h => Nat.lt_succ_of_lt h.length_lt
  | .string rest _ => by
    simp only [List.length_cons, List.length_append]
    omega
  | .array h => by
    have hlt := h.length_lt
    rw [List.length_cons]
    omega
  | .object h => by
    have hlt := h.length_lt
    rw [List.length_cons]
    omega

theorem LeadsElements.length_lt {first : Bool} {trees : List Tree} {text rest : Bytes} :
    LeadsElements first trees text rest → trees.length + rest.length < text.length
  | .close hb => by
    have hle := hb.length_le
    rw [List.length_cons] at hle
    rw [List.length_nil]
    omega
  | .first h hmore => by
    have hlt := h.length_lt
    have hmore := hmore.length_lt
    rw [List.length_cons]
    omega
  | .next hb h hmore => by
    have hle := hb.length_le
    have hlt := h.length_lt
    have hmore := hmore.length_lt
    rw [List.length_cons] at hle ⊢
    omega

theorem LeadsMembers.length_lt {first : Bool} {trees : List (Bytes × Tree)} {text rest : Bytes} :
    LeadsMembers first trees text rest → trees.length + rest.length < text.length
  | .close hb => by
    have hle := hb.length_le
    rw [List.length_cons] at hle
    rw [List.length_nil]
    omega
  | .first h hmore => by
    have hlt := h.length_lt
    have hmore := hmore.length_lt
    rw [List.length_cons]
    omega
  | .next hb h hmore => by
    have hle := hb.length_le
    have hlt := h.length_lt
    have hmore := hmore.length_lt
    rw [List.length_cons] at hle ⊢
    omega

theorem LeadsMember.length_lt {name : Bytes} {tree : Tree} {text rest : Bytes} :
    LeadsMember name tree text rest → rest.length < text.length
  | .mk hb _ hcolon h => by
    have hle := hb.length_le
    have hle' := hcolon.length_le
    have hlt := h.length_lt
    simp only [List.length_cons, List.length_append] at hle hle'
    omega

end

theorem Says.length_lt (h : Says c text rest) : rest.length < text.length := by
  obtain ⟨_, htree⟩ := h.leads
  exact htree.length_lt

theorem SaysElements.length_lt (h : SaysElements first elements text rest) :
    elements.length + rest.length < text.length := by
  obtain ⟨_, htrees, hlength⟩ := h.leads
  exact hlength ▸ htrees.length_lt

theorem SaysMembers.length_lt (h : SaysMembers first members text rest) :
    members.length + rest.length < text.length := by
  obtain ⟨_, htrees, hlength⟩ := h.leads
  exact hlength ▸ htrees.length_lt

/-! ### What follows -/

theorem Blanks.stops (h : Blanks text (b :: rest))
    (hb : b = byte ',' ∨ b = byte ']' ∨ b = byte '\x7d') : Stops text :=
  .of_blanks h (.before rest (.inr hb))

theorem SaysElements.stops (h : SaysElements false elements text rest) : Stops text := by
  cases h with
  | close hb => exact hb.stops (.inr (.inl rfl))
  | next hb => exact hb.stops (.inl rfl)

theorem SaysMembers.stops (h : SaysMembers false members text rest) : Stops text := by
  cases h with
  | close hb => exact hb.stops (.inr (.inr rfl))
  | next hb => exact hb.stops (.inl rfl)

/-- A name comes with a colon and a value. -/
theorem SaysMember.starts (h : SaysMember name? c text rest) :
    ∃ body colon value, skipSpace text = byte '"' :: (body ++ byte '"' :: colon) ∧
      MayStandFor body name? ∧ readColon colon = .ok value ∧ Says c value rest ∧
      value.length < text.length := by
  cases h with
  | mk hb hname hcolon h =>
    refine ⟨_, _, _, skipSpace_of_blanks hb (by decide), hname, ?_, h, ?_⟩
    · rw [readColon, skipSpace_of_blanks hcolon (by decide)]
      exact if_pos rfl
    · have hle := hb.length_le
      have hle' := hcolon.length_le
      simp only [List.length_cons, List.length_append] at hle hle'
      omega

/-- A name starts with a quote behind the blanks. -/
theorem SaysMember.quote (h : SaysMember name? c text rest) :
    ∃ tail, skipSpace text = byte '"' :: tail ∧ SaysMember name? c (byte '"' :: tail) rest := by
  cases h with
  | mk hb hname hcolon h =>
    exact ⟨_, skipSpace_of_blanks hb (by decide), .mk (.none _) hname hcolon h⟩

/-- A digit starts no word and no negative number. -/
theorem isDigit_ne_start {d : UInt8} (hd : isDigit d) :
    d ≠ byte 'n' ∧ d ≠ byte 't' ∧ d ≠ byte 'f' ∧ d ≠ byte '-' :=
  ⟨isDigit_ne hd (by decide), isDigit_ne hd (by decide), isDigit_ne hd (by decide),
    isDigit_ne hd (by decide)⟩

theorem Starts.ne_close (h : Starts c b text rest) : b ≠ byte ']' := by
  cases h with
  | number _ h => exact isDigit_ne h.isDigit (by decide)
  | _ => decide

/-! ### Skipping -/

/-- All values in texts that are short enough are skipped to their end. -/
def SkipComplete (size : Nat) (one : Bytes → Except Fault Bytes) : Prop :=
  ∀ ⦃c : Content⦄ ⦃text rest : Bytes⦄, Says c text rest → Stops rest → text.length < size →
    one text = .ok rest

section

variable {size : Nat} {one : Bytes → Except Fault Bytes}

theorem skipElements_complete (hone : SkipComplete size one) {fuel : Nat}
    (h : SaysElements false elements text rest) (hfuel : elements.length < fuel)
    (hsize : text.length < size) : skipElements one fuel text = .ok rest := by
  induction fuel generalizing elements text with
  | zero => exact absurd hfuel (Nat.not_lt_zero _)
  | succ fuel ih =>
    cases h with
    | close hb =>
      rw [skipElements, skipSpace_of_blanks hb (by decide)]
      exact if_pos rfl
    | next hb hc hmore =>
      have hle := hb.length_le
      have hlt := hc.length_lt
      rw [List.length_cons] at hle
      have hne : byte ',' ≠ byte ']' := by decide
      rw [skipElements, skipSpace_of_blanks hb (by decide)]
      simp only [hne, if_true, if_false, hone hc hmore.stops (by omega)]
      exact ih hmore (Nat.lt_of_succ_lt_succ hfuel) (by omega)

theorem skipMember_complete (hone : SkipComplete size one) (h : SaysMember name? c text rest)
    (hrest : Stops rest) (hsize : text.length < size) : skipMember one text = .ok rest := by
  obtain ⟨body, colon, value, hs, hname, hcolon, hc, hlt⟩ := h.starts
  rw [skipMember, hs]
  simp only [if_true, skipKey, skipString_inside hname.inside, hcolon]
  exact hone hc hrest (by omega)

theorem skipMembers_complete (hone : SkipComplete size one) {fuel : Nat}
    (h : SaysMembers false members text rest) (hfuel : members.length < fuel)
    (hsize : text.length < size) : skipMembers one fuel text = .ok rest := by
  induction fuel generalizing members text with
  | zero => exact absurd hfuel (Nat.not_lt_zero _)
  | succ fuel ih =>
    cases h with
    | close hb =>
      rw [skipMembers, skipSpace_of_blanks hb (by decide)]
      exact if_pos rfl
    | next hb hm hmore =>
      have hle := hb.length_le
      obtain ⟨_, _, htree⟩ := hm.leads
      have hlt := htree.length_lt
      rw [List.length_cons] at hle
      have hne : byte ',' ≠ byte '\x7d' := by decide
      rw [skipMembers, skipSpace_of_blanks hb (by decide)]
      simp only [hne, if_true, if_false, skipMember_complete hone hm hmore.stops (by omega)]
      exact ih hmore (Nat.lt_of_succ_lt_succ hfuel) (by omega)

/-- A sequence is skipped to its closing bracket. -/
theorem skipArray_complete (hone : SkipComplete size one)
    (h : SaysElements true elements text rest) (hsize : text.length < size) :
    (match skipSpace text with
      | [] => .error (.after .endInList [])
      | c :: rest =>
        if c = byte ']' then .ok rest
        else
          match one (c :: rest) with
          | .error e => .error e
          | .ok rest => skipElements one (rest.length + 1) rest : Except Fault Bytes) =
      .ok rest := by
  cases h with
  | close hb =>
    rw [skipSpace_of_blanks hb (by decide)]
    exact if_pos rfl
  | first hc hmore =>
    have hle := (blanks_skipSpace text).length_le
    have hlt := hc.length_lt
    have hlength := hmore.length_lt
    obtain ⟨b, tail, hs, hstarts⟩ := hc.starts
    rw [hs] at hle ⊢
    simp only [hstarts.ne_close, if_false, hone hstarts.alone hmore.stops (by omega)]
    exact skipElements_complete hone hmore (by omega) (by omega)

/-- An object is skipped to its closing bracket. -/
theorem skipObject_complete (hone : SkipComplete size one)
    (h : SaysMembers true members text rest) (hsize : text.length < size) :
    (match skipSpace text with
      | [] => .error (.after .endInObject [])
      | c :: rest =>
        if c = byte '\x7d' then .ok rest
        else
          match skipMember one (c :: rest) with
          | .error e => .error e
          | .ok rest => skipMembers one (rest.length + 1) rest : Except Fault Bytes) =
      .ok rest := by
  cases h with
  | close hb =>
    rw [skipSpace_of_blanks hb (by decide)]
    exact if_pos rfl
  | first hm hmore =>
    have hle := (blanks_skipSpace text).length_le
    have hlength := hmore.length_lt
    obtain ⟨_, _, htree⟩ := hm.leads
    have hlt := htree.length_lt
    obtain ⟨tail, hs, hquote⟩ := hm.quote
    have hne : byte '"' ≠ byte '\x7d' := by decide
    rw [hs] at hle ⊢
    simp only [hne, if_false, skipMember_complete hone hquote hmore.stops (by omega)]
    exact skipMembers_complete hone hmore (by omega) (by omega)

/-- Values are skipped to their end, if the depth of brackets suffices. -/
theorem skipNested_complete (fuel : Nat) : SkipComplete fuel (skipNested fuel) := by
  induction fuel with
  | zero => exact fun _ _ _ _ _ h => absurd h (Nat.not_lt_zero _)
  | succ fuel ih =>
    -- what stands in brackets is shorter than the value, so one bracket less is enough for it
    intro c text rest h hrest hsize
    have hle := (blanks_skipSpace text).length_le
    obtain ⟨b, tail, hs, hstarts⟩ := h.starts
    rw [hs, List.length_cons] at hle
    rw [skipNested, hs]
    cases hstarts with
    | null => rfl
    | yes => rfl
    | no => rfl
    | number _ hnumeral =>
      obtain ⟨hnull, htrue, hfalse, hminus⟩ := isDigit_ne_start hnumeral.isDigit
      simp only [hnull, htrue, hfalse, hminus, hnumeral.isDigit, if_true, if_false]
      exact skipNumber_numeral hnumeral hrest
    | negative _ hnumeral => exact skipNumber_numeral hnumeral hrest
    | string _ hstring => exact skipString_inside hstring.inside rest
    | array helements => exact skipArray_complete ih helements (by omega)
    | object hmembers => exact skipObject_complete ih hmembers (by omega)

end

/-- **Every value is skipped to its end**, however deep its brackets are nested. -/
theorem skipValue_complete {tree : Tree} (h : Leads tree text rest) (hrest : Stops rest) :
    skipValue text = .ok rest := by
  obtain ⟨c, hc⟩ := h.content
  exact skipNested_complete _ hc hrest (Nat.lt_succ_self _)

/-! ### Reading -/

/-- How reading ends before the rest of a text: with something that is as it should be, or with a
fault, if nothing can be as it should be. -/
inductive Ends {α : Type} (asItShould : α → Prop) (rest : Bytes) :
    Except Fault (α × Bytes) → Prop where
  /-- Something is read. -/
  | read {x : α} : asItShould x → Ends asItShould rest (.ok (x, rest))
  /-- There is nothing to be read. -/
  | fault (e : Fault) : (∀ x, ¬asItShould x) → Ends asItShould rest (.error e)

/-- A reader makes of a text what the text says, and fails where nothing can be made of it. -/
def Complete {α : Type} (one : Bytes → Except Fault (α × Bytes)) (makes : Content → α → Prop) :
    Prop :=
  ∀ ⦃c : Content⦄ ⦃text rest : Bytes⦄, Says c text rest → Stops rest →
    Ends (makes c) rest (one text)

namespace Content

/-- What is said is a text. -/
def IsText (c : Content) (s : String) : Prop := c = .string (some s)

/-- What is said is a natural number. -/
def IsNatural (c : Content) (n : Nat) : Prop := c = .number (some (.integer n))

/-- What is said is `null`, or something else. -/
def OrNull {α : Type} (makes : Content → α → Prop) (c : Content) : Option α → Prop
  | none => c = .null
  | some x => makes c x

/-- What is said is a sequence of texts, and there is room for its bracket. -/
def AreTexts (room : Nat) (c : Content) (texts : List String) : Prop :=
  0 < room ∧ ∃ elements, c = .array elements ∧ List.Forall₂ IsText elements texts

/-- What is met where anything is read with room for so many brackets; `none` where it cannot be
read. -/
def found? (room : Nat) : Content → Option Found
  | .null => some .null
  | .boolean b => some (.boolean b)
  | .number n? => n?.map .number
  | .string s? => s?.map .string
  | .array elements =>
    match room with
    | 0 => none
    | room + 1 => if ∀ c ∈ elements, (found? room c).isSome then some .sequence else none
  | .object members =>
    match room with
    | 0 => none
    | room + 1 =>
      if ∀ m ∈ members, m.1.isSome ∧ (found? room m.2).isSome then some .map else none

end Content

theorem readText_complete : Complete readText Content.IsText := by
  intro c text rest h _
  obtain ⟨b, tail, hs, hstarts⟩ := h.starts
  rw [readText, hs]
  cases hstarts with
  | @string _ s? _ hstring =>
    simp only [if_true]
    cases s? with
    | none =>
      obtain ⟨e, he⟩ := hstring.read_none rest
      rw [he]
      exact .fault e nofun
    | some s =>
      rw [hstring.read_some rest]
      exact .read rfl
  | number _ hnumeral =>
    have hne := isDigit_ne (c := '"') hnumeral.isDigit (by decide)
    simp only [hne, if_false]
    exact .fault _ nofun
  | _ => exact .fault _ nofun

/-- A natural number is made of a number, if it is one. -/
theorem ends_natural {negative : Bool} {ds : Bytes} (h : Numeral ds []) (hrest : Stops rest) :
    Ends (Content.number (numberOf? negative ds)).IsNatural rest
      (match readNumber negative (ds ++ rest) with
      | .ok (.integer i, rest) =>
        if i < 0 then .error (.before (.wrongValue i .natural) rest) else .ok (i.toNat, rest)
      | .ok (.float x, rest) =>
        .error (.before (.wrongType (.number (.float x)) .natural) rest)
      | .error e => .error e) := by
  cases hn : numberOf? negative ds with
  | none =>
    obtain ⟨e, he⟩ := readNumber_of_none h hrest hn
    rw [he]
    exact .fault e nofun
  | some n =>
    rw [readNumber_of_some h hrest hn]
    cases n with
    | integer i =>
      dsimp only
      split
      next hlt =>
        refine .fault _ fun n hn => ?_
        obtain rfl : i = n := by simpa [Content.IsNatural] using hn
        omega
      next hle => exact .read (by simp [Content.IsNatural]; omega)
    | float x => exact .fault _ fun n hn => by simp [Content.IsNatural] at hn

theorem readNatural_complete : Complete readNatural Content.IsNatural := by
  intro c text rest h hrest
  obtain ⟨b, tail, hs, hstarts⟩ := h.starts
  rw [readNatural, hs]
  cases hstarts with
  | number _ hnumeral =>
    obtain ⟨-, -, -, hminus⟩ := isDigit_ne_start hnumeral.isDigit
    simp only [hnumeral.isDigit, or_true, if_true, hminus, if_false,
      beq_eq_false_iff_ne.mpr hminus]
    exact ends_natural hnumeral hrest
  | negative _ hnumeral => exact ends_natural hnumeral hrest
  | _ => exact .fault _ nofun

theorem readOptional_complete {α : Type} {one : Bytes → Except Fault (α × Bytes)}
    {makes : Content → α → Prop} (hone : Complete one makes) :
    Complete (readOptional one) (Content.OrNull makes) := by
  intro c text rest h hrest
  obtain ⟨b, tail, hs, hstarts⟩ := h.starts
  rw [readOptional, hs]
  -- whatever starts like the literal `null` has to be it
  by_cases hn : b = byte 'n'
  · cases hstarts with
    | null => exact .read rfl
    | number _ hnumeral => exact absurd hn (isDigit_ne hnumeral.isDigit (by decide))
    | _ => cases hn
  · have hnull : c ≠ .null := by
      rintro rfl
      cases hstarts
      exact hn rfl
    have hends := hone hstarts.alone hrest
    simp only [hn, if_false]
    generalize one (b :: tail) = r at hends
    cases hends with
    | read hx => exact .read hx
    | fault e hnot =>
      refine .fault e fun x? hx => ?_
      cases x? with
      | none => exact hnull hx
      | some x => exact hnot x hx

/-! ### Loops -/

/-- What comes next in a sequence: its closing bracket, or one more element. -/
theorem SaysElements.nextElement (h : SaysElements first elements text rest) :
    elements = [] ∧ nextElement first text = .ok (.finished (byte ']' :: rest)) ∨
      ∃ c more value behind, elements = c :: more ∧ nextElement first text = .ok (.more value) ∧
        Says c value behind ∧ SaysElements false more behind rest := by
  cases h with
  | close hb =>
    refine .inl ⟨rfl, ?_⟩
    rw [Json.nextElement, skipSpace_of_blanks hb (by decide)]
    exact if_pos rfl
  | first hc hmore =>
    obtain ⟨b, tail, hs, hstarts⟩ := hc.starts
    refine .inr ⟨_, _, _, _, rfl, ?_, hstarts.alone, hmore⟩
    rw [Json.nextElement, hs]
    simp only [hstarts.ne_close, if_true, if_false]
  | next hb hc hmore =>
    obtain ⟨b, tail, hs, hstarts⟩ := hc.starts
    refine .inr ⟨_, _, _, _, rfl, ?_, hstarts.alone, hmore⟩
    have hne : byte ',' ≠ byte ']' := by decide
    rw [Json.nextElement, skipSpace_of_blanks hb (by decide)]
    simp only [hne, hs, hstarts.ne_close, Bool.false_eq_true, if_true, if_false]

/-- The elements of a sequence are read one by one, or not at all if one of them cannot be read. -/
theorem readElements_complete {α : Type} {one : Bytes → Except Fault (α × Bytes)}
    {makes : Content → α → Prop} (hone : Complete one makes) {fuel : Nat}
    (h : SaysElements first elements text rest) (hfuel : elements.length < fuel) :
    Ends (List.Forall₂ makes elements) rest (readElements one fuel first text) := by
  induction fuel generalizing first elements text with
  | zero => exact absurd hfuel (Nat.not_lt_zero _)
  | succ fuel ih =>
    rw [readElements]
    rcases h.nextElement with ⟨rfl, hnext⟩ | ⟨c, more, value, behind, rfl, hnext, hc, hmore⟩
    · rw [hnext]
      exact .read .nil
    · rw [hnext]
      have hends := hone hc hmore.stops
      dsimp only
      -- how the element is read decides the loop, so the cases are those of `Ends`
      generalize one value = r at hends
      cases hends with
      | fault e hnot =>
        refine .fault e fun xs hxs => ?_
        cases hxs with
        | cons hx => exact hnot _ hx
      | @read x hx =>
        have hends := ih hmore (Nat.lt_of_succ_lt_succ hfuel)
        dsimp only
        generalize readElements one fuel false behind = r at hends
        cases hends with
        | fault e hnot =>
          refine .fault e fun xs hxs => ?_
          cases hxs with
          | cons _ hxs => exact hnot _ hxs
        | read hxs => exact .read (.cons hx hxs)

/-- What comes next in an object: its closing bracket, or the inside of one more name. -/
theorem SaysMembers.nextKey (h : SaysMembers first members text rest) :
    members = [] ∧ nextKey first text = .ok (.finished (byte '\x7d' :: rest)) ∨
      ∃ name? c more body colon value behind, members = (name?, c) :: more ∧
        nextKey first text = .ok (.more (body ++ byte '"' :: colon)) ∧ MayStandFor body name? ∧
        readColon colon = .ok value ∧ Says c value behind ∧
        SaysMembers false more behind rest := by
  cases h with
  | close hb =>
    refine .inl ⟨rfl, ?_⟩
    rw [Json.nextKey, skipSpace_of_blanks hb (by decide)]
    exact if_pos rfl
  | first hm hmore =>
    obtain ⟨body, colon, value, hs, hname, hcolon, hc, -⟩ := hm.starts
    refine .inr ⟨_, _, _, body, colon, value, _, rfl, ?_, hname, hcolon, hc, hmore⟩
    rw [Json.nextKey, hs]
    rfl
  | next hb hm hmore =>
    obtain ⟨body, colon, value, hs, hname, hcolon, hc, -⟩ := hm.starts
    refine .inr ⟨_, _, _, body, colon, value, _, rfl, ?_, hname, hcolon, hc, hmore⟩
    rw [Json.nextKey, skipSpace_of_blanks hb (by decide)]
    simp only [hs]
    rfl

/-- Members as they are written, all of whose names stand for texts. -/
def Content.named (members : List (String × Content)) : List (Option String × Content) :=
  members.map fun m => (some m.1, m.2)

/-- If the names of all members stand for texts, the name of the first one does. -/
theorem Content.cons_eq_named {named : List (String × Content)}
    (h : (name?, c) :: members = Content.named named) :
    ∃ name after, name? = some name ∧ named = (name, c) :: after ∧
      members = Content.named after := by
  cases named with
  | nil => cases h
  | cons m after =>
    cases h
    exact ⟨m.1, after, rfl, rfl, rfl⟩

/-- The members of an object are read one by one, if each of them can be read after those before it;
otherwise there is nothing that could be kept of all of them. -/
theorem readMembers_complete {σ : Type} {member : σ → String → Bytes → Except Fault (σ × Bytes)}
    (keeps : σ → List (String × Content) → Prop)
    (hmember : ∀ ⦃state before name c text value rest⦄, keeps state before →
      readColon text = .ok value → Says c value rest → Stops rest →
      (∃ state', member state name text = .ok (state', rest) ∧
        keeps state' (before ++ [(name, c)])) ∨
      ∃ e, member state name text = .error e ∧
        ∀ state' after, ¬keeps state' (before ++ (name, c) :: after))
    {fuel : Nat} {state : σ} {before : List (String × Content)} (hbefore : keeps state before)
    (h : SaysMembers first members text rest) (hfuel : members.length < fuel) :
    Ends (fun state' => ∃ named, members = Content.named named ∧ keeps state' (before ++ named))
      rest (readMembers member fuel first state text) := by
  -- what has been read goes over to the members before, so it is general in the induction
  induction fuel generalizing first members text state before with
  | zero => exact absurd hfuel (Nat.not_lt_zero _)
  | succ fuel ih =>
    rw [readMembers]
    rcases h.nextKey with ⟨rfl, hnext⟩ |
      ⟨name?, c, more, body, colon, value, behind, rfl, hnext, hname, hcolon, hc, hmore⟩
    · rw [hnext]
      exact .read ⟨[], rfl, by rwa [List.append_nil]⟩
    · rw [hnext]
      dsimp only
      cases name? with
      | none =>
        obtain ⟨e, he⟩ := hname.read_none colon
        rw [he]
        refine .fault e ?_
        rintro state' ⟨named, hnamed, -⟩
        obtain ⟨name, -, hsome, -⟩ := Content.cons_eq_named hnamed
        cases hsome
      | some name =>
        rw [hname.read_some colon]
        dsimp only
        rcases hmember hbefore hcolon hc hmore.stops with ⟨state', hstate, hkeeps⟩ | ⟨e, he, hnot⟩
        · rw [hstate]
          dsimp only
          have hends := ih hkeeps hmore (Nat.lt_of_succ_lt_succ hfuel)
          simp only [List.append_assoc, List.singleton_append] at hends
          generalize readMembers member fuel false state' behind = r at hends
          cases hends with
          | read hafter =>
            obtain ⟨named, rfl, hafter⟩ := hafter
            exact .read ⟨(name, c) :: named, rfl, hafter⟩
          | fault e hnot =>
            refine .fault e ?_
            rintro state' ⟨named, hnamed, hafter⟩
            obtain ⟨_, after, ⟨⟩, rfl, rfl⟩ := Content.cons_eq_named hnamed
            exact hnot state' ⟨after, rfl, hafter⟩
        · rw [he]
          refine .fault e ?_
          rintro state' ⟨named, hnamed, hkeeps⟩
          obtain ⟨_, after, ⟨⟩, rfl, -⟩ := Content.cons_eq_named hnamed
          exact hnot state' after hkeeps

/-! ### Sequences of texts, and arbitrary values -/

theorem readTexts_complete (room : Nat) : Complete (readTexts room) (Content.AreTexts room) := by
  intro c text rest h _
  obtain ⟨b, tail, hs, hstarts⟩ := h.starts
  rw [readTexts, hs]
  cases hstarts with
  | @array elements _ _ helements =>
    simp only [if_true]
    cases room with
    | zero => exact .fault _ fun _ h => Nat.lt_irrefl 0 h.1
    | succ room =>
      have hlength := helements.length_lt
      have hends := readElements_complete readText_complete helements
        (show elements.length < tail.length + 1 by omega)
      dsimp only
      generalize readElements readText (tail.length + 1) true tail = r at hends
      cases hends with
      | read hall => exact .read ⟨Nat.succ_pos room, elements, rfl, hall⟩
      | fault e hnot =>
        refine .fault e ?_
        rintro texts ⟨-, elements, ⟨⟩, hall⟩
        exact hnot texts hall
  | number _ hnumeral =>
    have hne := isDigit_ne (c := '[') hnumeral.isDigit (by decide)
    simp only [hne, if_false]
    exact .fault _ fun _ ⟨_, _, h, _⟩ => nomatch h
  | _ => exact .fault _ fun _ ⟨_, _, h, _⟩ => nomatch h

/-- Whatever may be met, there is a value where it is met. -/
theorem Found.exists_value (f : Found) : ∃ v : Value, v.found = f := by
  cases f with
  | null => exact ⟨.null, rfl⟩
  | boolean b => exact ⟨.boolean b, rfl⟩
  | number n => exact ⟨.number n, rfl⟩
  | string s => exact ⟨.string s, rfl⟩
  | sequence => exact ⟨.array [], rfl⟩
  | map => exact ⟨.object [], rfl⟩

/-- A reader of values finds what is said: what kind of value it is, and which one if it has no
structure. -/
def Finds (room : Nat) (c : Content) (v : Value) : Prop := c.found? room = some v.found

/-- Where nothing is found, a fault is right. -/
theorem ends_of_found?_none {room : Nat} (e : Fault) (h : c.found? room = none) :
    Ends (Finds room c) rest (.error e) := .fault e fun v hv => by
  rw [Finds, h] at hv
  cases hv

theorem exists_finds_iff {room : Nat} : (∃ v, Finds room c v) ↔ (c.found? room).isSome := by
  constructor
  · rintro ⟨v, hv⟩
    exact Option.isSome_of_eq_some hv
  · intro h
    obtain ⟨f, hf⟩ := Option.isSome_iff_exists.mp h
    obtain ⟨v, rfl⟩ := f.exists_value
    exact ⟨v, hf⟩

theorem ends_number {room : Nat} {negative : Bool} {ds : Bytes} (h : Numeral ds [])
    (hrest : Stops rest) :
    Ends (Finds room (.number (numberOf? negative ds))) rest
      (match readNumber negative (ds ++ rest) with
      | .ok (n, rest) => .ok (.number n, rest)
      | .error e => .error e) := by
  cases hn : numberOf? negative ds with
  | none =>
    obtain ⟨e, he⟩ := readNumber_of_none h hrest hn
    rw [he]
    exact ends_of_found?_none e (by rw [Content.found?]; rfl)
  | some n =>
    rw [readNumber_of_some h hrest hn]
    exact .read (by rw [Finds, Content.found?]; rfl)

theorem exists_forall₂_finds_iff {room : Nat} :
    (∃ vs, List.Forall₂ (Finds room) elements vs) ↔ ∀ c ∈ elements, (c.found? room).isSome := by
  induction elements with
  | nil => exact ⟨fun _ => List.forall_mem_nil _, fun _ => ⟨[], .nil⟩⟩
  | cons c elements ih =>
    rw [List.forall_mem_cons, ← ih, ← exists_finds_iff]
    constructor
    · rintro ⟨_, _ | ⟨hv, hvs⟩⟩
      exact ⟨⟨_, hv⟩, _, hvs⟩
    · rintro ⟨⟨v, hv⟩, vs, hvs⟩
      exact ⟨v :: vs, .cons hv hvs⟩

/-- A sequence of arbitrary values is read if all of them can be. -/
theorem ends_sequence {room : Nat} (hroom : Complete (readValue room) (Finds room))
    (h : SaysElements true elements text rest) :
    Ends (Finds (room + 1) (.array elements)) rest
      (match readElements (readValue room) (text.length + 1) true text with
      | .ok (elements, rest) => .ok (.array elements, rest)
      | .error e => .error e) := by
  have hlength := h.length_lt
  have hends := readElements_complete hroom h (show elements.length < text.length + 1 by omega)
  generalize readElements (readValue room) (text.length + 1) true text = r at hends
  cases hends with
  | read hall =>
    refine .read ?_
    rw [Finds, Content.found?, if_pos (exists_forall₂_finds_iff.mp ⟨_, hall⟩)]
    rfl
  | fault e hnot =>
    have hsome : ¬∀ c ∈ elements, (c.found? room).isSome := fun hall => by
      obtain ⟨vs, hvs⟩ := exists_forall₂_finds_iff.mpr hall
      exact hnot vs hvs
    exact ends_of_found?_none e (by rw [Content.found?, if_neg hsome])

theorem exists_named_iff {p : Content → Prop} :
    (∃ named, members = Content.named named ∧ ∀ m ∈ named, p m.2) ↔
      ∀ m ∈ members, m.1.isSome ∧ p m.2 := by
  induction members with
  | nil => exact ⟨fun _ => List.forall_mem_nil _, fun _ => ⟨[], rfl, List.forall_mem_nil _⟩⟩
  | cons m members ih =>
    obtain ⟨name?, c⟩ := m
    rw [List.forall_mem_cons, ← ih]
    constructor
    · rintro ⟨named, hnamed, hall⟩
      obtain ⟨name, after, rfl, rfl, rfl⟩ := Content.cons_eq_named hnamed
      obtain ⟨hp, hall⟩ := List.forall_mem_cons.mp hall
      exact ⟨⟨rfl, hp⟩, after, rfl, hall⟩
    · rintro ⟨⟨hname, hp⟩, named, rfl, hall⟩
      obtain ⟨name, rfl⟩ := Option.isSome_iff_exists.mp hname
      exact ⟨(name, c) :: named, rfl, List.forall_mem_cons.mpr ⟨hp, hall⟩⟩

/-- An object of arbitrary values is read if all of them can be, and if all its names stand for
texts. -/
theorem ends_map {room : Nat} (hroom : Complete (readValue room) (Finds room))
    {written : List (Option String × Content)} (h : SaysMembers true written text rest)
    (hperm : written.Perm members)
    {member : List (String × Value) → String → Bytes → Except Fault (List (String × Value) × Bytes)}
    (hmember : ∀ before name text, member before name text =
      match readColon text with
      | .error e => .error e
      | .ok rest =>
        match readValue room rest with
        | .ok (v, rest) => .ok (before ++ [(name, v)], rest)
        | .error e => .error e) :
    Ends (Finds (room + 1) (.object members)) rest
      (match readMembers member (text.length + 1) true [] text with
      | .ok (members, rest) => .ok (.object members, rest)
      | .error e => .error e) := by
  have hlength := h.length_lt
  have hends : Ends (fun _ => ∃ named, written = Content.named named ∧
      ∀ m ∈ named, (m.2.found? room).isSome) rest
      (readMembers member (text.length + 1) true [] text) := by
    refine readMembers_complete (fun _ named => ∀ m ∈ named, (m.2.found? room).isSome) ?_
      (List.forall_mem_nil _) h (by omega)
    intro vs before name c text value rest hbefore hcolon hc hrest
    have hends := hroom hc hrest
    rw [hmember, hcolon]
    dsimp only
    generalize readValue room value = r at hends
    cases hends with
    | read hv =>
      refine .inl ⟨_, rfl, ?_⟩
      rw [List.forall_mem_append, List.forall_mem_singleton]
      exact ⟨hbefore, exists_finds_iff.mp ⟨_, hv⟩⟩
    | fault e hnot =>
      refine .inr ⟨e, rfl, fun _ after hall => ?_⟩
      obtain ⟨v, hv⟩ := exists_finds_iff.mpr
        (hall (name, c) (List.mem_append_right before (List.mem_cons_self ..)))
      exact hnot v hv
  have hall : (∀ m ∈ members, m.1.isSome ∧ (m.2.found? room).isSome) ↔
      ∃ named, written = Content.named named ∧ ∀ m ∈ named, (m.2.found? room).isSome := by
    refine Iff.trans ?_ (exists_named_iff (p := fun c => (c.found? room).isSome)).symm
    exact forall_congr' fun m => by rw [hperm.mem_iff]
  simp only [← hall] at hends
  generalize readMembers member (text.length + 1) true [] text = r at hends
  cases hends with
  | read hsome =>
    refine .read ?_
    rw [Finds, Content.found?, if_pos hsome]
    rfl
  | fault e hnot => exact ends_of_found?_none e (by rw [Content.found?, if_neg (hnot [])])

theorem readScalar?_quote (text : Bytes) :
    readScalar? (byte '"') text = some (match readString text with
      | .ok (s, rest) => .ok (.string s, rest)
      | .error e => .error e) := rfl

/-- Any value is read to its end, if that is so wherever one bracket less may be opened. -/
theorem readValue_complete_step {room : Nat}
    (inner : ∀ less, room = less + 1 → Complete (readValue less) (Finds less)) :
    Complete (readValue room) (Finds room) := by
  intro c text rest h hrest
  obtain ⟨b, tail, hs, hstarts⟩ := h.starts
  rw [readValue, hs]
  cases hstarts with
  | null => exact .read (by rw [Finds, Content.found?]; rfl)
  | yes => exact .read (by rw [Finds, Content.found?]; rfl)
  | no => exact .read (by rw [Finds, Content.found?]; rfl)
  | number _ hnumeral =>
    obtain ⟨hnull, htrue, hfalse, hminus⟩ := isDigit_ne_start hnumeral.isDigit
    simp only [readScalar?, hnull, htrue, hfalse, hminus, hnumeral.isDigit, if_true, if_false]
    exact ends_number hnumeral hrest
  | negative _ hnumeral => exact ends_number hnumeral hrest
  | @string body s? _ hstring =>
    dsimp only
    rw [readScalar?_quote]
    cases s? with
    | none =>
      obtain ⟨e, he⟩ := hstring.read_none rest
      rw [he]
      exact ends_of_found?_none e (by rw [Content.found?]; rfl)
    | some s =>
      rw [hstring.read_some rest]
      exact .read (by rw [Finds, Content.found?]; rfl)
  | array helements =>
    cases room with
    | zero => exact ends_of_found?_none _ (by rw [Content.found?])
    | succ room => exact ends_sequence (inner room rfl) helements
  | object hmembers hperm =>
    cases room with
    | zero => exact ends_of_found?_none _ (by rw [Content.found?])
    | succ room => exact ends_map (inner room rfl) hmembers hperm fun _ _ _ => rfl

theorem readValue_complete (room : Nat) : Complete (readValue room) (Finds room) := by
  induction room with
  | zero => exact readValue_complete_step nofun
  | succ room ih =>
    refine readValue_complete_step fun less hless => ?_
    obtain rfl := Nat.succ.inj hless
    exact ih

end Workbench.Json
