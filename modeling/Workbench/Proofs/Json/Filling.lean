import Mathlib.Data.List.Perm.Basic
import Workbench.Proofs.Json.Completeness
import Workbench.Proofs.Json.Records

/-!
# What records are filled with

What a record is filled with depends on its known members alone: on what they say, not on how it is
written, nor where, nor what stands under other names. Where the record cannot be filled, none of
this helps either. The plan of a record is carried on for this: each of its fields also knows what
its reader makes of what is said, and that the reader is complete.

* `Plan.Full` — the plan of a record with complete readers.
* `Plan.Full.complete` — the record is read where it can be filled, and nowhere else.
* `Plan.Full.parse_alike` — of two objects that say the same under the known names either both are
  read, and fill the fields with the same, or neither.
-/

namespace Workbench.Json

open Workbench.Text (Bytes)

/-- What the reader of a field makes of what is said. -/
structure Slot.Filling {ρ : Type} (s : Slot ρ) where
  /-- What is made of what is said, with room for so many brackets. -/
  makes : Nat → Content → s.α → Prop
  /-- The reader makes this of it, and nothing else. -/
  complete : ∀ room, Complete (s.read room) (makes room)

/-- A field with its place, and what its reader makes of what is said. -/
structure FullSlot (ρ : Type) extends Slot ρ where
  /-- What is made of what is said, with room for so many brackets. -/
  makes : Nat → Content → α → Prop
  /-- The reader makes this of it, and nothing else. -/
  complete : ∀ room, Complete (read room) (makes room)

namespace FullSlot

variable {ρ : Type}

/-- Two fields have different names and different places. -/
def Apart (s t : FullSlot ρ) : Prop := s.toSlot.Apart t.toSlot

instance : Std.Symm (@Apart ρ) := ⟨fun _ _ h => ⟨h.name.symm, h.right, h.left⟩⟩

end FullSlot

/-- What the readers of some fields make of what is said, one after another. -/
inductive Fillings {ρ : Type} : List (Slot ρ) → Type 1 where
  /-- There are no fields. -/
  | nil : Fillings []
  /-- One more field. -/
  | cons {s : Slot ρ} {slots : List (Slot ρ)} :
      s.Filling → Fillings slots → Fillings (s :: slots)

namespace Fillings

variable {ρ : Type}

/-- The fields, each with what its reader makes of what is said. -/
def fullSlots : {slots : List (Slot ρ)} → Fillings slots → List (FullSlot ρ)
  | _, .nil => []
  | s :: _, .cons filling fillings => ⟨s, filling.makes, filling.complete⟩ :: fillings.fullSlots

theorem map_fullSlots {slots : List (Slot ρ)} (fillings : Fillings slots) :
    fillings.fullSlots.map FullSlot.toSlot = slots := by
  induction fillings with
  | nil => rfl
  | cons _ _ ih => rw [fullSlots, List.map_cons, ih]

end Fillings

/-- The plan of a record whose readers are complete. -/
structure Plan.Full {ρ : Type} {shape : Shape ρ} (p : Plan shape) where
  /-- What the readers of its fields make of what is said. -/
  fillings : Fillings p.slots

namespace Plan.Full

variable {ρ : Type} {shape : Shape ρ} {p : Plan shape} {f : p.Full} {r r' : ρ} {room : Nat}
  {named named' : List (String × Content)} {name : String} {c : Content}
  {text rest value : Bytes} {first : Bool} {elements : List Content}

/-- The fields of the plan, each with what its reader makes of what is said. -/
def slots (f : p.Full) : List (FullSlot ρ) := f.fillings.fullSlots

theorem slots_eq (f : p.Full) : p.slots = f.slots.map FullSlot.toSlot :=
  f.fillings.map_fullSlots.symm

/-- All fields keep what the members say. -/
def Keeps (f : p.Full) (room : Nat) (r : ρ) (named : List (String × Content)) : Prop :=
  ∀ s ∈ f.slots, Kept (s.get r) s.name (s.makes room) named

/-- A record is filled by an object, or by the sequence of the first of its values, if those that
are left out have a default. There has to be room for the bracket. -/
def Makes (f : p.Full) (room : Nat) (c : Content) (r : ρ) : Prop :=
  match room with
  | 0 => False
  | room + 1 =>
    match c with
    | .object members => ∃ named, members = Content.named named ∧ f.Keeps room r named
    | .array elements =>
      elements.length ≤ f.slots.length ∧
        (∀ s ∈ f.slots.drop elements.length, s.hasDefault) ∧
        f.Keeps room r ((f.slots.map (·.name)).zip elements)
    | _ => False

theorem mem_slots (f : p.Full) {s : FullSlot ρ} (hs : s ∈ f.slots) : s.toSlot ∈ p.slots := by
  rw [f.slots_eq]
  exact List.mem_map_of_mem hs

theorem apart_of_ne {s t : FullSlot ρ} (hs : s ∈ f.slots) (ht : t ∈ f.slots) (hne : s ≠ t) :
    s.Apart t := by
  have h := p.apart
  rw [f.slots_eq] at h
  exact List.Pairwise.forall (List.pairwise_map.mp h) hs ht hne

theorem apart_of_done {done todo : List (FullSlot ρ)} {s t : FullSlot ρ}
    (h : f.slots = done ++ s :: todo) (ht : t ∈ done) : t.Apart s := by
  have hapart := p.apart
  rw [f.slots_eq, h] at hapart
  exact (List.pairwise_append.mp (List.pairwise_map.mp hapart)).2.2 t ht s (List.mem_cons_self ..)

theorem fields_eq (f : p.Full) : shape.fields = f.slots.map fun s => s.field := by
  rw [p.fields, f.slots_eq, List.map_map]
  rfl

theorem keeps_empty (f : p.Full) (room : Nat) : f.Keeps room shape.empty [] := fun s hs => by
  rw [p.empty s.toSlot (f.mem_slots hs)]
  exact List.forall_mem_nil _

/-- One more field is read from a member of its name. -/
theorem Keeps.set (h : f.Keeps room r named) {s : FullSlot ρ} (hs : s ∈ f.slots) {x : s.α}
    (habsent : ∀ m ∈ named, m.1 ≠ s.name) (hmakes : s.makes room c x) :
    f.Keeps room (s.set x r) (named ++ [(s.name, c)]) := by
  intro t ht
  by_cases hst : s = t
  · subst hst
    rw [s.get_set]
    exact kept_some habsent hmakes
  · have hapart := apart_of_ne hs ht hst
    rw [hapart.left]
    exact (h t ht).other hapart.name

/-- A member that belongs to no field is skipped. -/
theorem Keeps.skip (h : f.Keeps room r named) (hname : ∀ s ∈ f.slots, s.name ≠ name)
    (c : Content) : f.Keeps room r (named ++ [(name, c)]) := fun s hs =>
  (h s hs).other (hname s hs).symm

/-- What is kept of a member, if its name belongs to a field, is made of it. -/
theorem Keeps.makes_of_mem (h : f.Keeps room r named) {s : FullSlot ρ} (hs : s ∈ f.slots)
    (hmem : (s.name, c) ∈ named) :
    ∃ x, s.makes room c x ∧ named.filter (·.1 = s.name) = [(s.name, c)] := by
  have hkept := h s hs
  cases hget : s.get r with
  | none =>
    rw [hget] at hkept
    exact absurd rfl (hkept.absent _ hmem)
  | some x =>
    rw [hget] at hkept
    obtain ⟨c', hfilter, hmakes⟩ := hkept.only
    have hin : (s.name, c) ∈ named.filter (·.1 = s.name) :=
      List.mem_filter.mpr ⟨hmem, decide_eq_true rfl⟩
    rw [hfilter] at hin
    cases List.mem_singleton.mp hin
    exact ⟨x, hmakes, hfilter⟩

/-! ### Objects -/

/-- A field is read, and it is the place where something is kept; or it cannot be read, and nothing
can be made of what is said. -/
theorem read_field {s : FullSlot ρ} (hc : Says c text rest) (hrest : Stops rest) :
    (∃ x, s.field.read room r text = .ok (s.set x r, rest) ∧ s.makes room c x) ∨
      ∃ e, s.field.read room r text = .error e ∧ ∀ x, ¬s.makes room c x := by
  have hends := s.complete room hc hrest
  simp only [Slot.field, RecordField.ofSlot]
  generalize s.read room text = result at hends
  cases hends with
  | read hx => exact .inl ⟨_, rfl, hx⟩
  | fault e hnot => exact .inr ⟨e, rfl, hnot⟩

/-- One more member is read, or nothing can be kept of it and those before. -/
theorem readMember_complete (hbefore : f.Keeps room r named) (hcolon : readColon text = .ok value)
    (hc : Says c value rest) (hrest : Stops rest) :
    (∃ r', shape.readMember room r name text = .ok (r', rest) ∧
        f.Keeps room r' (named ++ [(name, c)])) ∨
      ∃ e, shape.readMember room r name text = .error e ∧
        ∀ r' after, ¬f.Keeps room r' (named ++ (name, c) :: after) := by
  have hmem (after : List (String × Content)) : (name, c) ∈ named ++ (name, c) :: after :=
    List.mem_append_right _ (List.mem_cons_self ..)
  rw [Shape.readMember, f.fields_eq, hcolon]
  split
  next hfind =>
    obtain ⟨tree, htree⟩ := hc.leads
    dsimp only
    rw [skipValue_complete htree hrest]
    refine .inl ⟨r, rfl, hbefore.skip (fun s hs => ?_) c⟩
    have hne := List.find?_eq_none.mp hfind s.field (List.mem_map_of_mem hs)
    exact fun heq => hne (beq_iff_eq.mpr heq)
  next field hfind =>
    obtain ⟨s, hs, rfl⟩ := List.mem_map.mp (List.mem_of_find?_eq_some hfind)
    have hname := List.find?_some hfind
    obtain rfl : s.name = name := beq_iff_eq.mp hname
    split
    next hset =>
      refine .inr ⟨_, rfl, fun r' after hkeeps => ?_⟩
      -- the name has stood there before
      obtain ⟨x, hget⟩ := Option.isSome_iff_exists.mp hset
      have hkept := hbefore s hs
      rw [hget] at hkept
      obtain ⟨c', hfilter, -⟩ := hkept.only
      obtain ⟨-, -, honly⟩ := hkeeps.makes_of_mem hs (hmem after)
      rw [List.filter_append, hfilter, List.filter_cons_of_pos (by simp)] at honly
      cases honly
    next hset =>
      have hget : s.get r = none := Option.not_isSome_iff_eq_none.mp hset
      have habsent := hbefore s hs
      rw [hget] at habsent
      rcases read_field hc hrest with ⟨x, hread, hmakes⟩ | ⟨e, hread, hnot⟩
      · exact .inl ⟨_, hread, hbefore.set hs habsent.absent hmakes⟩
      · refine .inr ⟨e, hread, fun r' after hkeeps => ?_⟩
        obtain ⟨x, hmakes, -⟩ := hkeeps.makes_of_mem hs (hmem after)
        exact hnot x hmakes

/-! ### Sequences -/

/-- The closing bracket is read if there are no more elements, and not otherwise. -/
theorem endList_complete (h : SaysElements first elements text rest) :
    elements = [] ∧ endList text = .ok rest ∨ elements ≠ [] ∧ ∃ e, endList text = .error e := by
  have herror {b : UInt8} {tail : Bytes} (hs : skipSpace text = b :: tail) (hb : b ≠ byte ']') :
      ∃ e, endList text = .error e := by
    rw [endList, hs]
    dsimp only
    rw [if_neg hb]
    split
    · split <;> exact ⟨_, rfl⟩
    · exact ⟨_, rfl⟩
  cases h with
  | close hb =>
    refine .inl ⟨rfl, ?_⟩
    rw [endList, skipSpace_of_blanks hb (by decide)]
    exact if_pos rfl
  | first hc _ =>
    obtain ⟨b, tail, hs, hstarts⟩ := hc.starts
    exact .inr ⟨List.cons_ne_nil _ _, herror hs hstarts.ne_close⟩
  | next hb _ _ =>
    exact .inr ⟨List.cons_ne_nil _ _, herror (skipSpace_of_blanks hb (by decide)) (by decide)⟩

/-- The fields that are left are filled with the elements that are left, if there are not too many
of them and not too few. -/
theorem readFields_complete {done todo : List (FullSlot ρ)} (hslots : f.slots = done ++ todo)
    (hnames : ∀ m ∈ named, ∃ s ∈ done, m.1 = s.name) (h : f.Keeps room r named)
    (helements : SaysElements first elements text rest) :
    Ends (fun r' => elements.length ≤ todo.length ∧
        (∀ s ∈ todo.drop elements.length, s.hasDefault) ∧
        f.Keeps room r' (named ++ (todo.map (·.name)).zip elements)) rest
      (match shape.readFields room (todo.map fun s => s.field) first r text with
      | .error e => .error e
      | .ok (r, rest) =>
        match endList rest with
        | .error e => .error e
        | .ok rest => .ok (r, rest)) := by
  -- along the fields: those that are done have their places, and those to be done have the elements
  -- that are left
  induction todo generalizing done first elements r named text with
  | nil =>
    simp only [List.map_nil, Shape.readFields]
    rcases endList_complete helements with ⟨rfl, hend⟩ | ⟨hne, e, hend⟩
    · rw [hend]
      refine .read ⟨Nat.le_refl _, List.forall_mem_nil _, ?_⟩
      rwa [List.zip_nil_left, List.append_nil]
    · rw [hend]
      exact .fault e fun _ hfits => hne (List.length_eq_zero_iff.mp (Nat.le_zero.mp hfits.1))
  | cons s todo ih =>
    have hslots' : f.slots = (done ++ [s]) ++ todo := by
      rw [hslots, List.append_assoc]
      rfl
    have hs : s ∈ f.slots := by
      rw [hslots]
      exact List.mem_append_right _ (List.mem_cons_self ..)
    have hnames' : ∀ m ∈ named, ∃ t ∈ done ++ [s], m.1 = t.name := fun m hm => by
      obtain ⟨t, ht, hname⟩ := hnames m hm
      exact ⟨t, List.mem_append_left _ ht, hname⟩
    simp only [List.map_cons, Shape.readFields]
    rcases helements.nextElement with
      ⟨rfl, hnext⟩ | ⟨c, more, value, behind, rfl, hnext, hc, hmore⟩
    · rw [hnext]
      dsimp only
      by_cases hdefault : s.hasDefault
      · rw [if_pos (show s.field.hasDefault from hdefault)]
        have hends := ih hslots' hnames' h
          (.close (.none _) : SaysElements first [] (byte ']' :: rest) rest)
        simp only [List.length_nil, Nat.zero_le, List.drop_zero, List.zip_nil_right, true_and,
          List.forall_mem_cons, hdefault] at hends ⊢
        exact hends
      · rw [if_neg (show ¬s.field.hasDefault from hdefault)]
        refine .fault _ fun _ hfits => hdefault ?_
        exact hfits.2.1 s (List.mem_cons_self ..)
    · rw [hnext]
      simp only [List.length_cons, Nat.add_le_add_iff_right, List.drop_succ_cons,
        List.zip_cons_cons]
      rcases read_field hc hmore.stops with ⟨x, hread, hmakes⟩ | ⟨e, hread, hnot⟩
      · rw [hread]
        have habsent : ∀ m ∈ named, m.1 ≠ s.name := by
          intro m hm heq
          obtain ⟨t, ht, hname⟩ := hnames m hm
          exact (apart_of_done hslots ht).name (hname.symm.trans heq)
        have hlast : ∀ m ∈ named ++ [(s.name, c)], ∃ t ∈ done ++ [s], m.1 = t.name := by
          intro m hm
          rcases List.mem_append.mp hm with hm | hm
          · exact hnames' m hm
          · rw [List.mem_singleton.mp hm]
            exact ⟨s, List.mem_append_right _ (List.mem_cons_self ..), rfl⟩
        have hends := ih hslots' hlast (h.set hs habsent hmakes) hmore
        simp only [List.append_assoc, List.singleton_append] at hends
        exact hends
      · rw [hread]
        refine .fault e fun r' hfits => ?_
        obtain ⟨x, hmakes, -⟩ :=
          hfits.2.2.makes_of_mem hs (List.mem_append_right _ (List.mem_cons_self ..))
        exact hnot x hmakes

/-! ### Records -/

/-- The order of members does not matter. -/
theorem Keeps.perm (h : f.Keeps room r named) (hperm : named.Perm named') :
    f.Keeps room r named' := by
  intro s hs
  have hkept := h s hs
  cases hget : s.get r with
  | none =>
    rw [hget] at hkept
    exact fun m hm => hkept.absent m (hperm.mem_iff.mpr hm)
  | some x =>
    rw [hget] at hkept
    obtain ⟨c, hfilter, hmakes⟩ := hkept.only
    refine ⟨c, ?_, hmakes⟩
    have hsingle := hperm.filter (·.1 = s.name)
    rw [hfilter] at hsingle
    exact (List.singleton_perm.mp hsingle).symm

/-- Members in another order have the same names. -/
theorem exists_named_of_perm {members : List (Option String × Content)}
    (h : (Content.named named).Perm members) :
    ∃ named', members = Content.named named' ∧ named.Perm named' := by
  have hnamed := exists_named_iff (p := fun _ => True).mp ⟨named, rfl, fun _ _ => trivial⟩
  obtain ⟨named', rfl, -⟩ := exists_named_iff (p := fun _ => True).mpr
    fun m hm => hnamed m (h.mem_iff.mpr hm)
  refine ⟨named', rfl, (List.map_perm_map_iff ?_).mp h⟩
  rintro ⟨name, c⟩ ⟨name', c'⟩ heq
  cases heq
  rfl

/-- **A record is read where it can be filled**, and it is filled with what is said. -/
theorem complete (f : p.Full) (room : Nat) : Complete (shape.read room) (f.Makes room) := by
  intro c text rest h _
  obtain ⟨b, tail, hs, hstarts⟩ := h.starts
  rw [Shape.read, hs]
  cases hstarts with
  | array helements =>
    simp only [if_true]
    cases room with
    | zero => exact .fault _ fun _ hnot => hnot
    | succ room =>
      have hends := readFields_complete (List.nil_append _).symm (List.forall_mem_nil _)
        (f.keeps_empty room) helements
      rw [← f.fields_eq] at hends
      exact hends
  | @object written members _ _ hmembers hperm =>
    have hne : byte '\x7b' ≠ byte '[' := by decide
    simp only [hne, if_true, if_false]
    cases room with
    | zero => exact .fault _ fun _ hnot => hnot
    | succ room =>
      have hlength := hmembers.length_lt
      have hends := readMembers_complete (f.Keeps room)
        (fun _ _ _ _ _ _ _ => readMember_complete) (f.keeps_empty room) hmembers
        (show written.length < tail.length + 1 by omega)
      dsimp only
      generalize readMembers (shape.readMember room) (tail.length + 1) true shape.empty tail =
        result at hends
      cases hends with
      | read hkeeps =>
        obtain ⟨named, rfl, hkeeps⟩ := hkeeps
        obtain ⟨named', rfl, hnamed⟩ := exists_named_of_perm hperm
        exact .read ⟨named', rfl, hkeeps.perm hnamed⟩
      | fault e hnot =>
        refine .fault e ?_
        rintro r ⟨named', rfl, hkeeps⟩
        obtain ⟨named, rfl, hnamed⟩ := exists_named_of_perm hperm.symm
        exact hnot r ⟨named, rfl, hkeeps.perm hnamed⟩
  | number _ hnumeral =>
    have hbracket := isDigit_ne (c := '[') hnumeral.isDigit (by decide)
    have hbrace := isDigit_ne (c := '\x7b') hnumeral.isDigit (by decide)
    simp only [hbracket, hbrace, if_false]
    exact .fault _ fun _ hmakes => by cases room <;> exact hmakes
  | _ => exact .fault _ fun _ hmakes => by cases room <;> exact hmakes

theorem named_injective : Function.Injective Content.named := by
  refine List.map_injective_iff.mpr ?_
  rintro ⟨name, c⟩ ⟨name', c'⟩ heq
  cases heq
  rfl

theorem makes_object {members : List (String × Content)} :
    f.Makes (room + 1) (.object (Content.named members)) r ↔ f.Keeps room r members := by
  constructor
  · rintro ⟨named, hnamed, hkeeps⟩
    rwa [named_injective hnamed]
  · exact fun hkeeps => ⟨members, rfl, hkeeps⟩

/-- What fills two records fills them from the same members. -/
theorem Makes.both (h : f.Makes room c r) (h' : f.Makes room c r') :
    ∃ room named, f.Keeps room r named ∧ f.Keeps room r' named := by
  cases room with
  | zero => exact absurd h id
  | succ room =>
    cases c with
    | object members =>
      obtain ⟨named, rfl, hkeeps⟩ := h
      exact ⟨room, named, hkeeps, makes_object.mp h'⟩
    | array elements => exact ⟨room, _, h.2.2, h'.2.2⟩
    | _ => exact absurd h id

end Plan.Full

/-! ### Whole texts, one and two of them -/

/-- A text says something, with blanks around it. -/
def Utters (c : Content) (text : Bytes) : Prop := ∃ rest, Says c text rest ∧ Blanks rest []

/-- Two objects say the same under a name: nothing at all, or something once, and the same. -/
inductive SameUnder (same : Content → Content → Prop) (name : String)
    (named named' : List (String × Content)) : Prop where
  /-- There is no such member. -/
  | absent : named.filter (·.1 = name) = [] → named'.filter (·.1 = name) = [] →
      SameUnder same name named named'
  /-- There is one. -/
  | once {c c' : Content} : named.filter (·.1 = name) = [(name, c)] →
      named'.filter (·.1 = name) = [(name, c')] → same c c' → SameUnder same name named named'

theorem SameUnder.imp {same same' : Content → Content → Prop} {name : String}
    {named named' : List (String × Content)} (himp : ∀ c c', same c c' → same' c c')
    (h : SameUnder same name named named') : SameUnder same' name named named' := by
  cases h with
  | absent h h' => exact .absent h h'
  | once h h' hsame => exact .once h h' (himp _ _ hsame)

theorem SameUnder.symm {same : Content → Content → Prop} {name : String}
    {named named' : List (String × Content)} (h : SameUnder same name named named') :
    SameUnder (fun c c' => same c' c) name named' named := by
  cases h with
  | absent h h' => exact .absent h' h
  | once h h' hsame => exact .once h' h hsame

section

variable {α : Type} {kept kept' : Option α} {name : String} {makes : Content → α → Prop}
  {named named' : List (String × Content)}

theorem kept_none_iff : Kept none name makes named ↔ named.filter (·.1 = name) = [] := by
  simp only [Kept, List.filter_eq_nil_iff, decide_eq_true_eq]

/-- What is kept may be kept of members that say the same. -/
theorem Kept.congr (hsame : SameUnder (fun c c' => ∀ x, makes c x → makes c' x) name named named')
    (h : Kept kept name makes named) : Kept kept name makes named' := by
  cases hsame with
  | absent hnone hnone' =>
    cases kept with
    | none => exact kept_none_iff.mpr hnone'
    | some x =>
      obtain ⟨c, hfilter, -⟩ := h.only
      rw [hnone] at hfilter
      cases hfilter
  | @once c c' honce honce' himp =>
    cases kept with
    | none =>
      rw [kept_none_iff, honce] at h
      cases h
    | some x =>
      obtain ⟨d, hfilter, hmakes⟩ := h.only
      rw [honce] at hfilter
      cases hfilter
      exact ⟨c', honce', himp x hmakes⟩

/-- What is kept of the same members in two records is made of the same. -/
theorem Kept.both (h : Kept kept name makes named) (h' : Kept kept' name makes named) :
    kept = none ∧ kept' = none ∨
      ∃ c x x', kept = some x ∧ kept' = some x' ∧ makes c x ∧ makes c x' := by
  cases kept with
  | none =>
    cases kept' with
    | none => exact .inl ⟨rfl, rfl⟩
    | some x' =>
      obtain ⟨c, hfilter, -⟩ := h'.only
      rw [kept_none_iff, hfilter] at h
      cases h
  | some x =>
    obtain ⟨c, hfilter, hmakes⟩ := h.only
    cases kept' with
    | none =>
      rw [kept_none_iff, hfilter] at h'
      cases h'
    | some x' =>
      obtain ⟨c', hfilter', hmakes'⟩ := h'.only
      rw [hfilter] at hfilter'
      cases hfilter'
      exact .inr ⟨c, x, x', rfl, rfl, hmakes, hmakes'⟩

end

namespace Plan.Full

variable {ρ : Type} {shape : Shape ρ} {p : Plan shape} {f : p.Full} {r r' : ρ}
  {named named' : List (String × Content)} {c : Content} {text text' : Bytes}

/-- A whole text is read as a record where it can be filled, and not otherwise. -/
theorem parse_complete (f : p.Full) (h : Utters c text) :
    (∃ r, shape.parse text = .ok r ∧ f.Makes maxDepth c r) ∨
      ∃ e, shape.parse text = .error e ∧ ∀ r, ¬f.Makes maxDepth c r := by
  obtain ⟨rest, hc, hb⟩ := h
  have hends := f.complete maxDepth hc (.of_blanks hb .done)
  have hs := skipSpace_of_blanks_nil hb
  rw [Shape.parse, readWhole]
  generalize shape.read maxDepth text = result at hends
  cases hends with
  | read hmakes =>
    dsimp only
    rw [hs]
    exact .inl ⟨_, rfl, hmakes⟩
  | fault e hnot => exact .inr ⟨e, rfl, hnot⟩

/-- Members that say the same under all names of fields fill a record alike. -/
theorem keeps_iff {room : Nat} (hsame : ∀ s ∈ f.slots,
      SameUnder (fun c c' => ∀ x, s.makes room c x ↔ s.makes room c' x) s.name named named') :
    f.Keeps room r named ↔ f.Keeps room r named' := by
  constructor
  · intro hkeeps s hs
    exact (hkeeps s hs).congr ((hsame s hs).imp fun _ _ h x => (h x).mp)
  · intro hkeeps s hs
    exact (hkeeps s hs).congr ((hsame s hs).symm.imp fun _ _ h x => (h x).mpr)

/-- **Known members decide.** Of two objects that say the same under the known names either both
are read, and their fields are filled from the same members, or neither is. -/
theorem parse_alike (f : p.Full) (h : Utters (.object (Content.named named)) text)
    (h' : Utters (.object (Content.named named')) text')
    (hsame : ∀ s ∈ f.slots, ∀ room,
      SameUnder (fun c c' => ∀ x, s.makes room c x ↔ s.makes room c' x) s.name named named') :
    (∃ r r' room, shape.parse text = .ok r ∧ shape.parse text' = .ok r' ∧
        f.Keeps room r named ∧ f.Keeps room r' named) ∨
      ∃ e e', shape.parse text = .error e ∧ shape.parse text' = .error e' := by
  -- the bracket of the object takes its room
  obtain ⟨room, hroom⟩ : ∃ room, maxDepth = room + 1 := Nat.exists_eq_succ_of_ne_zero (by decide)
  have hfirst := f.parse_complete h
  have hsecond := f.parse_complete h'
  have hiff (r : ρ) : f.Keeps room r named' ↔ f.Keeps room r named :=
    (keeps_iff fun s hs => hsame s hs room).symm
  simp only [hroom, makes_object, hiff] at hfirst hsecond
  rcases hfirst with ⟨r, hr, hkeeps⟩ | ⟨e, he, hnot⟩
  · rcases hsecond with ⟨r', hr', hkeeps'⟩ | ⟨-, -, hnot'⟩
    · exact .inl ⟨r, r', room, hr, hr', hkeeps, hkeeps'⟩
    · exact absurd hkeeps (hnot' r)
  · rcases hsecond with ⟨r', -, hkeeps'⟩ | ⟨e', he', -⟩
    · exact absurd hkeeps' (hnot r')
    · exact .inr ⟨e, e', he, he'⟩

end Plan.Full

end Workbench.Json
