import Mathlib.Data.List.Pairwise
import Mathlib.Tactic.MkIffOfInductiveProp
import Workbench.Proofs.Json.Acceptance

/-!
# What is accepted as a record

A record is accepted as an object or as the sequence of its values. Either way its fields are
filled from members under their names, each from one member and from no other. This needs a plan
of the record: for each field the place where it is kept, apart from all others, and what a value
there has to mean.

* `Plan` — the plan of a record.
* `Plan.sound` — a record is read from a value that is one, and its fields are what it says.
-/

namespace Workbench.Json

open Workbench.Text (Bytes)

/-! ### What comes from one member -/

section

variable {α τ : Type} {kept kept' : Option α} {name : String} {makes : τ → α → Prop}
  {named named' : List (String × τ)}

/-- What is kept under a name comes from the only member of this name, and nothing is kept if there
is none. -/
def Kept (kept : Option α) (name : String) (makes : τ → α → Prop) (named : List (String × τ)) :
    Prop :=
  match kept with
  | none => ∀ m ∈ named, m.1 ≠ name
  | some x => ∃ c, named.filter (·.1 = name) = [(name, c)] ∧ makes c x

theorem Kept.absent (h : Kept none name makes named) : ∀ m ∈ named, m.1 ≠ name := h

theorem Kept.only {x : α} (h : Kept (some x) name makes named) :
    ∃ c, named.filter (·.1 = name) = [(name, c)] ∧ makes c x := h

/-- Members of other names do not matter. -/
theorem Kept.other (h : Kept kept name makes named) {m : String × τ} (hname : m.1 ≠ name) :
    Kept kept name makes (named ++ [m]) := by
  cases kept with
  | none =>
    intro m' hm'
    rcases List.mem_append.mp hm' with hm' | hm'
    · exact h.absent m' hm'
    · rwa [List.mem_singleton.mp hm']
  | some x =>
    obtain ⟨c, hfilter, hmakes⟩ := h.only
    refine ⟨c, ?_, hmakes⟩
    rw [List.filter_append, hfilter, List.filter_cons_of_neg (by simpa using hname)]
    rfl

/-- The first member of the name is the one that counts. -/
theorem kept_some {c : τ} {x : α} (habsent : ∀ m ∈ named, m.1 ≠ name) (hmakes : makes c x) :
    Kept (some x) name makes (named ++ [(name, c)]) := by
  refine ⟨c, ?_, hmakes⟩
  have hnone : named.filter (·.1 = name) = [] :=
    List.filter_eq_nil_iff.mpr fun m hm => by simpa using habsent m hm
  rw [List.filter_append, hnone, List.filter_cons_of_pos (by simp)]
  rfl

end

/-! ### Fields with their places -/

/-- A field with the place where it is kept, and what a value must be for what is kept there. -/
structure Slot (ρ : Type) where
  /-- What is kept. -/
  α : Type
  /-- The name under which it is written. -/
  name : String
  /-- What is kept in a record, if the field was read. -/
  get : ρ → Option α
  /-- Keeps something. -/
  set : α → ρ → ρ
  /-- Reads what is to be kept. -/
  read : Nat → Bytes → Except Fault (α × Bytes)
  /-- Whether it may be left out at the end of a sequence. -/
  hasDefault : Bool
  /-- What the value means. -/
  means : Tree → α → Prop
  /-- What is read is what the value means. -/
  sound : ∀ room, Sound (read room) means
  /-- What is kept is there. -/
  get_set : ∀ x r, get (set x r) = some x

namespace Slot

variable {ρ : Type}

/-- The field alone. -/
def field (s : Slot ρ) : RecordField ρ := .ofSlot s.name s.get s.set s.read s.hasDefault

/-- How many values of some fields are needed in a sequence: those up to the last one that has no
default. -/
def needed : List (Slot ρ) → Nat
  | [] => 0
  | s :: slots => if (s :: slots).all (·.hasDefault) then 0 else needed slots + 1

/-- Two fields have different names and different places. -/
@[mk_iff]
structure Apart (s t : Slot ρ) : Prop where
  /-- The names are different. -/
  name : s.name ≠ t.name
  /-- What is kept in the first one does not change the second one. -/
  left : ∀ x r, t.get (s.set x r) = t.get r
  /-- Nor the other way round. -/
  right : ∀ x r, s.get (t.set x r) = s.get r

/-- A record keeps what the only member of a name means, and nothing if there is none. -/
def Tells (s : Slot ρ) (r : ρ) (named : List (String × Tree)) : Prop :=
  match s.get r with
  | none => ∀ m ∈ named, m.1 ≠ s.name
  | some x => ∃ tree, named.filter (·.1 = s.name) = [(s.name, tree)] ∧ s.means tree x

variable {s t : Slot ρ} {r r' : ρ} {named : List (String × Tree)} {name : String} {tree : Tree}

instance : Std.Symm (@Apart ρ) := ⟨fun _ _ h => ⟨h.name.symm, h.right, h.left⟩⟩

theorem needed_of_default {slots : List (Slot ρ)} (h : ∀ s ∈ slots, s.hasDefault = true) :
    needed slots = 0 := by
  cases slots with
  | nil => rfl
  | cons s slots => rw [needed, if_pos (List.all_eq_true.mpr h)]

theorem needed_cons_le (s : Slot ρ) (slots : List (Slot ρ)) :
    needed (s :: slots) ≤ needed slots + 1 := by
  rw [needed]
  split
  next => exact Nat.zero_le _
  next => exact Nat.le_refl _

theorem tells_iff_kept : s.Tells r named ↔ Kept (s.get r) s.name s.means named := by
  rw [Tells]
  cases s.get r <;> rfl

theorem tells_of_none (hget : s.get r = none) (h : ∀ m ∈ named, m.1 ≠ s.name) :
    s.Tells r named := by
  rw [tells_iff_kept, hget]
  exact h

theorem Tells.absent (h : s.Tells r named) (hget : s.get r = none) :
    ∀ m ∈ named, m.1 ≠ s.name := by
  rw [tells_iff_kept, hget] at h
  exact h.absent

theorem Tells.only (h : s.Tells r named) {x : s.α} (hget : s.get r = some x) :
    ∃ tree, named.filter (·.1 = s.name) = [(s.name, tree)] ∧ s.means tree x := by
  rw [tells_iff_kept, hget] at h
  exact h.only

/-- Members of other names do not matter. -/
theorem Tells.other (h : s.Tells r named) (hget : s.get r' = s.get r) (hname : name ≠ s.name) :
    s.Tells r' (named ++ [(name, tree)]) := by
  rw [tells_iff_kept] at h ⊢
  rw [hget]
  exact h.other hname

/-- The first member of the name is the one that counts. -/
theorem tells_set {x : s.α} (habsent : ∀ m ∈ named, m.1 ≠ s.name) (hmeans : s.means tree x) :
    s.Tells (s.set x r) (named ++ [(s.name, tree)]) := by
  rw [tells_iff_kept, s.get_set]
  exact kept_some habsent hmeans

end Slot

/-- The plan of a record: its fields, all apart from each other, and with nothing kept in the
beginning. -/
structure Plan {ρ : Type} (shape : Shape ρ) where
  /-- The fields with their places. -/
  slots : List (Slot ρ)
  /-- They are the fields of the record. -/
  fields : shape.fields = slots.map Slot.field
  /-- They are apart. -/
  apart : slots.Pairwise Slot.Apart
  /-- They are empty in the beginning. -/
  empty : ∀ s ∈ slots, s.get shape.empty = none

/-- A tree is that of a record with members of the given names: an object, or the sequence of its
values, of which so many are needed at least. -/
def Tree.IsRecord (names : List String) (needed : Nat) : Tree → List (String × Tree) → Prop
  | .object members, named => List.Forall₂ Named members named
  | .array elements, named =>
    needed ≤ elements.length ∧ elements.length ≤ names.length ∧ named = names.zip elements
  | _, _ => False

namespace Plan

variable {ρ : Type} {shape : Shape ρ} {p : Plan shape} {r r' : ρ} {named : List (String × Tree)}
  {room : Nat} {name : String} {text rest : Bytes} {first : Bool}

/-- The names of the fields. -/
def names (p : Plan shape) : List String := p.slots.map (·.name)

/-- How many of its values are needed in a sequence. -/
def needed (p : Plan shape) : Nat := Slot.needed p.slots

/-- All fields keep what the members say. -/
def Tells (p : Plan shape) (r : ρ) (named : List (String × Tree)) : Prop :=
  ∀ s ∈ p.slots, s.Tells r named

/-- A tree is that of a record, whose fields keep what it says. -/
def Means (p : Plan shape) (tree : Tree) (r : ρ) : Prop :=
  ∃ named, tree.IsRecord p.names p.needed named ∧ p.Tells r named

theorem tells_empty (p : Plan shape) : p.Tells shape.empty [] := fun s hs =>
  Slot.tells_of_none (p.empty s hs) (List.forall_mem_nil _)

theorem apart_of_ne {s t : Slot ρ} (hs : s ∈ p.slots) (ht : t ∈ p.slots) (hne : s ≠ t) :
    s.Apart t :=
  p.apart.forall hs ht hne

/-- One more field is read from a member of its name. -/
theorem Tells.set (h : p.Tells r named) {s : Slot ρ} (hs : s ∈ p.slots) {x : s.α} {tree : Tree}
    (habsent : ∀ m ∈ named, m.1 ≠ s.name) (hmeans : s.means tree x) :
    p.Tells (s.set x r) (named ++ [(s.name, tree)]) := by
  intro t ht
  by_cases hst : s = t
  · subst hst
    exact Slot.tells_set habsent hmeans
  · have hapart := apart_of_ne hs ht hst
    exact (h t ht).other (hapart.left x r) hapart.name

/-- A member that belongs to no field is skipped. -/
theorem Tells.skip (h : p.Tells r named) (hname : ∀ s ∈ p.slots, s.name ≠ name) (tree : Tree) :
    p.Tells r (named ++ [(name, tree)]) := fun s hs =>
  (h s hs).other rfl (hname s hs).symm

/-! ### Objects -/

/-- A field is read from a value that means what it keeps. -/
theorem read_field {s : Slot ρ} (h : s.field.read room r text = .ok (r', rest)) :
    ∃ tree x, Leads tree text rest ∧ s.means tree x ∧ r' = s.set x r := by
  simp only [Slot.field, RecordField.ofSlot] at h
  split at h
  next x rest hx =>
    cases h
    obtain ⟨tree, htree, hmeans⟩ := s.sound room hx
    exact ⟨tree, x, htree, hmeans, rfl⟩
  next => cases h

/-- What is read of a member is kept in its field, if it belongs to one. -/
theorem readMember_sound (h : p.Tells r named)
    (hread : shape.readMember room r name text = .ok (r', rest)) :
    ∃ value tree, Blanks text (byte ':' :: value) ∧ Leads tree value rest ∧
      p.Tells r' (named ++ [(name, tree)]) := by
  unfold Shape.readMember at hread
  rw [p.fields] at hread
  split at hread
  next hfind =>
    split at hread
    next => cases hread
    next value hcolon =>
      split at hread
      next => cases hread
      next hskip =>
        cases hread
        obtain ⟨tree, htree⟩ := skipValue_sound hskip
        refine ⟨value, tree, readColon_sound hcolon, htree, h.skip (fun s hs => ?_) tree⟩
        have hne := List.find?_eq_none.mp hfind s.field (List.mem_map_of_mem hs)
        exact fun heq => hne (beq_iff_eq.mpr heq)
  next f hfind =>
    obtain ⟨s, hs, rfl⟩ := List.mem_map.mp (List.mem_of_find?_eq_some hfind)
    have hname := List.find?_some hfind
    obtain rfl : s.name = name := beq_iff_eq.mp hname
    split at hread
    next => cases hread
    next hset =>
      split at hread
      next => cases hread
      next value hcolon =>
        obtain ⟨tree, x, htree, hmeans, rfl⟩ := read_field hread
        have hget : s.get r = none := Option.not_isSome_iff_eq_none.mp hset
        exact ⟨value, tree, readColon_sound hcolon, htree, h.set hs ((h s hs).absent hget) hmeans⟩

/-! ### Sequences -/

/-- Before a closing bracket no more fields are read, so all of them must have a default. -/
theorem readFields_closed {fields : List (RecordField ρ)} {after : Bytes}
    (h : shape.readFields room fields first r (byte ']' :: after) = .ok (r', rest)) :
    r' = r ∧ rest = byte ']' :: after ∧ ∀ f ∈ fields, f.hasDefault = true := by
  induction fields with
  | nil =>
    cases h
    exact ⟨rfl, rfl, List.forall_mem_nil _⟩
  | cons f fields ih =>
    have hnext : nextElement first (byte ']' :: after) = .ok (.finished (byte ']' :: after)) := rfl
    rw [Shape.readFields, hnext] at h
    dsimp only at h
    split at h
    next hdefault =>
      obtain ⟨hr, hrest, hdefaults⟩ := ih h
      exact ⟨hr, hrest, List.forall_mem_cons.mpr ⟨hdefault, hdefaults⟩⟩
    next => cases h

theorem endList_sound (h : endList text = .ok rest) : Blanks text (byte ']' :: rest) := by
  have hb := blanks_skipSpace text
  unfold endList at h
  split at h
  next => cases h
  next b behind hs =>
    split at h
    next hclose =>
      cases h
      rw [hs, hclose] at hb
      exact hb
    next =>
      split at h
      next => split at h <;> cases h
      next => cases h

/-- The fields are read from the elements of a sequence in their order. -/
theorem readFields_sound {done todo : List (Slot ρ)} (hslots : p.slots = done ++ todo)
    (hnames : ∀ m ∈ named, ∃ s ∈ done, m.1 = s.name) (h : p.Tells r named)
    (hread : shape.readFields room (todo.map Slot.field) first r text = .ok (r', rest)) :
    ∃ elements, Slot.needed todo ≤ elements.length ∧ elements.length ≤ todo.length ∧
      (∀ after, Blanks rest (byte ']' :: after) → LeadsElements first elements text after) ∧
      p.Tells r' (named ++ (todo.map (·.name)).zip elements) := by
  induction todo generalizing done first r named text with
  | nil =>
    cases hread
    refine ⟨[], Nat.le_refl _, Nat.le_refl _, fun after => .close, ?_⟩
    rwa [List.zip_nil_right, List.append_nil]
  | cons s todo ih =>
    rw [List.map_cons, Shape.readFields] at hread
    split at hread
    next => cases hread
    next hnext =>
      split at hread
      next hdefault =>
        obtain ⟨after, rfl, hclose⟩ := nextElement_finished hnext
        obtain ⟨rfl, rfl, hdefaults⟩ := readFields_closed hread
        have hneeded : Slot.needed (s :: todo) = 0 := Slot.needed_of_default
          (List.forall_mem_cons.mpr ⟨hdefault, fun t ht => hdefaults _ (List.mem_map_of_mem ht)⟩)
        refine ⟨[], Nat.le_of_eq hneeded, Nat.zero_le _,
          fun _ hafter => .close (hclose.trans hafter), ?_⟩
        rwa [List.zip_nil_right, List.append_nil]
      next => cases hread
    next element hnext =>
      split at hread
      next => cases hread
      next r₁ behind hfield =>
        obtain ⟨tree, x, htree, hmeans, rfl⟩ := read_field hfield
        have hs : s ∈ p.slots := by
          rw [hslots]
          exact List.mem_append_right _ (List.mem_cons_self ..)
        have habsent : ∀ m ∈ named, m.1 ≠ s.name := by
          intro m hm heq
          obtain ⟨d, hd, hname⟩ := hnames m hm
          have hapart := p.apart
          rw [hslots] at hapart
          exact ((List.pairwise_append.mp hapart).2.2 d hd s (List.mem_cons_self ..)).name
            (hname.symm.trans heq)
        have hslots' : p.slots = (done ++ [s]) ++ todo := by
          rw [hslots, List.append_assoc]
          rfl
        have hnames' : ∀ m ∈ named ++ [(s.name, tree)], ∃ s' ∈ done ++ [s], m.1 = s'.name := by
          intro m hm
          rcases List.mem_append.mp hm with hm | hm
          · obtain ⟨d, hd, hname⟩ := hnames m hm
            exact ⟨d, List.mem_append_left _ hd, hname⟩
          · obtain rfl := List.mem_singleton.mp hm
            exact ⟨s, List.mem_append_right _ (List.mem_cons_self ..), rfl⟩
        obtain ⟨elements, hneeded, hlength, hleads, htells⟩ :=
          ih hslots' hnames' (h.set hs habsent hmeans) hread
        refine ⟨tree :: elements, Nat.le_trans (Slot.needed_cons_le s todo) (Nat.succ_le_succ hneeded),
          Nat.succ_le_succ hlength, fun after hafter => ?_, ?_⟩
        · exact nextElement_more hnext htree (hleads after hafter)
        · rwa [List.append_assoc] at htells

/-! ### Records -/

/-- **What is read as a record is one**, and its fields keep what it says. -/
theorem sound (p : Plan shape) (room : Nat) : Sound (shape.read room) p.Means := by
  intro text r rest h
  have hb := blanks_skipSpace text
  unfold Shape.read at h
  split at h
  next => cases h
  next b text hs =>
    rw [hs] at hb
    split at h
    next hlist =>
      split at h
      next => cases h
      next room =>
        rw [p.fields] at h
        split at h
        next => cases h
        next hfields =>
          split at h
          next => cases h
          next hend =>
            cases h
            obtain ⟨elements, hneeded, hlength, hleads, htells⟩ :=
              readFields_sound (List.nil_append _).symm (List.forall_mem_nil _) p.tells_empty
                hfields
            refine ⟨.array elements, hb.leads (hlist ▸ .array (hleads _ (endList_sound hend))), ?_⟩
            exact ⟨_, ⟨hneeded, by rwa [names, List.length_map], rfl⟩, htells⟩
    next =>
      split at h
      next hbrace =>
        split at h
        next => cases h
        next room =>
          obtain ⟨members, named, hmembers, hall, htells⟩ := readMembers_sound p.Tells
            (fun _ _ _ _ _ _ => readMember_sound) p.tells_empty h
          exact ⟨.object members, hb.leads (hbrace ▸ .object hmembers), named, hall, htells⟩
      next => cases h

end Plan

end Workbench.Json
