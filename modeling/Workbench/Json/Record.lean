import Workbench.Json.Skip

/-!
# Reading records

A record is an object with fixed names. Names that it does not have are skipped, a name may stand
only once, and the members may come in any order. A record may also be written as the sequence of
its values in their declared order; such a sequence may end early where the fields that are left
out have a default.
-/

namespace Workbench.Json

open Workbench.Text (Bytes)

/-- One field of a record of type `ρ`. -/
structure RecordField (ρ : Type) where
  /-- The name under which it is written. -/
  name : String
  /-- Whether it was read already. -/
  isSet : ρ → Bool
  /-- Reads its value, with room for so many brackets, and keeps it. -/
  read : Nat → ρ → Bytes → Except Fault (ρ × Bytes)
  /-- Whether it may be left out at the end of a sequence. -/
  hasDefault : Bool

/-- A field that is kept in one place of the record. -/
def RecordField.ofSlot {ρ α : Type} (name : String) (get : ρ → Option α) (set : α → ρ → ρ)
    (read : Nat → Bytes → Except Fault (α × Bytes)) (hasDefault : Bool) : RecordField ρ where
  name := name
  isSet r := (get r).isSome
  read room r text :=
    match read room text with
    | .ok (x, rest) => .ok (set x r, rest)
    | .error e => .error e
  hasDefault := hasDefault

/-- The form of a record of type `ρ`. -/
structure Shape (ρ : Type) where
  /-- The name that faults give it. -/
  name : String
  /-- Its fields in declared order. -/
  fields : List (RecordField ρ)
  /-- The record before anything is read. -/
  empty : ρ

/-- The fault of a name that stands twice: it points behind the name and the blanks after it, and
behind the closing bracket when that comes next. -/
def duplicate (name : String) (text : Bytes) : Fault :=
  match skipSpace text with
  | b :: rest =>
    .before (.duplicateField name) (if b = byte '\x7d' then rest else b :: rest)
  | [] => .before (.duplicateField name) []

/-- Reads one member of a record, from the end of its name. -/
def Shape.readMember {ρ : Type} (shape : Shape ρ) (room : Nat) (r : ρ) (name : String)
    (text : Bytes) : Except Fault (ρ × Bytes) :=
  match shape.fields.find? fun f => f.name == name with
  | none =>
    match readColon text with
    | .error e => .error e
    | .ok rest =>
      match skipValue rest with
      | .error e => .error e
      | .ok rest => .ok (r, rest)
  | some f =>
    if f.isSet r then .error (duplicate name text)
    else
      match readColon text with
      | .error e => .error e
      | .ok rest => f.read room r rest

/-- Reads the values of the given fields from a sequence, up to the end of the last one. -/
def Shape.readFields {ρ : Type} (shape : Shape ρ) (room : Nat) :
    List (RecordField ρ) → Bool → ρ → Bytes → Except Fault (ρ × Bytes)
  | [], _, r, text => .ok (r, text)
  | f :: fields, first, r, text =>
    match nextElement first text with
    | .error e => .error e
    | .ok (.finished rest) =>
      if f.hasDefault then shape.readFields room fields first r rest
      else
        .error (.before (.tooShort (shape.fields.length - (fields.length + 1)) shape.name
          shape.fields.length) rest.tail)
    | .ok (.more rest) =>
      match f.read room r rest with
      | .error e => .error e
      | .ok (r, rest) => shape.readFields room fields false r rest

/-- Reads the closing bracket of a sequence that may hold nothing more. -/
def endList (text : Bytes) : Except Fault Bytes :=
  match skipSpace text with
  | [] => .error (.after .endInList [])
  | b :: rest =>
    if b = byte ']' then .ok rest
    else if b = byte ',' then
      match skipSpace rest with
      | c :: rest =>
        .error (.after (if c = byte ']' then .trailingComma else .trailingCharacters) (c :: rest))
      | [] => .error (.after .trailingCharacters [])
    else .error (.after .trailingCharacters (b :: rest))

/-- Reads a record. -/
def Shape.read {ρ : Type} (shape : Shape ρ) (room : Nat) (text : Bytes) :
    Except Fault (ρ × Bytes) :=
  match skipSpace text with
  | [] => .error (.after .endInValue [])
  | b :: rest =>
    if b = byte '[' then
      match room with
      | 0 => .error (.after .tooDeep (b :: rest))
      | room + 1 =>
        match shape.readFields room shape.fields true shape.empty rest with
        | .error e => .error e
        | .ok (r, rest) =>
          match endList rest with
          | .error e => .error e
          | .ok rest => .ok (r, rest)
    else if b = byte '\x7b' then
      match room with
      | 0 => .error (.after .tooDeep (b :: rest))
      | room + 1 => readMembers (shape.readMember room) (rest.length + 1) true shape.empty rest
    else .error (unwanted (.record shape.name) b rest)

/-- The record that a text stands for. -/
def Shape.parse {ρ : Type} (shape : Shape ρ) (text : Bytes) : Except Fault ρ :=
  readWhole (shape.read maxDepth) text

end Workbench.Json
