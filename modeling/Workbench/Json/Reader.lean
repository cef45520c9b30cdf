import Workbench.Json.Lexeme

/-!
# Reading values

Values with structure, read from the front of the unread bytes. Two loops carry all of it: one
over the elements of a sequence, one over the members of an object; both leave to their caller
what an element or a member is. A reader is told how many brackets may still be opened, and
refuses the next one when there is no room left.
-/

namespace Workbench.Json

open Workbench.Text (Bytes)

/-- How many brackets may be open at once. -/
def maxDepth : Nat := 127

/-- What comes next in a sequence or an object. -/
inductive Turn where
  /-- An element or a name; the unread bytes start with it. -/
  | more (rest : Bytes)
  /-- The closing bracket; it is the first unread byte. -/
  | finished (rest : Bytes)

/-- Looks for the next element of a sequence; `first` tells that none was read yet. -/
def nextElement (first : Bool) (text : Bytes) : Except Fault Turn :=
  match skipSpace text with
  | [] => .error (.after .endInList [])
  | b :: rest =>
    if b = byte ']' then .ok (.finished (b :: rest))
    else if first then .ok (.more (b :: rest))
    else if b = byte ',' then
      match skipSpace rest with
      | [] => .error (.after .endInValue [])
      | c :: rest =>
        if c = byte ']' then .error (.after .trailingComma (c :: rest))
        else .ok (.more (c :: rest))
    else .error (.after .expectedListSeparator (b :: rest))

/-- Looks for the next name of an object, which must start with a quote; the unread bytes start
after that quote. -/
def nextKey (first : Bool) (text : Bytes) : Except Fault Turn :=
  let key (rest : Bytes) : Except Fault Turn :=
    match rest with
    | [] => .error (.after .endInValue [])
    | c :: rest =>
      if c = byte '"' then .ok (.more rest)
      else if c = byte '\x7d' then .error (.after .trailingComma (c :: rest))
      else .error (.after .keyNotString (c :: rest))
  match skipSpace text with
  | [] => .error (.after .endInObject [])
  | b :: rest =>
    if b = byte '\x7d' then .ok (.finished (b :: rest))
    else if first then key (b :: rest)
    else if b = byte ',' then key (skipSpace rest)
    else .error (.after .expectedObjectSeparator (b :: rest))

/-- Reads the colon between a name and its value. -/
def readColon (text : Bytes) : Except Fault Bytes :=
  match skipSpace text with
  | [] => .error (.after .endInObject [])
  | b :: rest =>
    if b = byte ':' then .ok rest else .error (.after .expectedColon (b :: rest))

/-- Reads the elements of a sequence and its closing bracket. The number bounds the count of
elements. -/
def readElements {α : Type} (one : Bytes → Except Fault (α × Bytes)) :
    Nat → Bool → Bytes → Except Fault (List α × Bytes)
  | 0, _, text => .error (.before .endInList text)
  | fuel + 1, first, text =>
    match nextElement first text with
    | .error e => .error e
    | .ok (.finished rest) => .ok ([], rest.tail)
    | .ok (.more rest) =>
      match one rest with
      | .error e => .error e
      | .ok (x, rest) =>
        match readElements one fuel false rest with
        | .error e => .error e
        | .ok (xs, rest) => .ok (x :: xs, rest)

/-- Reads the members of an object and its closing bracket; `member` reads from the end of a name
to the end of its value. The number bounds the count of members. -/
def readMembers {σ : Type} (member : σ → String → Bytes → Except Fault (σ × Bytes)) :
    Nat → Bool → σ → Bytes → Except Fault (σ × Bytes)
  | 0, _, _, text => .error (.before .endInObject text)
  | fuel + 1, first, state, text =>
    match nextKey first text with
    | .error e => .error e
    | .ok (.finished rest) => .ok (state, rest.tail)
    | .ok (.more rest) =>
      match readString rest with
      | .error e => .error e
      | .ok (name, rest) =>
        match member state name rest with
        | .error e => .error e
        | .ok (state, rest) => readMembers member fuel false state rest

/-- Reads a value without structure whose first byte is given; `none` when no such value starts
with that byte. -/
def readScalar? (b : UInt8) (rest : Bytes) : Option (Except Fault (Value × Bytes)) :=
  let literal (word : List UInt8) (v : Value) : Except Fault (Value × Bytes) :=
    match readWord word rest with
    | .ok rest => .ok (v, rest)
    | .error e => .error e
  let number (negative : Bool) (text : Bytes) : Except Fault (Value × Bytes) :=
    match readNumber negative text with
    | .ok (n, rest) => .ok (.number n, rest)
    | .error e => .error e
  if b = byte 'n' then some (literal [byte 'u', byte 'l', byte 'l'] .null)
  else if b = byte 't' then some (literal [byte 'r', byte 'u', byte 'e'] (.boolean true))
  else if b = byte 'f' then
    some (literal [byte 'a', byte 'l', byte 's', byte 'e'] (.boolean false))
  else if b = byte '-' then some (number true rest)
  else if isDigit b then some (number false (b :: rest))
  else if b = byte '"' then
    some (match readString rest with
      | .ok (s, rest) => .ok (.string s, rest)
      | .error e => .error e)
  else none

/-- Reads any value. -/
def readValue (room : Nat) (text : Bytes) : Except Fault (Value × Bytes) :=
  match skipSpace text with
  | [] => .error (.after .endInValue [])
  | b :: rest =>
    match readScalar? b rest with
    | some result => result
    | none =>
      if b = byte '[' then
        match room with
        | 0 => .error (.after .tooDeep (b :: rest))
        | room + 1 =>
          match readElements (readValue room) (rest.length + 1) true rest with
          | .ok (elements, rest) => .ok (.array elements, rest)
          | .error e => .error e
      else if b = byte '\x7b' then
        match room with
        | 0 => .error (.after .tooDeep (b :: rest))
        | room + 1 =>
          let member (members : List (String × Value)) (name : String) (rest : Bytes) :
              Except Fault (List (String × Value) × Bytes) :=
            match readColon rest with
            | .error e => .error e
            | .ok rest =>
              match readValue room rest with
              | .ok (v, rest) => .ok (members ++ [(name, v)], rest)
              | .error e => .error e
          match readMembers member (rest.length + 1) true [] rest with
          | .ok (members, rest) => .ok (.object members, rest)
          | .error e => .error e
      else .error (.after .expectedValue (b :: rest))

/-- The fault of a value that is not of the wanted kind. A value without structure is read to its
end first, so a fault inside it comes before the complaint about its kind. -/
def unwanted (wanted : Wanted) (b : UInt8) (rest : Bytes) : Fault :=
  match readScalar? b rest with
  | some (.ok (v, rest)) => .before (.wrongType v.found wanted) rest
  | some (.error e) => e
  | none =>
    if b = byte '[' then .before (.wrongType .sequence wanted) (b :: rest)
    else if b = byte '\x7b' then .before (.wrongType .map wanted) (b :: rest)
    else .after .expectedValue (b :: rest)

/-- Reads a text. -/
def readText (text : Bytes) : Except Fault (String × Bytes) :=
  match skipSpace text with
  | [] => .error (.after .endInValue [])
  | b :: rest =>
    if b = byte '"' then readString rest else .error (unwanted .string b rest)

/-- Reads an integer that is not negative. -/
def readNatural (text : Bytes) : Except Fault (Nat × Bytes) :=
  match skipSpace text with
  | [] => .error (.after .endInValue [])
  | b :: rest =>
    if b = byte '-' ∨ isDigit b then
      match readNumber (b == byte '-') (if b = byte '-' then rest else b :: rest) with
      | .ok (.integer i, rest) =>
        if i < 0 then .error (.before (.wrongValue i .natural) rest) else .ok (i.toNat, rest)
      | .ok (.float x, rest) =>
        .error (.before (.wrongType (.number (.float x)) .natural) rest)
      | .error e => .error e
    else .error (unwanted .natural b rest)

/-- Reads either `null` or a value. -/
def readOptional {α : Type} (one : Bytes → Except Fault (α × Bytes)) (text : Bytes) :
    Except Fault (Option α × Bytes) :=
  match skipSpace text with
  | b :: rest =>
    if b = byte 'n' then
      match readWord [byte 'u', byte 'l', byte 'l'] rest with
      | .ok rest => .ok (none, rest)
      | .error e => .error e
    else
      match one (b :: rest) with
      | .ok (x, rest) => .ok (some x, rest)
      | .error e => .error e
  | [] =>
    match one [] with
    | .ok (x, rest) => .ok (some x, rest)
    | .error e => .error e

/-- Reads a sequence of texts. -/
def readTexts (room : Nat) (text : Bytes) : Except Fault (List String × Bytes) :=
  match skipSpace text with
  | [] => .error (.after .endInValue [])
  | b :: rest =>
    if b = byte '[' then
      match room with
      | 0 => .error (.after .tooDeep (b :: rest))
      | _ + 1 => readElements readText (rest.length + 1) true rest
    else .error (unwanted .sequence b rest)

/-- Reads an object all of whose values are texts, in the order in which they are written. -/
def readTextMap (room : Nat) (text : Bytes) : Except Fault (List (String × String) × Bytes) :=
  match skipSpace text with
  | [] => .error (.after .endInValue [])
  | b :: rest =>
    if b = byte '\x7b' then
      match room with
      | 0 => .error (.after .tooDeep (b :: rest))
      | _ + 1 =>
        let member (members : List (String × String)) (name : String) (rest : Bytes) :
            Except Fault (List (String × String) × Bytes) :=
          match readColon rest with
          | .error e => .error e
          | .ok rest =>
            match readText rest with
            | .ok (s, rest) => .ok (members ++ [(name, s)], rest)
            | .error e => .error e
        readMembers member (rest.length + 1) true [] rest
    else .error (unwanted .map b rest)

/-- Reads a text as one value with nothing but blanks behind it. -/
def readWhole {α : Type} (one : Bytes → Except Fault (α × Bytes)) (text : Bytes) :
    Except Fault α :=
  match one text with
  | .error e => .error e
  | .ok (x, rest) =>
    match skipSpace rest with
    | [] => .ok x
    | b :: rest => .error (.after .trailingCharacters (b :: rest))

/-- The value that a text stands for. -/
def parse (text : Bytes) : Except Fault Value := readWhole (readValue maxDepth) text

/-- The value of a name in an object: the last one when the name is written more than once. -/
def lookup {α : Type} (name : String) (members : List (String × α)) : Option α :=
  (members.reverse.find? fun m => m.1 == name).map (·.2)

end Workbench.Json
