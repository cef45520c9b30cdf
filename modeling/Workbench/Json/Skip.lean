import Workbench.Json.Reader

/-!
# Skipping values

A value under a name that nobody asked for is passed over. It has to be well-formed in the large,
but less is asked of it than of a value that is read: brackets may be nested to any depth, numbers
may be of any size, escapes need only hexadecimal digits and the encoding is not looked at. The
places that faults point to differ a little as well.
-/

namespace Workbench.Json

open Workbench.Text (Bytes)

/-- Skips a string after its opening quote. -/
def skipString : Bytes → Except Fault Bytes
  | [] => .error (.before .endInString [])
  | b :: rest =>
    if b = byte '"' then .ok rest
    else if b = byte '\\' then
      match rest with
      | [] => .error (.before .endInString [])
      | e :: rest =>
        if e = byte 'u' then
          match rest with
          | a :: b :: c :: d :: rest =>
            match hexNumber a b c d with
            | some _ => skipString rest
            | none => .error (.before .invalidEscape rest)
          | _ => .error (.before .endInString [])
        else
          match simpleEscape e with
          | some _ => skipString rest
          | none => .error (.before .invalidEscape rest)
    else if b < 32 then .error (.before .controlCharacter (b :: rest))
    else skipString rest

/-- Skips an exponent after its letter. -/
def skipExponent (text : Bytes) : Except Fault Bytes :=
  let text :=
    match text with
    | b :: rest => if b = byte '+' ∨ b = byte '-' then rest else text
    | [] => []
  match text with
  | [] => .error (.before .invalidNumber [])
  | b :: rest =>
    if isDigit b then .ok (rest.dropWhile isDigit) else .error (.before .invalidNumber rest)

/-- Skips a fraction after its point. -/
def skipFraction (text : Bytes) : Except Fault Bytes :=
  if (text.takeWhile isDigit).isEmpty then .error (.after .invalidNumber text)
  else
    match text.dropWhile isDigit with
    | b :: rest => if isExponentLetter b then skipExponent rest else .ok (b :: rest)
    | [] => .ok []

/-- Skips a number after its sign. -/
def skipNumber (text : Bytes) : Except Fault Bytes :=
  let behind (text : Bytes) : Except Fault Bytes :=
    match text with
    | b :: rest =>
      if b = byte '.' then skipFraction rest
      else if isExponentLetter b then skipExponent rest
      else .ok text
    | [] => .ok []
  match text with
  | [] => .error (.before .invalidNumber [])
  | b :: rest =>
    if b = byte '0' then
      match rest with
      | d :: _ => if isDigit d then .error (.after .invalidNumber rest) else behind rest
      | [] => behind []
    else if isDigit b then behind (rest.dropWhile isDigit)
    else .error (.before .invalidNumber rest)

/-- Skips a name after its opening quote, and its colon. -/
def skipKey (text : Bytes) : Except Fault Bytes :=
  match skipString text with
  | .error e => .error e
  | .ok rest => readColon rest

/-- Skips the elements of a sequence behind an element, and the closing bracket. -/
def skipElements (one : Bytes → Except Fault Bytes) : Nat → Bytes → Except Fault Bytes
  | 0, text => .error (.before .endInList text)
  | fuel + 1, text =>
    match skipSpace text with
    | [] => .error (.after .endInList [])
    | b :: rest =>
      if b = byte ']' then .ok rest
      else if b = byte ',' then
        match one rest with
        | .error e => .error e
        | .ok rest => skipElements one fuel rest
      else .error (.after .expectedListSeparator (b :: rest))

/-- Skips one member of an object. -/
def skipMember (one : Bytes → Except Fault Bytes) (text : Bytes) : Except Fault Bytes :=
  match skipSpace text with
  | [] => .error (.after .endInObject [])
  | b :: rest =>
    if b = byte '"' then
      match skipKey rest with
      | .error e => .error e
      | .ok rest => one rest
    else .error (.after .keyNotString (b :: rest))

/-- Skips the members of an object behind a member, and the closing bracket. -/
def skipMembers (one : Bytes → Except Fault Bytes) : Nat → Bytes → Except Fault Bytes
  | 0, text => .error (.before .endInObject text)
  | fuel + 1, text =>
    match skipSpace text with
    | [] => .error (.after .endInObject [])
    | b :: rest =>
      if b = byte '\x7d' then .ok rest
      else if b = byte ',' then
        match skipMember one rest with
        | .error e => .error e
        | .ok rest => skipMembers one fuel rest
      else .error (.after .expectedObjectSeparator (b :: rest))

/-- Skips a value. The number bounds the depth of its brackets. -/
def skipNested : Nat → Bytes → Except Fault Bytes
  | 0, text => .error (.before .tooDeep text)
  | fuel + 1, text =>
    match skipSpace text with
    | [] => .error (.after .endInValue [])
    | b :: rest =>
      if b = byte 'n' then readWord [byte 'u', byte 'l', byte 'l'] rest
      else if b = byte 't' then readWord [byte 'r', byte 'u', byte 'e'] rest
      else if b = byte 'f' then readWord [byte 'a', byte 'l', byte 's', byte 'e'] rest
      else if b = byte '-' then skipNumber rest
      else if isDigit b then skipNumber (b :: rest)
      else if b = byte '"' then skipString rest
      else if b = byte '[' then
        match skipSpace rest with
        | [] => .error (.after .endInList [])
        | c :: rest =>
          if c = byte ']' then .ok rest
          else
            match skipNested fuel (c :: rest) with
            | .error e => .error e
            | .ok rest => skipElements (skipNested fuel) (rest.length + 1) rest
      else if b = byte '\x7b' then
        match skipSpace rest with
        | [] => .error (.after .endInObject [])
        | c :: rest =>
          if c = byte '\x7d' then .ok rest
          else
            match skipMember (skipNested fuel) (c :: rest) with
            | .error e => .error e
            | .ok rest => skipMembers (skipNested fuel) (rest.length + 1) rest
      else .error (.after .expectedValue (b :: rest))

/-- Skips a value. There are fewer brackets than bytes, so the depth is never exhausted. -/
def skipValue (text : Bytes) : Except Fault Bytes := skipNested (text.length + 1) text

end Workbench.Json
