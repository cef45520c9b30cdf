import Workbench.Text.Utf8

/-!
# Percent encoding

A character that may not stand in a part of an address is written as its bytes, each as a percent
sign with two hexadecimal digits. Which characters those are depends on the part; characters
beyond ASCII and controls are always among them.
-/

namespace Workbench.Url

open Workbench.Text (Bytes)

/-- Controls and everything beyond ASCII. -/
def isControl (c : Char) : Bool := c.toNat < 0x20 || 0x7E < c.toNat

/-- The characters encoded in a fragment. -/
def inFragmentSet (c : Char) : Bool := isControl c || " \"<>\x60".toList.contains c

/-- The characters encoded in a query. -/
def inQuerySet (c : Char) : Bool := isControl c || " \"#<>".toList.contains c

/-- The characters encoded in the query of a special scheme. -/
def inSpecialQuerySet (c : Char) : Bool := inQuerySet c || c == '\''

/-- The characters encoded in a path. -/
def inPathSet (c : Char) : Bool := inQuerySet c || "?^\x60\x7b\x7d".toList.contains c

/-- The characters encoded in a user name or a password. -/
def inUserSet (c : Char) : Bool := inPathSet c || "/:;=@[\\]|".toList.contains c

/-- An upper-case hexadecimal digit. -/
def upperHex (n : Nat) : Char := if n < 10 then Char.ofNat (48 + n) else Char.ofNat (55 + n)

/-- One byte in percent encoding. -/
def encodeByte (b : UInt8) : List Char :=
  ['%', upperHex (b.toNat / 16), upperHex (b.toNat % 16)]

/-- Encodes the characters of a set. -/
def percentEncode (inSet : Char → Bool) (s : List Char) : List Char :=
  s.flatMap fun c => if inSet c then (Text.Utf8.encodeChar c).flatMap encodeByte else [c]

/-- The value of a hexadecimal digit. -/
def hexDigit? (c : Char) : Option Nat :=
  if '0' ≤ c ∧ c ≤ '9' then some (c.toNat - 48)
  else if 'a' ≤ c ∧ c ≤ 'f' then some (c.toNat - 87)
  else if 'A' ≤ c ∧ c ≤ 'F' then some (c.toNat - 55)
  else none

/-- The bytes of a text whose percent encodings are undone; a percent sign without two digits
stands for itself. -/
def percentDecode : List Char → Bytes
  | '%' :: a :: b :: rest =>
    match hexDigit? a, hexDigit? b with
    | some x, some y => UInt8.ofNat (x * 16 + y) :: percentDecode rest
    | _, _ => byteOfPercent :: percentDecode (a :: b :: rest)
  | c :: rest => Text.Utf8.encodeChar c ++ percentDecode rest
  | [] => []
where
  /-- The percent sign itself. -/
  byteOfPercent : UInt8 := 37

end Workbench.Url
