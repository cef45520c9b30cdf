import Workbench.Json.Basic

/-!
# Reading literals, strings and numbers

The parts of JSON text without structure. Each reader takes the unread bytes, starting just after
the byte that told which kind of part it is, and gives the part with the bytes behind it.
-/

namespace Workbench.Json

open Workbench.Text (Bytes)
open Workbench.Decimal (Binary64 Magnitude)

/-- The byte of an ASCII character. -/
abbrev byte (c : Char) : UInt8 := UInt8.ofNat c.toNat

/-- Space, line feed, tab and carriage return. -/
def isSpace (b : UInt8) : Bool := b == 32 || b == 10 || b == 9 || b == 13

/-- Skips blanks. -/
def skipSpace : Bytes → Bytes
  | [] => []
  | b :: rest => if isSpace b then skipSpace rest else b :: rest

/-- Whether a byte is a decimal digit. -/
def isDigit (b : UInt8) : Bool := byte '0' ≤ b && b ≤ byte '9'

/-- The value of a decimal digit. -/
def digitValue (b : UInt8) : Nat := b.toNat - 48

/-- The value of a hexadecimal digit. -/
def hexValue (b : UInt8) : Option Nat :=
  if isDigit b then some (b.toNat - 48)
  else if byte 'a' ≤ b && b ≤ byte 'f' then some (b.toNat - 87)
  else if byte 'A' ≤ b && b ≤ byte 'F' then some (b.toNat - 55)
  else none

/-- The number written by four hexadecimal digits. -/
def hexNumber (a b c d : UInt8) : Option Nat := do
  let a ← hexValue a
  let b ← hexValue b
  let c ← hexValue c
  let d ← hexValue d
  return ((a * 16 + b) * 16 + c) * 16 + d

/-- Reads the rest of a literal. -/
def readWord : List UInt8 → Bytes → Except Fault Bytes
  | [], rest => .ok rest
  | _ :: _, [] => .error (.before .endInValue [])
  | w :: word, b :: rest =>
    if b = w then readWord word rest else .error (.before .expectedIdent rest)

/-- The byte that a one-letter escape stands for. -/
def simpleEscape (b : UInt8) : Option UInt8 :=
  if b = byte '"' ∨ b = byte '\\' ∨ b = byte '/' then some b
  else if b = byte 'b' then some 8
  else if b = byte 'f' then some 12
  else if b = byte 'n' then some 10
  else if b = byte 'r' then some 13
  else if b = byte 't' then some 9
  else none

/-- Whether a number is the first half of a surrogate pair. -/
def isHighSurrogate (n : Nat) : Bool := 0xD800 ≤ n && n ≤ 0xDBFF

/-- Whether a number is the second half of a surrogate pair. -/
def isLowSurrogate (n : Nat) : Bool := 0xDC00 ≤ n && n ≤ 0xDFFF

/-- The bytes of the character with a given code point. -/
def codePoint (n : Nat) : Bytes := Text.Utf8.encodeChar (Char.ofNat n)

/-- Reads the second half of a surrogate pair, which is an escape of its own. -/
def readLowSurrogate (high : Nat) : Bytes → Reading Bytes
  | [] => .error (.before .endInString [])
  | b :: rest =>
    if b ≠ byte '\\' then .error (.before .endOfEscape rest)
    else
      match rest with
      | [] => .error (.before .endInString [])
      | u :: rest =>
        if u ≠ byte 'u' then .error (.before .endOfEscape rest)
        else
          match rest with
          | a :: b :: c :: d :: rest =>
            match hexNumber a b c d with
            | none => .error (.before .invalidEscape rest)
            | some low =>
              if isLowSurrogate low then
                .ok (codePoint ((high - 0xD800) * 0x400 + (low - 0xDC00) + 0x10000), rest)
              else .error (.before .loneSurrogate rest)
          | _ => .error (.before .endInString [])

/-- Reads an escape, after its backslash, as the bytes it stands for. -/
def readEscape : Bytes → Reading Bytes
  | [] => .error (.before .endInString [])
  | e :: rest =>
    if e = byte 'u' then
      match rest with
      | a :: b :: c :: d :: rest =>
        match hexNumber a b c d with
        | none => .error (.before .invalidEscape rest)
        | some n =>
          if isLowSurrogate n then .error (.before .loneSurrogate rest)
          else if isHighSurrogate n then readLowSurrogate n rest
          else .ok (codePoint n, rest)
      | _ => .error (.before .endInString [])
    else
      match simpleEscape e with
      | some b => .ok ([b], rest)
      | none => .error (.before .invalidEscape rest)

/-- Reads the bytes of a string up to its closing quote. The first argument bounds the number of
characters and escapes. -/
def readStringBytes : Nat → Bytes → Except Fault (Bytes × Bytes)
  | _, [] => .error (.before .endInString [])
  | 0, rest => .error (.before .endInString rest)
  | fuel + 1, b :: rest =>
    if b = byte '"' then .ok ([], rest)
    else if b = byte '\\' then do
      let (escaped, rest) ← readEscape rest
      let (more, rest) ← readStringBytes fuel rest
      return (escaped ++ more, rest)
    else if b < 32 then .error (.before .controlCharacter rest)
    else do
      let (more, rest) ← readStringBytes fuel rest
      return (b :: more, rest)

/-- Reads a string after its opening quote. A fault in its encoding points as far before the end
of the string as the decoded bytes reach beyond their well-formed part. -/
def readString (text : Bytes) : Except Fault (String × Bytes) := do
  let (data, rest) ← readStringBytes text.length text
  match Text.ofBytes? data with
  | some s => return (s, rest)
  | none =>
    .error ⟨.invalidCodePoint, some (rest.length + (data.length - Text.Utf8.validLength data))⟩

/-- Greatest integer that is kept exact. -/
def greatestInteger : Nat := Nat.pow 2 64 - 1

/-- Adds digits to a significand as long as it stays in range; the digits from the first one that
does not fit are left over. -/
def pushDigits (significand : Nat) : List UInt8 → Nat × List UInt8
  | [] => (significand, [])
  | d :: ds =>
    let next := significand * 10 + digitValue d
    if greatestInteger < next then (significand, d :: ds) else pushDigits next ds

/-- Divides by powers of ten, at most `10 ^ 308` at a time. -/
def divideByPowerOfTen (x : Magnitude) (k : Nat) : Option Magnitude :=
  if k ≤ 308 then do x.div (← Magnitude.powerOfTen k)
  else if x.significand = 0 then some x
  else do divideByPowerOfTen (← x.div (← Magnitude.powerOfTen 308)) (k - 308)
termination_by k

/-- The number `significand * 10 ^ exponent`, computed in two rounded steps: the significand
first, then one product or quotient by a power of ten. `none` when it is out of range. -/
def scale (significand : Nat) (exponent : Int) : Option Magnitude := do
  let x ← Magnitude.ofRatio significand 1
  match exponent with
  | .ofNat k =>
    if k ≤ 308 then x.mul (← Magnitude.powerOfTen k)
    else if x.significand = 0 then some x
    else none
  | .negSucc k => divideByPowerOfTen x (k + 1)

/-- A rounded number with its sign, or a fault that points before the unread bytes. -/
def rounded (negative : Bool) (x : Option Magnitude) (rest : Bytes) : Reading Number :=
  match x with
  | some m => .ok (.float ⟨negative, m⟩, rest)
  | none => .error (.before .numberOutOfRange rest)

/-- Greatest exponent that is read digit by digit. -/
def greatestExponent : Nat := Nat.pow 2 31 - 1

/-- Reads the digits of an exponent; `none` when it grows too large, with the bytes after the
digit that made it so. -/
def readExponentDigits (exponent : Nat) : Bytes → Option Nat × Bytes
  | [] => (some exponent, [])
  | b :: rest =>
    if isDigit b then
      let next := exponent * 10 + digitValue b
      if greatestExponent < next then (none, rest) else readExponentDigits next rest
    else (some exponent, b :: rest)

/-- Reads an exponent, after its letter, and finishes the number. -/
def readExponent (negative : Bool) (significand : Nat) (exponent : Int) (text : Bytes) :
    Reading Number :=
  let (minus, text) :=
    match text with
    | b :: rest =>
      if b = byte '+' then (false, rest) else if b = byte '-' then (true, rest) else (false, text)
    | [] => (false, [])
  match text with
  | [] => .error (.before .endInValue [])
  | b :: rest =>
    if isDigit b then
      match readExponentDigits 0 text with
      | (some e, rest) =>
        rounded negative (scale significand (if minus then exponent - e else exponent + e)) rest
      | (none, rest) =>
        if significand ≠ 0 ∧ !minus then .error (.before .numberOutOfRange rest)
        else .ok (.float ⟨negative, .zero⟩, rest.dropWhile isDigit)
    else .error (.before .invalidNumber rest)

/-- Whether a byte starts an exponent. -/
def isExponentLetter (b : UInt8) : Bool := b == byte 'e' || b == byte 'E'

/-- Finishes a number that may have an exponent. -/
def readScaled (negative : Bool) (significand : Nat) (exponent : Int) (text : Bytes) :
    Reading Number :=
  match text with
  | b :: rest =>
    if isExponentLetter b then readExponent negative significand exponent rest
    else rounded negative (scale significand exponent) text
  | [] => rounded negative (scale significand exponent) []

/-- Reads a fraction, after its point, and finishes the number. -/
def readFraction (negative : Bool) (significand : Nat) (exponent : Int) (text : Bytes) :
    Reading Number :=
  let digits := text.takeWhile isDigit
  let rest := text.dropWhile isDigit
  if digits.isEmpty then
    .error (.after (if text.isEmpty then .endInValue else .invalidNumber) text)
  else
    let (significand, dropped) := pushDigits significand digits
    readScaled negative significand (exponent - (digits.length - dropped.length)) rest

/-- An integer with its sign. Minus zero and integers below `-2 ^ 63` are rounded numbers. -/
def signedInteger (negative : Bool) (n : Nat) (rest : Bytes) : Reading Number :=
  if !negative then .ok (.integer n, rest)
  else if 0 < n ∧ n ≤ Nat.pow 2 63 then .ok (.integer (-n), rest)
  else rounded true (Magnitude.ofRatio n 1) rest

/-- Finishes a number after its integer digits. -/
def readAfterInteger (negative : Bool) (digits text : Bytes) : Reading Number :=
  let (significand, dropped) := pushDigits 0 digits
  match text with
  | b :: rest =>
    if b = byte '.' then readFraction negative significand dropped.length rest
    else if isExponentLetter b then readExponent negative significand dropped.length rest
    else if dropped.isEmpty then signedInteger negative significand text
    else rounded negative (scale significand dropped.length) text
  | [] =>
    if dropped.isEmpty then signedInteger negative significand []
    else rounded negative (scale significand dropped.length) []

/-- Reads a number after its sign, starting at the first digit. -/
def readNumber (negative : Bool) (text : Bytes) : Reading Number :=
  match text with
  | [] => .error (.before .endInValue [])
  | b :: rest =>
    if b = byte '0' then
      match rest with
      | d :: _ =>
        if isDigit d then .error (.after .invalidNumber rest)
        else readAfterInteger negative [b] rest
      | [] => readAfterInteger negative [b] []
    else if isDigit b then
      readAfterInteger negative (text.takeWhile isDigit) (text.dropWhile isDigit)
    else .error (.before .invalidNumber rest)

end Workbench.Json
