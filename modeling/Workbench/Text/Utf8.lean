/-!
# UTF-8

Bytes and the characters they stand for. Encoding is arithmetic on code points. Decoding reads
byte by byte and remembers which bytes may come next; a byte that may not come next ends the
sequence under way, and each maximal ill-formed piece counts as one fault. The strict decoder
accepts only texts without faults; the lenient one shows U+FFFD for each.
-/

namespace Workbench.Text

/-- A piece of binary data. -/
abbrev Bytes := List UInt8

namespace Utf8

/-- The bytes of one character. -/
def encodeChar (c : Char) : Bytes :=
  let n := c.toNat
  if n < 0x80 then [UInt8.ofNat n]
  else if n < 0x800 then [UInt8.ofNat (0xC0 + n / 64), UInt8.ofNat (0x80 + n % 64)]
  else if n < 0x10000 then
    [UInt8.ofNat (0xE0 + n / 4096), UInt8.ofNat (0x80 + n / 64 % 64), UInt8.ofNat (0x80 + n % 64)]
  else
    [UInt8.ofNat (0xF0 + n / 262144), UInt8.ofNat (0x80 + n / 4096 % 64),
      UInt8.ofNat (0x80 + n / 64 % 64), UInt8.ofNat (0x80 + n % 64)]

/-- The bytes of a sequence of characters. -/
def encode (s : List Char) : Bytes := s.flatMap encodeChar

/-- A multi-byte sequence under way. -/
structure Pending where
  /-- Least value the next byte may have. -/
  low : Nat
  /-- Greatest value the next byte may have. -/
  high : Nat
  /-- How many bytes follow the next one. -/
  missing : Nat
  /-- The bits of the code point collected so far. -/
  value : Nat
  deriving DecidableEq, Repr

/-- What the first byte of a sequence announces. -/
inductive Lead where
  /-- The byte is a whole character. -/
  | whole (c : Char)
  /-- More bytes belong to the character. -/
  | more (p : Pending)
  /-- No character starts with this byte. -/
  | bad
  deriving DecidableEq, Repr

/-- Reads a first byte. The narrower bounds after `E0`, `ED`, `F0` and `F4` shut out overlong
forms, surrogates and code points beyond U+10FFFF. -/
def Lead.ofByte (b : UInt8) : Lead :=
  let n := b.toNat
  if n < 0x80 then .whole (Char.ofNat n)
  else if n < 0xC2 then .bad
  else if n < 0xE0 then .more ⟨0x80, 0xBF, 0, n - 0xC0⟩
  else if n < 0xF0 then
    .more ⟨if n = 0xE0 then 0xA0 else 0x80, if n = 0xED then 0x9F else 0xBF, 1, n - 0xE0⟩
  else if n < 0xF5 then
    .more ⟨if n = 0xF0 then 0x90 else 0x80, if n = 0xF4 then 0x8F else 0xBF, 2, n - 0xF0⟩
  else .bad

/-- One byte read with no sequence under way: what it completes and what it leaves open. -/
def start (b : UInt8) : List (Option Char) × Option Pending :=
  match Lead.ofByte b with
  | .whole c => ([some c], none)
  | .more p => ([], some p)
  | .bad => ([none], none)

/-- One byte read: the characters (`none` for a fault) that it completes and the sequence that is
then under way. -/
def step : Option Pending → UInt8 → List (Option Char) × Option Pending
  | none, b => start b
  | some p, b =>
    if p.low ≤ b.toNat ∧ b.toNat ≤ p.high then
      let value := p.value * 64 + b.toNat % 64
      match p.missing with
      | 0 => ([some (Char.ofNat value)], none)
      | m + 1 => ([], some ⟨0x80, 0xBF, m, value⟩)
    else (none :: (start b).1, (start b).2)

/-- Decodes with a sequence possibly under way. -/
def decodeFrom : Option Pending → Bytes → List (Option Char)
  | none, [] => []
  | some _, [] => [none]
  | p, b :: rest => (step p b).1 ++ decodeFrom (step p b).2 rest

/-- The characters of a piece of data, with `none` for each maximal ill-formed piece. -/
def decode (data : Bytes) : List (Option Char) := decodeFrom none data

/-- The text of well-formed data. -/
def decode? (data : Bytes) : Option (List Char) := (decode data).mapM id

/-- The text of any data, with U+FFFD for each fault. -/
def decodeLossy (data : Bytes) : List Char := (decode data).map fun c => c.getD '\uFFFD'

/-- How many bytes stand before the first fault. -/
def validLength (data : Bytes) : Nat :=
  (encode ((decode data).takeWhile Option.isSome |>.filterMap id)).length

end Utf8

/-- The bytes of a text. -/
def toBytes (s : String) : Bytes := Utf8.encode s.toList

/-- The text of well-formed bytes. -/
def ofBytes? (data : Bytes) : Option String := (Utf8.decode? data).map String.ofList

/-- The text of any bytes, with U+FFFD for each ill-formed piece. -/
def ofBytesLossy (data : Bytes) : String := String.ofList (Utf8.decodeLossy data)

end Workbench.Text
