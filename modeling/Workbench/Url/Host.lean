import Workbench.Url.Domain

/-!
# Hosts

A host is a name, an IPv4 address or an IPv6 address. In the addresses of special schemes a name
whose last label is a number has to be an IPv4 address, of which the shortened forms with fewer
than four numbers and with octal or hexadecimal numbers are understood too. Addresses are written
in their canonical forms.
-/

namespace Workbench.Url

/-- Why a text is not an address. -/
inductive Fault where
  /-- A name in front of a colon is missing, and there is nothing to complete the address from. -/
  | relative
  /-- The address has no structure that a relative reference could be joined to. -/
  | notJoinable
  /-- The host is missing. -/
  | emptyHost
  /-- The host is no domain name. -/
  | badDomain
  /-- A host without special meaning has a character that may not stand in it. -/
  | badHostCharacter
  /-- The port is no number below `2 ^ 16`. -/
  | badPort
  /-- The host looks like an IPv4 address and is none. -/
  | badV4
  /-- The host stands in brackets and is no IPv6 address. -/
  | badV6
  deriving DecidableEq, Repr

/-- The words for a fault. -/
def Fault.message : Fault → String
  | .relative => "relative URL without a base"
  | .notJoinable => "relative URL with a cannot-be-a-base base"
  | .emptyHost => "empty host"
  | .badDomain => "invalid international domain name"
  | .badHostCharacter => "invalid domain character"
  | .badPort => "invalid port number"
  | .badV4 => "invalid IPv4 address"
  | .badV6 => "invalid IPv6 address"

/-- A host. -/
inductive Host where
  /-- A name, possibly empty. -/
  | name (s : String)
  /-- An IPv4 address. -/
  | v4 (address : Nat)
  /-- An IPv6 address as its eight pieces. -/
  | v6 (pieces : List Nat)
  deriving DecidableEq, Repr

/-- The number that digits of a base stand for; `none` when one of them is no digit. -/
def readDigits (base : Nat) (digits : List Char) : Option Nat :=
  digits.foldlM (fun n c => do
    let d ← hexDigit? c
    if d < base then some (n * base + d) else none) 0

/-- One number of an IPv4 address: hexadecimal after `0x`, octal after `0`, decimal otherwise. -/
def readV4Number : List Char → Option Nat
  | [] => none
  | '0' :: 'x' :: rest => readDigits 16 rest
  | '0' :: 'X' :: rest => readDigits 16 rest
  | '0' :: d :: rest => readDigits 8 (d :: rest)
  | digits => readDigits 10 digits

/-- The labels of a name, without the empty one after a final full stop. -/
def labels (name : List Char) : List (List Char) :=
  let all := splitDots name
  if 1 < all.length ∧ all.getLast? = some [] then all.dropLast else all

/-- Whether the last label of a name is a number. -/
def endsInNumber (name : List Char) : Bool :=
  match (labels name).getLast? with
  | none => false
  | some last =>
    (!last.isEmpty && last.all fun c => '0' ≤ c && c ≤ '9') || (readV4Number last).isSome

/-- Reads an IPv4 address: all numbers but the last are single bytes, the last one fills the
rest. -/
def readV4 (name : List Char) : Option Nat := do
  let numbers ← (labels name).mapM readV4Number
  let last ← numbers.getLast?
  let front := numbers.dropLast
  let room := Nat.pow 256 (4 - front.length)
  if 3 < front.length ∨ front.any (255 < ·) ∨ room ≤ last then none
  else some (front.foldl (fun n byte => n * 256 + byte) 0 * room + last)

/-- The four numbers of an IPv4 address. -/
def v4Bytes (address : Nat) : List Nat :=
  [address / 16777216 % 256, address / 65536 % 256, address / 256 % 256, address % 256]

/-- Splits at every colon. -/
def splitColons : List Char → List (List Char)
  | [] => [[]]
  | c :: rest =>
    match splitColons rest with
    | [] => if c = ':' then [[], []] else [[c]]
    | piece :: pieces => if c = ':' then [] :: piece :: pieces else (c :: piece) :: pieces

/-- One piece of an IPv6 address: one to four hexadecimal digits. -/
def readV6Piece (piece : List Char) : Option Nat :=
  if piece.isEmpty ∨ 4 < piece.length then none else readDigits 16 piece

/-- The IPv4 address at the end of an IPv6 address: four decimal numbers without leading zeros, as
two pieces. -/
def readV4Tail (piece : List Char) : Option (List Nat) := do
  let parts := splitDots piece
  if parts.length ≠ 4 then none
  let numbers ← parts.mapM fun p =>
    if p.isEmpty ∨ (1 < p.length ∧ p.head? = some '0') then none
    else do
      let n ← readDigits 10 p
      if n < 256 then some n else none
  match numbers with
  | [a, b, c, d] => some [a * 256 + b, c * 256 + d]
  | _ => none

/-- Some pieces of an IPv6 address, with an IPv4 address allowed at the end. -/
def readV6Run (pieces : List (List Char)) (mayEndInV4 : Bool) : Option (List Nat) :=
  match pieces with
  | [] => some []
  | [piece] =>
    if mayEndInV4 && piece.contains '.' then readV4Tail piece
    else (readV6Piece piece).map ([·])
  | piece :: pieces => do
    let n ← readV6Piece piece
    let ns ← readV6Run pieces mayEndInV4
    return n :: ns

/-- Cuts a text at the first double colon. -/
def cutDoubleColon : List Char → Option (List Char × List Char)
  | ':' :: ':' :: rest => some ([], rest)
  | c :: rest => (cutDoubleColon rest).map fun (a, b) => (c :: a, b)
  | [] => none

/-- Reads an IPv6 address. A double colon stands for as many zero pieces as are missing, at least
one. -/
def readV6 (text : List Char) : Option (List Nat) :=
  let run (part : List Char) (mayEndInV4 : Bool) : Option (List Nat) :=
    if part.isEmpty then some [] else readV6Run (splitColons part) mayEndInV4
  match cutDoubleColon text with
  | none => do
    let pieces ← run text true
    if pieces.length = 8 then some pieces else none
  | some (front, back) => do
    let front ← run front false
    let back ← run back true
    let known := front.length + back.length
    if known < 8 then some (front ++ List.replicate (8 - known) 0 ++ back) else none

/-- Length of the run of zeros at the front. -/
def zeroRun (pieces : List Nat) : Nat := (pieces.takeWhile (· == 0)).length

/-- Start and length of the first longest run of zeros. -/
def longestZeroRun (pieces : List Nat) : Nat × Nat :=
  (List.range pieces.length).foldl (fun best i =>
    let n := zeroRun (pieces.drop i)
    if best.2 < n then (i, n) else best) (0, 0)

/-- The pieces of an IPv6 address with colons between them. -/
def writePieces (pieces : List Nat) : List Char :=
  [':'].intercalate (pieces.map fun n => Nat.toDigits 16 n)

/-- The canonical text of an IPv6 address: the first longest run of two or more zeros is left out. -/
def writeV6 (pieces : List Nat) : List Char :=
  let (i, n) := longestZeroRun pieces
  if n < 2 then writePieces pieces
  else writePieces (pieces.take i) ++ [':', ':'] ++ writePieces (pieces.drop (i + n))

/-- The text of a host. -/
def Host.text : Host → String
  | .name s => s
  | .v4 address => ".".intercalate ((v4Bytes address).map toString)
  | .v6 pieces => "[" ++ String.ofList (writeV6 pieces) ++ "]"

/-- Reads a host in brackets. -/
def readBracketed (text : List Char) : Except Fault Host :=
  if text.getLast? = some ']' then
    match readV6 (text.drop 1).dropLast with
    | some pieces => .ok (.v6 pieces)
    | none => .error .badV6
  else .error .badV6

/-- Reads the host of a special scheme. -/
def readSpecialHost (text : List Char) : Except Fault Host :=
  if text.head? = some '[' then readBracketed text
  else
    match domainToAscii (percentDecode text) with
    | none => .error .badDomain
    | some name =>
      if name.isEmpty then .error .emptyHost
      else if endsInNumber name then
        match readV4 name with
        | some address => .ok (.v4 address)
        | none => .error .badV4
      else .ok (.name (String.ofList name))

/-- Reads the host of any other scheme, which has no meaning of its own. -/
def readPlainHost (text : List Char) : Except Fault Host :=
  if text.head? = some '[' then readBracketed text
  else if text.any isForbiddenInHost then .error .badHostCharacter
  else .ok (.name (String.ofList (percentEncode isControl text)))

end Workbench.Url
