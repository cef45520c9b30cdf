import Workbench.Text.Printable
import Workbench.Url.Percent
import Workbench.Url.Punycode

/-!
# Domain names

The form in which a domain name is kept: percent encodings undone, letters folded to lower case,
and every label with characters beyond ASCII written in punycode. A name is refused when a label
cannot be written that way or when a character is left that may not stand in a host.

Folding covers the Latin, Greek, Cyrillic, Armenian and Georgian capitals, the full-width forms of
ASCII, the ideographic full stops and the characters that a name ignores; it does not compose
letters with the marks that follow them.
-/

namespace Workbench.Url

open Workbench.Text (Bytes)

/-- The characters that may not stand in a host of any kind. -/
def isForbiddenInHost (c : Char) : Bool :=
  "\x00\t\n\r #/:<>?@[\\]^|".toList.contains c

/-- The characters that may not stand in a domain name. -/
def isForbiddenInDomain (c : Char) : Bool :=
  isForbiddenInHost c || c.toNat < 0x20 || c == '%' || c == '\x7f'

/-- Characters that a domain name ignores. -/
def isIgnoredInDomain (c : Char) : Bool :=
  let n := c.toNat
  n == 0xAD || n == 0x200B || n == 0x2060 || n == 0xFEFF || n == 0x34F ||
    (0x180B ≤ n && n ≤ 0x180D) || (0xFE00 ≤ n && n ≤ 0xFE0F)

/-- Blocks whose capitals stand at a fixed distance before their small letters: first and last
capital, and the distance. -/
def shiftedCapitals : List (Nat × Nat × Nat) := [
  (0x41, 0x5A, 32), (0xC0, 0xD6, 32), (0xD8, 0xDE, 32), (0x388, 0x38A, 37), (0x391, 0x3A1, 32),
  (0x3A3, 0x3AB, 32), (0x400, 0x40F, 80), (0x410, 0x42F, 32), (0x531, 0x556, 48),
  (0x10A0, 0x10C5, 7264), (0x10400, 0x10427, 40)]

/-- Blocks in which each capital of even code point stands just before its small letter. -/
def evenCapitals : List (Nat × Nat) := [
  (0x100, 0x12E), (0x132, 0x136), (0x14A, 0x176), (0x1DE, 0x1EE), (0x1F8, 0x21E), (0x222, 0x232),
  (0x246, 0x24E), (0x370, 0x372), (0x376, 0x376), (0x3D8, 0x3EE), (0x460, 0x480), (0x48A, 0x4BE),
  (0x4D0, 0x52E), (0x1E00, 0x1E94), (0x1EA0, 0x1EFE), (0xA640, 0xA66C), (0xA680, 0xA69A)]

/-- Blocks in which each capital of odd code point stands just before its small letter. -/
def oddCapitals : List (Nat × Nat) := [
  (0x139, 0x147), (0x179, 0x17D), (0x1CD, 0x1DB), (0x4C1, 0x4CD)]

/-- Capitals whose small letters follow no rule. -/
def singleCapitals : List (Nat × Nat) := [
  (0x178, 0xFF), (0x386, 0x3AC), (0x38C, 0x3CC), (0x38E, 0x3CD), (0x38F, 0x3CE), (0x4C0, 0x4CF),
  (0x17F, 0x73), (0x2126, 0x3C9), (0x212A, 0x6B), (0x212B, 0xE5)]

/-- The small letter of a capital; every other character is its own. -/
def foldCase (c : Char) : Char :=
  let n := c.toNat
  match shiftedCapitals.find? fun b => b.1 ≤ n && n ≤ b.2.1 with
  | some b => Char.ofNat (n + b.2.2)
  | none =>
    if evenCapitals.any fun b => b.1 ≤ n && n ≤ b.2 && n % 2 == 0 then Char.ofNat (n + 1)
    else if oddCapitals.any fun b => b.1 ≤ n && n ≤ b.2 && n % 2 == 1 then Char.ofNat (n + 1)
    else
      match singleCapitals.find? fun s => s.1 == n with
      | some s => Char.ofNat s.2
      | none => c

/-- What a character of a domain name becomes. -/
def foldInDomain (c : Char) : List Char :=
  let n := c.toNat
  if isIgnoredInDomain c then []
  else if n == 0x3002 || n == 0xFF61 then ['.']
  else if 0xFF01 ≤ n && n ≤ 0xFF5E then [foldCase (Char.ofNat (n - 0xFEE0))]
  else if n == 0x130 then ['i', '\u0307']
  else [foldCase c]

/-- Splits at every full stop. -/
def splitDots : List Char → List (List Char)
  | [] => [[]]
  | c :: rest =>
    match splitDots rest with
    | [] => if c = '.' then [[], []] else [[c]]
    | label :: labels => if c = '.' then [] :: label :: labels else (c :: label) :: labels

/-- Whether a label beyond ASCII is acceptable: every character is assigned and shown, the first
one is not a mark, and folding leaves it alone. -/
def isValidLabel (label : List Char) : Bool :=
  label.all (fun c => Text.isPrintable c && c.toNat != 0xFFFD && foldInDomain c == [c]) &&
    !(label.head?.map Text.isExtending).getD false

/-- The ASCII form of a label that is folded already. -/
def labelToAscii (label : List Char) : Option (List Char) :=
  if label.all fun c => c.toNat < 128 then
    match label with
    | 'x' :: 'n' :: '-' :: '-' :: rest =>
      match Punycode.decode rest with
      | some decoded =>
        if (decoded.any fun c => 128 ≤ c.toNat) && isValidLabel decoded then some label else none
      | none => none
    | _ => some label
  else if isValidLabel label then some ("xn--".toList ++ Punycode.encode label)
  else none

/-- The ASCII form of a domain name given by its bytes. -/
def domainToAscii (name : Bytes) : Option (List Char) := do
  let folded := (Text.Utf8.decodeLossy name).flatMap foldInDomain
  let labels ← (splitDots folded).mapM labelToAscii
  let ascii := ['.'].intercalate labels
  if ascii.any isForbiddenInDomain then none else some ascii

end Workbench.Url
