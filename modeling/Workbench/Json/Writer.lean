/-!
# Writing JSON text

Texts between quotes, and objects whose values are texts, in two forms: compact on one line, and
laid out with one member on each line. A quote, a backslash and the control characters below
U+0020 are escaped; every other character stands for itself.
-/

namespace Workbench.Json

/-- A hexadecimal digit. -/
def hexChar (n : Nat) : Char := if n < 10 then Char.ofNat (48 + n) else Char.ofNat (87 + n)

/-- One character inside a string. -/
def escapeChar (c : Char) : List Char :=
  if c = '"' then ['\\', '"']
  else if c = '\\' then ['\\', '\\']
  else if c = '\x08' then ['\\', 'b']
  else if c = '\x0c' then ['\\', 'f']
  else if c = '\n' then ['\\', 'n']
  else if c = '\r' then ['\\', 'r']
  else if c = '\t' then ['\\', 't']
  else if c.toNat < 0x20 then
    ['\\', 'u', '0', '0', hexChar (c.toNat / 16), hexChar (c.toNat % 16)]
  else [c]

/-- The characters of a string with its quotes. -/
def writeString (s : List Char) : List Char := '"' :: (s.flatMap escapeChar ++ ['"'])

/-- A text as JSON. -/
def ofText (s : String) : String := String.ofList (writeString s.toList)

/-- One member of a compact object. -/
def compactMember (m : String × String) : List Char :=
  writeString m.1.toList ++ ':' :: writeString m.2.toList

/-- An object of texts on one line. -/
def compactObject (members : List (String × String)) : String :=
  String.ofList ('\x7b' :: ([','].intercalate (members.map compactMember) ++ ['\x7d']))

/-- One member of an object with one member on each line. -/
def prettyMember (m : String × String) : List Char :=
  ' ' :: ' ' :: (writeString m.1.toList ++ ':' :: ' ' :: writeString m.2.toList)

/-- An object of texts with one member on each line. -/
def prettyObject (members : List (String × String)) : String :=
  String.ofList ('\x7b' :: '\n' ::
    ([',', '\n'].intercalate (members.map prettyMember) ++ ['\n', '\x7d']))

end Workbench.Json
