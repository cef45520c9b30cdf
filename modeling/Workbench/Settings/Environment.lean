import Workbench.Settings.Value
import Workbench.Text.Blank

/-!
# Settings from the environment

A variable of the environment is a text, and what kind of value it stands for shows in the text.
With a comma it is a sequence, unless it starts like something with structure. Truth values may be
written in any case. Quotes make a text of anything, brackets a sequence and braces names with
values; what is left is a number if it can be one. A text that starts with structure and does not
keep to it stands for itself.
-/

namespace Workbench.Settings

/-- Blanks inside structured text. -/
def isSpace (c : Char) : Bool := c == ' ' || c == '\t' || c == '\n' || c == '\r' || c == '\x0c'

/-- Drops blanks. -/
def skipSpace (s : List Char) : List Char := s.dropWhile isSpace

/-- Characters that end a text without quotes. -/
def isSeparator (c : Char) : Bool :=
  c == ',' || c == '\x7b' || c == '\x7d' || c == '[' || c == ']'

/-- The text up to the closing quote, with the characters after backslashes taken as they are,
and what follows. -/
def readQuoted : List Char → Option (List Char × List Char)
  | [] => none
  | '"' :: rest => some ([], rest)
  | '\\' :: c :: rest => (readQuoted rest).map fun r => (c :: r.1, r.2)
  | c :: rest => (readQuoted rest).map fun r => (c :: r.1, r.2)

/-- The value of a text without structure. -/
def ofPlain (s : List Char) : Value :=
  let s := Text.trim s
  let float := if s.contains '.' then readFloat s else none
  match float with
  | some v => v
  | none =>
    match Text.readNatural (Nat.pow 2 64) s with
    | .ok n => .integer n
    | .error _ =>
      match Text.readInteger (Nat.pow 2 63) s with
      | .ok i => .integer i
      | .error _ => .text (String.ofList s)

/-- Reads what stands between brackets: parts with commas between them, the last of which may be
followed by one. -/
def readParts (part : List Char → Option (List Char)) (close : Char) :
    Nat → List Char → Option (List Char)
  | 0, _ => none
  | fuel + 1, s =>
    match skipSpace s with
    | c :: rest =>
      if c = close then some rest
      else
        match part (c :: rest) with
        | none => none
        | some rest =>
          match skipSpace rest with
          | ',' :: rest => readParts part close fuel rest
          | c :: rest => if c = close then some rest else none
          | [] => none
    | [] => none

/-- Reads a name and its equals sign. -/
def readName (s : List Char) : Option (List Char) :=
  let isNameChar (c : Char) : Bool := c.isAlphanum || c == '_' || c == '-'
  let afterName : Option (List Char) :=
    match skipSpace s with
    | '"' :: rest => (readQuoted rest).map (·.2)
    | c :: rest => if isNameChar c then some (rest.dropWhile isNameChar) else none
    | [] => none
  match afterName.map skipSpace with
  | some ('=' :: rest) => some rest
  | _ => none

/-- Whether a text starts with a word. -/
def startsWith (word : String) (s : List Char) : Bool := word.toList.isPrefixOf s

/-- Reads a value at the front of a text. The number bounds how deep values are nested. -/
def readValue : Nat → List Char → Option (Value × List Char)
  | 0, _ => none
  | fuel + 1, s =>
    let s := skipSpace s
    let result : Option (Value × List Char) :=
      if startsWith "true" s then some (.boolean true, s.drop 4)
      else if startsWith "false" s then some (.boolean false, s.drop 5)
      else
        let part (s : List Char) : Option (List Char) := (readValue fuel s).map (·.2)
        match s with
        | '\x7b' :: rest =>
          (readParts (fun s => (readName s).bind part) '\x7d' (rest.length + 1) rest).map
            fun rest => (.map, rest)
        | '[' :: rest =>
          (readParts part ']' (rest.length + 1) rest).map fun rest => (.sequence, rest)
        | '"' :: rest => (readQuoted rest).map fun r => (.text (String.ofList r.1), r.2)
        | '\'' :: rest =>
          match rest with
          | c :: '\'' :: rest => some (.text (String.singleton c), rest)
          | _ => none
        | _ => some (ofPlain (s.takeWhile fun c => !isSeparator c),
            s.dropWhile fun c => !isSeparator c)
    result.map fun r => (r.1, skipSpace r.2)

/-- The text in lower case, as far as it is ASCII. -/
def lowerCase (s : List Char) : String := String.ofList (s.map Char.toLower)

/-- The value that a variable of the environment stands for. -/
def ofVariable (raw : String) : Value :=
  let s := Text.trim raw.toList
  let structured := ['[', '\x7b', '"', '\''].any fun c => s.head? == some c
  if s.contains ',' && !structured then .sequence
  else if lowerCase s = "true" then .boolean true
  else if lowerCase s = "false" then .boolean false
  else
    match readValue (s.length + 1) s with
    | some (v, []) => v
    | _ => .text (String.ofList s)

end Workbench.Settings
