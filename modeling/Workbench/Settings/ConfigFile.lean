import Workbench.Settings.Value

/-!
# Settings from a file

A configuration file has one setting on a line, a name and a value with an equals sign between
them. Names are bare or quoted, and a name with dots in it, or a headline in brackets, makes a
setting that has names and values of its own. Values are texts in one of four kinds of quotes,
numbers, truth values, dates, sequences and braces. Comments start with a number sign.
-/

namespace Workbench.Settings.ConfigFile

/-- What is left of a file, or the place where it cannot be read. -/
abbrev Reading (α : Type) := Except (List Char) (α × List Char)

/-- Drops blanks on one line. -/
def skipBlank (s : List Char) : List Char := s.dropWhile fun c => c == ' ' || c == '\t'

/-- Drops a comment. -/
def skipComment : List Char → List Char
  | '#' :: rest => rest.dropWhile (· ≠ '\n')
  | s => s

/-- Drops blanks, comments and ends of lines. -/
def skipLines : Nat → List Char → List Char
  | 0, s => s
  | fuel + 1, s =>
    match skipComment (skipBlank s) with
    | '\n' :: rest => skipLines fuel rest
    | '\r' :: '\n' :: rest => skipLines fuel rest
    | rest => rest

/-- The value of some digits in a base of at most sixteen. -/
def readBase (base : Nat) (digits : List Char) : Option Nat :=
  let letter? (c : Char) : Option Nat :=
    let c := c.toLower
    if 'a' ≤ c ∧ c ≤ 'f' then some (c.toNat - 87) else none
  digits.foldlM (fun n c =>
    match (Text.digit? c).orElse fun _ => letter? c with
    | some d => if d < base then some (base * n + d) else none
    | none => none) 0

/-- The character that a backslash and the given characters stand for, and what follows. -/
def readEscape (s : List Char) : Option (Char × List Char) :=
  let code (size : Nat) (rest : List Char) : Option (Char × List Char) :=
    match readBase 16 (rest.take size) with
    | some n =>
      if size ≤ rest.length ∧ n.isValidChar then some (Char.ofNat n, rest.drop size) else none
    | none => none
  match s with
  | 'b' :: rest => some ('\x08', rest)
  | 't' :: rest => some ('\t', rest)
  | 'n' :: rest => some ('\n', rest)
  | 'f' :: rest => some ('\x0c', rest)
  | 'r' :: rest => some ('\r', rest)
  | '"' :: rest => some ('"', rest)
  | '\\' :: rest => some ('\\', rest)
  | 'u' :: rest => code 4 rest
  | 'U' :: rest => code 8 rest
  | _ => none

/-- Reads a text up to the quote that closes it: on one line or over several, with or without
escapes. -/
def readText (quote : Char) (isLong hasEscapes : Bool) : Nat → List Char → Reading (List Char)
  | 0, s => .error s
  | fuel + 1, s =>
    let go (c : Char) (rest : List Char) : Reading (List Char) :=
      match readText quote isLong hasEscapes fuel rest with
      | .ok (cs, rest) => .ok (c :: cs, rest)
      | .error e => .error e
    match s with
    | [] => .error []
    | c :: rest =>
      if c = quote then
        if isLong then
          match rest with
          | c₁ :: c₂ :: after =>
            if c₁ = quote ∧ c₂ = quote ∧ after.head? ≠ some quote then .ok ([], after)
            else go c rest
          | _ => go c rest
        else .ok ([], rest)
      else if c = '\\' && hasEscapes then
        match rest with
        | '\n' :: _ =>
          if isLong then
            readText quote isLong hasEscapes fuel
              (rest.dropWhile fun c => c == ' ' || c == '\t' || c == '\n' || c == '\r')
          else .error s
        | _ =>
          match readEscape rest with
          | some (c, rest) => go c rest
          | none => .error s
      else if c = '\n' && !isLong then .error s
      else if (c.toNat < 0x20 && c ≠ '\t' && c ≠ '\n' && c ≠ '\r') || c.toNat = 0x7F then .error s
      else go c rest

/-- Reads a text from its opening quote on. -/
def readQuoted (quote : Char) (rest : List Char) : Reading (List Char) :=
  let hasEscapes := quote == '"'
  match rest with
  | c₁ :: c₂ :: after =>
    if c₁ = quote ∧ c₂ = quote then
      let body :=
        match after with
        | '\n' :: body => body
        | '\r' :: '\n' :: body => body
        | body => body
      readText quote true hasEscapes (body.length + 1) body
    else readText quote false hasEscapes (rest.length + 1) rest
  | _ => readText quote false hasEscapes (rest.length + 1) rest

/-- Whether a character can be a digit in some base. -/
def isAnyDigit (c : Char) : Bool := (readBase 16 [c]).isSome

/-- Digits without the underscores between them; an underscore anywhere else is refused. -/
def plainDigits : List Char → Option (List Char)
  | [] => some []
  | [c] => if c = '_' then none else some [c]
  | c :: '_' :: d :: rest =>
    if isAnyDigit c ∧ isAnyDigit d then (plainDigits (d :: rest)).map (c :: ·) else none
  | c :: rest => if c = '_' then none else (plainDigits rest).map (c :: ·)

/-- A whole number in a base of its own. -/
def ofBase (base : Nat) (digits : List Char) : Option Value :=
  match readBase base digits with
  | some n => if digits ≠ [] ∧ n < Nat.pow 2 63 then some (.integer n) else none
  | none => none

/-- The value of a word without quotes. -/
def ofWord (word : List Char) : Option Value :=
  if word = "true".toList then some (.boolean true)
  else if word = "false".toList then some (.boolean false)
  else
    let (negative, body) :=
      match word with
      | '-' :: rest => (true, rest)
      | '+' :: rest => (false, rest)
      | _ => (false, word)
    if body = "inf".toList then some (.infinite negative)
    else if body = "nan".toList then some .notNumber
    else
      match plainDigits body with
      | none => none
      | some ('0' :: 'x' :: digits) => if word.head? = some '0' then ofBase 16 digits else none
      | some ('0' :: 'o' :: digits) => if word.head? = some '0' then ofBase 8 digits else none
      | some ('0' :: 'b' :: digits) => if word.head? = some '0' then ofBase 2 digits else none
      | some digits =>
        let isDigit (c : Char) : Bool := (Text.digit? c).isSome
        if digits.all isDigit then
          if digits = [] ∨ (digits.head? = some '0' ∧ digits ≠ ['0']) then none
          else
            match Text.readInteger (Nat.pow 2 63) (if negative then '-' :: digits else digits) with
            | .ok i => some (.integer i)
            | .error _ => none
        else if (digits.take 4).all isDigit ∧ digits[4]? = some '-' then some .map
        else if digits.head?.any isDigit then
          readFloat (if negative then '-' :: digits else digits)
        else none

/-- Whether a character can stand in a name without quotes. -/
def isBare (c : Char) : Bool := c.isAlphanum || c == '_' || c == '-'

/-- Reads a name without dots. -/
def readSimpleName (s : List Char) : Reading String :=
  match s with
  | '"' :: rest => (readText '"' false true (rest.length + 1) rest).map fun r =>
      (String.ofList r.1, r.2)
  | '\'' :: rest => (readText '\'' false false (rest.length + 1) rest).map fun r =>
      (String.ofList r.1, r.2)
  | c :: _ =>
    if isBare c then .ok (String.ofList (s.takeWhile isBare), s.dropWhile isBare) else .error s
  | [] => .error []

/-- Reads a name: its first part, and whether more parts follow. -/
def readName : Nat → List Char → Reading (String × Bool)
  | 0, s => .error s
  | fuel + 1, s =>
    match readSimpleName (skipBlank s) with
    | .error e => .error e
    | .ok (name, rest) =>
      match skipBlank rest with
      | '.' :: rest =>
        match readName fuel rest with
        | .ok (_, rest) => .ok ((name, true), rest)
        | .error e => .error e
      | rest => .ok ((name, false), rest)

/-- Reads a name and the equals sign behind it. -/
def readNameEquals (s : List Char) : Reading (String × Bool) :=
  match readName (s.length + 1) s with
  | .error e => .error e
  | .ok (name, rest) =>
    match skipBlank rest with
    | '=' :: rest => .ok (name, rest)
    | rest => .error rest

/-- Reads parts with commas between them up to a closing bracket. -/
def readParts (part : List Char → Except (List Char) (List Char)) (close : Char) :
    Nat → List Char → Except (List Char) (List Char)
  | 0, s => .error s
  | fuel + 1, s =>
    match skipLines (s.length + 1) s with
    | [] => .error []
    | c :: rest =>
      if c = close then .ok rest
      else
        match part (c :: rest) with
        | .error e => .error e
        | .ok rest =>
          match skipLines (rest.length + 1) rest with
          | ',' :: rest => readParts part close fuel rest
          | c :: rest => if c = close then .ok rest else .error (c :: rest)
          | [] => .error []

/-- Reads a value. The number bounds how deep values are nested. -/
def readValue : Nat → List Char → Reading Value
  | 0, s => .error s
  | fuel + 1, s =>
    let part (s : List Char) : Except (List Char) (List Char) := (readValue fuel s).map (·.2)
    let member (s : List Char) : Except (List Char) (List Char) :=
      match readNameEquals s with
      | .error e => .error e
      | .ok (_, rest) => part rest
    match skipBlank s with
    | '"' :: rest => (readQuoted '"' rest).map fun r => (.text (String.ofList r.1), r.2)
    | '\'' :: rest => (readQuoted '\'' rest).map fun r => (.text (String.ofList r.1), r.2)
    | '[' :: rest =>
      (readParts part ']' (rest.length + 1) rest).map fun rest => (.sequence, rest)
    | '\x7b' :: rest =>
      (readParts member '\x7d' (rest.length + 1) rest).map fun rest => (.map, rest)
    | s =>
      let isWord (c : Char) : Bool := isBare c || c == '+' || c == '.' || c == ':'
      match ofWord (s.takeWhile isWord) with
      | some v => .ok (v, s.dropWhile isWord)
      | none => .error s

/-- Reads the end of a line. -/
def readEnd (s : List Char) : Except (List Char) (List Char) :=
  match skipComment (skipBlank s) with
  | [] => .ok []
  | '\n' :: rest => .ok rest
  | '\r' :: '\n' :: rest => .ok rest
  | rest => .error rest

/-- Reads a headline, from behind its first bracket on. -/
def readHeadline (s : List Char) : Reading (String × Value) :=
  let (isList, s) :=
    match s with
    | '[' :: rest => (true, rest)
    | _ => (false, s)
  match readName (s.length + 1) s with
  | .error e => .error e
  | .ok ((name, hasMore), rest) =>
    let value : Value := if isList && !hasMore then .sequence else .map
    match isList, skipBlank rest with
    | false, ']' :: rest => .ok ((name, value), rest)
    | true, ']' :: ']' :: rest => .ok ((name, value), rest)
    | _, rest => .error rest

/-- Reads the lines of a file; `inside` tells that a headline was read. A name may stand again
only if it has names of its own. -/
def readLines (inside : Bool) (settings : List (String × Value)) :
    Nat → List Char → Except (List Char) (List (String × Value))
  | 0, s => .error s
  | fuel + 1, s =>
    let known (name : String) : Option Value := (settings.find? fun e => e.1 == name).map (·.2)
    match skipLines (s.length + 1) s with
    | [] => .ok settings
    | '[' :: rest =>
      match readHeadline rest with
      | .error e => .error e
      | .ok ((name, value), rest) =>
        match readEnd rest with
        | .error e => .error e
        | .ok rest =>
          match known name with
          | none => readLines true (settings ++ [(name, value)]) fuel rest
          | some .map | some .sequence => readLines true settings fuel rest
          | some _ => .error s
    | s =>
      match readNameEquals s with
      | .error e => .error e
      | .ok ((name, hasMore), rest) =>
        match readValue (rest.length + 1) rest with
        | .error e => .error e
        | .ok (value, rest) =>
          match readEnd rest with
          | .error e => .error e
          | .ok rest =>
            let value := if hasMore then .map else value
            if inside then readLines inside settings fuel rest
            else
              match known name with
              | none => readLines inside (settings ++ [(name, value)]) fuel rest
              | some .map => if hasMore then readLines inside settings fuel rest else .error s
              | some _ => .error s

/-- The settings in a file, or the line and column where it cannot be read. -/
def read (text : String) : Except (Nat × Nat) (List (String × Value)) :=
  let s :=
    match text.toList with
    | '\uFEFF' :: rest => rest
    | s => s
  match readLines false [] (s.length + 1) s with
  | .ok settings => .ok settings
  | .error rest =>
    let before := s.take (s.length - rest.length)
    .error (before.count '\n' + 1, (before.reverse.takeWhile (· ≠ '\n')).length + 1)

end Workbench.Settings.ConfigFile
