import Workbench.Url.Basic

/-!
# Reading addresses

An absolute address is read from left to right: scheme, user and password, host, port, path,
query, fragment. Blanks and controls around it are ignored, tabs and line ends are ignored
anywhere. Dot segments are resolved while the path is read.
-/

namespace Workbench.Url

/-- Drops tabs and line ends. -/
def withoutBreaks (s : List Char) : List Char := s.filter fun c => c ≠ '\t' ∧ c ≠ '\n' ∧ c ≠ '\r'

/-- Drops controls and spaces at both ends, and tabs and line ends anywhere. -/
def cleaned (s : List Char) : List Char :=
  let isEdge (c : Char) : Bool := c.toNat ≤ 0x20
  withoutBreaks ((s.dropWhile isEdge).reverse.dropWhile isEdge).reverse

/-- Whether a character may stand in a scheme behind its first letter. -/
def isSchemeChar (c : Char) : Bool :=
  c.isAlphanum || c == '+' || c == '-' || c == '.'

/-- The scheme in lower case and what follows its colon. -/
def takeScheme (s : List Char) : Option (String × List Char) :=
  match s with
  | c :: _ =>
    if c.isAlpha then
      match s.dropWhile isSchemeChar with
      | ':' :: rest =>
        some (String.ofList ((s.takeWhile isSchemeChar).map Char.toLower), rest)
      | _ => none
    else none
  | [] => none

/-- Whether a character separates segments. -/
def isSlash (special : Bool) (c : Char) : Bool := c == '/' || (special && c == '\\')

/-- Whether a character ends user, host and port. -/
def endsAuthority (special : Bool) (c : Char) : Bool :=
  isSlash special c || c == '?' || c == '#'

/-- Splits at every slash. -/
def splitSlashes (special : Bool) : List Char → List (List Char)
  | [] => [[]]
  | c :: rest =>
    match splitSlashes special rest with
    | [] => [[c]]
    | piece :: pieces =>
      if isSlash special c then [] :: piece :: pieces else (c :: piece) :: pieces

/-- A segment with encoded full stops written out, in lower case. -/
def dotForm (segment : List Char) : List Char :=
  match segment with
  | '%' :: '2' :: e :: rest =>
    if e = 'e' ∨ e = 'E' then '.' :: dotForm rest else segment
  | '.' :: rest => '.' :: dotForm rest
  | _ => segment

/-- Whether a segment means the current place. -/
def isSingleDot (segment : List Char) : Bool := dotForm segment == ['.']

/-- Whether a segment means the place above. -/
def isDoubleDot (segment : List Char) : Bool := dotForm segment == ['.', '.']

/-- Whether a segment is a drive letter with a colon or a bar. -/
def isDriveLetter (segment : List Char) : Bool :=
  match segment with
  | [c, mark] => c.isAlpha && (mark == ':' || mark == '|')
  | _ => false

/-- Leaves the last segment; the drive letter of a file stays. -/
def dropLastSegment (scheme : String) (path : List String) : List String :=
  match path with
  | [only] => if scheme = "file" ∧ isDriveLetter only.toList then path else []
  | _ => path.dropLast

/-- A segment in the form in which it is kept. -/
def keptSegment (scheme : String) (path : List String) (segment : List Char) : String :=
  if scheme = "file" ∧ path = [] ∧ isDriveLetter segment then
    String.ofList (segment.take 1 ++ [':'])
  else String.ofList (percentEncode inPathSet segment)

/-- Adds segments to a path one by one and resolves dot segments. A dot segment at the end leaves
an empty segment behind. -/
def addSegments (scheme : String) : List String → List (List Char) → List String
  | path, [] => path
  | path, segment :: rest =>
    let path :=
      if isDoubleDot segment then
        dropLastSegment scheme path ++ (if rest.isEmpty then [""] else [])
      else if isSingleDot segment then path ++ (if rest.isEmpty then [""] else [])
      else path ++ [keptSegment scheme path segment]
    addSegments scheme path rest

/-- The path that follows a host, or that starts with a slash. The path of a special scheme is
never empty, and that of a file does not start with empty segments. -/
def pathOfText (scheme : String) (text : List Char) : List String :=
  let special := isSpecial scheme
  let text' :=
    match text with
    | c :: rest => if isSlash special c then rest else text
    | [] => []
  if text.isEmpty ∧ !special then []
  else
    let parts := addSegments scheme [] (splitSlashes special text')
    if scheme = "file" then
      match parts.dropWhile (·.isEmpty) with
      | [] => [""]
      | parts => parts
    else parts

/-- Query and fragment behind a path. -/
def queryAndFragment (special : Bool) (text : List Char) : Option String × Option String :=
  let fragment (s : List Char) : Option String :=
    match s with
    | '#' :: rest => some (String.ofList (percentEncode inFragmentSet rest))
    | _ => none
  match text with
  | '?' :: rest =>
    let inSet := if special then inSpecialQuerySet else inQuerySet
    (some (String.ofList (percentEncode inSet (rest.takeWhile (· ≠ '#')))),
      fragment (rest.dropWhile (· ≠ '#')))
  | _ => (none, fragment text)

/-- Whether a character belongs to a path. -/
def inPath (c : Char) : Bool := c != '?' && c != '#'

/-- An address from its front part, with the path and what follows still to be read. -/
def finish (scheme : String) (authority : Option Authority) (text : List Char) : Url :=
  let (query, fragment) := queryAndFragment (isSpecial scheme) (text.dropWhile inPath)
  { scheme, authority, query, fragment,
    path := .segments (pathOfText scheme (text.takeWhile inPath)) }

/-- Splits user and password from the host at the last `@`. -/
def splitUser (text : List Char) : Option (List Char) × List Char :=
  if text.contains '@' then
    let back := text.reverse
    (some ((back.dropWhile (· ≠ '@')).drop 1).reverse, (back.takeWhile (· ≠ '@')).reverse)
  else (none, text)

/-- Splits a host from its port at the first colon outside brackets. -/
def splitPort (inside : Bool) : List Char → List Char × Option (List Char)
  | [] => ([], none)
  | c :: rest =>
    if c = ':' ∧ !inside then ([], some rest)
    else
      let inside := if c = '[' then true else if c = ']' then false else inside
      let (host, port) := splitPort inside rest
      (c :: host, port)

/-- Reads a port; the usual one is left out. -/
def readPort (scheme : String) (digits : List Char) : Except Fault (Option Nat) :=
  if digits.isEmpty then .ok none
  else
    match readDigits 10 digits with
    | none => .error .badPort
    | some n =>
      if 65535 < n then .error .badPort
      else if defaultPort? scheme = some n then .ok none
      else .ok (some n)

/-- Reads user, password, host and port. A host may be missing only where nothing else names
one. -/
def readAuthority (scheme : String) (text : List Char) : Except Fault Authority := do
  let special := isSpecial scheme
  let (userinfo, rest) := splitUser text
  if userinfo.isSome ∧ rest.isEmpty then throw .emptyHost
  let info := userinfo.getD []
  let user := String.ofList (percentEncode inUserSet (info.takeWhile (· ≠ ':')))
  let password := String.ofList (percentEncode inUserSet ((info.dropWhile (· ≠ ':')).drop 1))
  let (hostText, portText) := splitPort false rest
  if special ∧ hostText.isEmpty then throw .emptyHost
  let host ← if special then readSpecialHost hostText else readPlainHost hostText
  if hostText.isEmpty ∧ (portText.isSome ∨ userinfo.isSome) then throw .emptyHost
  let port ← readPort scheme (portText.getD [])
  return { user, password, host, port }

/-- Reads what follows the slashes of an address with a host. -/
def readWithAuthority (scheme : String) (text : List Char) : Except Fault Url := do
  let inside (c : Char) : Bool := !endsAuthority (isSpecial scheme) c
  let authority ← readAuthority scheme (text.takeWhile inside)
  return finish scheme (some authority) (text.dropWhile inside)

/-- The authority of a file, with its host alone. -/
def fileAuthority (host : Host) : Authority := ⟨"", "", host, none⟩

/-- Reads what follows the scheme of a file. `localhost` counts as no host. -/
def readFile (text : List Char) : Except Fault Url :=
  match text with
  | a :: b :: rest =>
    if isSlash true a ∧ isSlash true b then
      let inside (c : Char) : Bool := !endsAuthority true c
      let hostText := rest.takeWhile inside
      if isDriveLetter hostText then .ok (finish "file" (some (fileAuthority (.name ""))) rest)
      else if hostText.isEmpty then
        .ok (finish "file" (some (fileAuthority (.name ""))) (rest.dropWhile inside))
      else
        match readSpecialHost hostText with
        | .error e => .error e
        | .ok host =>
          let host := if host = .name "localhost" then .name "" else host
          .ok (finish "file" (some (fileAuthority host)) (rest.dropWhile inside))
    else .ok (finish "file" (some (fileAuthority (.name ""))) text)
  | _ => .ok (finish "file" (some (fileAuthority (.name ""))) text)

/-- Reads what follows a scheme without special meaning. -/
def readPlain (scheme : String) (text : List Char) : Except Fault Url :=
  match text with
  | '/' :: '/' :: rest => readWithAuthority scheme rest
  | '/' :: _ => .ok (finish scheme none text)
  | _ =>
    let (query, fragment) := queryAndFragment false (text.dropWhile inPath)
    .ok { scheme, authority := none, query, fragment,
          path := .verbatim (String.ofList (percentEncode isControl (text.takeWhile inPath))) }

/-- Reads an absolute address. -/
def parse (s : String) : Except Fault Url :=
  match takeScheme (cleaned s.toList) with
  | none => .error .relative
  | some (scheme, rest) =>
    if scheme = "file" then readFile rest
    else if isSpecial scheme then readWithAuthority scheme (rest.dropWhile (isSlash true))
    else readPlain scheme rest

end Workbench.Url
