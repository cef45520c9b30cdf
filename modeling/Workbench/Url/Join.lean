import Workbench.Url.Parser

/-!
# Joining addresses

A relative path is resolved against an address by replacing the last segment of its path; query
and fragment are dropped. To make every path fall beneath an address, the address must end in a
slash, so one is added first.
-/

namespace Workbench.Url

/-- The path that a text stands for in place of another one, with the slashes of a hierarchy if the
other one has them. Otherwise a slash at its start is encoded. -/
def Path.replace (scheme : String) (text : String) : Path → Path
  | .segments _ => .segments (pathOfText scheme (withoutBreaks text.toList))
  | .verbatim _ =>
    match text.toList with
    | '/' :: rest =>
      .verbatim (String.ofList
        (['%', '2', 'F'] ++ percentEncode isControl (withoutBreaks rest)))
    | s => .verbatim (String.ofList (percentEncode isControl (withoutBreaks s)))

/-- Reads a path in place of that of an address; nothing else changes. -/
def setPath (u : Url) (text : String) : Url := { u with path := u.path.replace u.scheme text }

/-- Whether a text ends in a slash. -/
def endsInSlash (text : String) : Bool := text.toList.getLast? == some '/'

/-- An address whose path ends in a slash, which is added if need be. -/
def withTrailingSlash (u : Url) : Url :=
  if endsInSlash u.path.text then u else u.setPath (u.path.text ++ "/")

/-- Resolves a relative path against an address. -/
def join (u : Url) (relative : String) : Except Fault Url :=
  match u.path with
  | .verbatim _ => .error .notJoinable
  | .segments parts =>
    let pieces := splitSlashes (isSpecial u.scheme) relative.toList
    .ok { u with
      path := .segments (addSegments u.scheme (dropLastSegment u.scheme parts) pieces)
      query := none
      fragment := none }

end Workbench.Url
