import Workbench.Url.Host

/-!
# Addresses

An address is kept in its parts, all in the form in which they are written: the scheme in lower
case, user name and password, host, port (unless it is the usual one of the scheme), path, query
and fragment. The path is either a list of segments or, for schemes without hierarchy, a single
piece of text.
-/

namespace Workbench

/-- The path of an address. -/
inductive Url.Path where
  /-- Segments, each written after a slash. -/
  | segments (parts : List String)
  /-- One text without structure. -/
  | verbatim (text : String)
  deriving DecidableEq, Repr

/-- Who answers at an address. -/
structure Url.Authority where
  /-- The user name, in percent encoding. -/
  user : String
  /-- The password, in percent encoding. -/
  password : String
  /-- The host. -/
  host : Url.Host
  /-- The port, unless it is the usual one. -/
  port : Option Nat
  deriving DecidableEq, Repr

/-- An address. -/
structure Url where
  /-- The scheme in lower case. -/
  scheme : String
  /-- Host and all that belongs to it. -/
  authority : Option Url.Authority
  /-- The path. -/
  path : Url.Path
  /-- The query, without its question mark. -/
  query : Option String
  /-- The fragment, without its number sign. -/
  fragment : Option String
  deriving DecidableEq, Repr

namespace Url

/-- The usual port of a special scheme. -/
def defaultPort? (scheme : String) : Option Nat :=
  if scheme = "http" ∨ scheme = "ws" then some 80
  else if scheme = "https" ∨ scheme = "wss" then some 443
  else if scheme = "ftp" then some 21
  else none

/-- Whether a scheme is special: its addresses always have a path, and a backslash in them counts
as a slash. -/
def isSpecial (scheme : String) : Bool := scheme == "file" || (defaultPort? scheme).isSome

/-- The text of a path. -/
def Path.text : Path → String
  | .segments parts => String.join (parts.map ("/" ++ ·))
  | .verbatim text => text

/-- The text of user, host and port, with the slashes in front. -/
def Authority.text (a : Authority) : String :=
  "//" ++ a.user ++ (if a.password.isEmpty then "" else ":" ++ a.password) ++
    (if a.user.isEmpty && a.password.isEmpty then "" else "@") ++ a.host.text ++
    (match a.port with
    | some port => ":" ++ toString port
    | none => "")

/-- What stands between scheme and path. Without a host, a path that starts with an empty segment
is set off by a dot so that the segment is not taken for one. -/
def leadText (u : Url) : String :=
  match u.authority, u.path with
  | some a, _ => a.text
  | none, .segments ("" :: _ :: _) => "/."
  | none, _ => ""

/-- A part of an address after its mark, when it is there. -/
def optionalText (mark : String) : Option String → String
  | some s => mark ++ s
  | none => ""

/-- The text of an address. -/
def text (u : Url) : String :=
  u.scheme ++ ":" ++ u.leadText ++ u.path.text ++ optionalText "?" u.query ++
    optionalText "#" u.fragment

/-- The text of path and query, as a request line names them. -/
def target (u : Url) : String := u.path.text ++ optionalText "?" u.query

end Url

end Workbench
