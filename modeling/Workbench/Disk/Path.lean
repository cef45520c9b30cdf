/-!
# Paths

The text of a path and its parts. Slashes separate the parts; slashes at the end and parts that
are a single dot are passed over, except that a dot at the very beginning counts.
-/

namespace Workbench.Disk.Path

/-- Removes separators at the end of a path that is given in reverse: slashes, and dots that
stand alone. The slash of the topmost folder stays. -/
def trimReversed : List Char → List Char
  | '/' :: c :: rest => trimReversed (c :: rest)
  | '.' :: '/' :: rest => trimReversed ('/' :: rest)
  | path => path

/-- The folder part and the last part of a path; the last part is missing when it is not the name
of anything, as in `/` and `..`. -/
def split (path : String) : String × Option String :=
  let trimmed := trimReversed path.toList.reverse
  let name := (trimmed.takeWhile (· ≠ '/')).reverse
  let front := trimReversed (trimmed.dropWhile (· ≠ '/'))
  (String.ofList front.reverse,
    if name = [] ∨ name = ['.'] ∨ name = ['.', '.'] then none else some (String.ofList name))

/-- The path of the folder around a path, if there is one. -/
def parent? (path : String) : Option String :=
  let trimmed := trimReversed path.toList.reverse
  if trimmed = [] ∨ trimmed = ['/'] then none else some (split path).1

/-- A path and the paths of the folders around it, innermost first; the number bounds how many. -/
def ancestors : Nat → String → List String
  | 0, path => [path]
  | fuel + 1, path =>
    match parent? path with
    | none => [path]
    | some p => path :: ancestors fuel p

/-- Whether a path starts at the topmost folder. -/
def isAbsolute (path : String) : Bool := path.toList.head? == some '/'

/-- A path beneath a folder; an absolute path stands for itself. -/
def join (folder path : String) : String :=
  if isAbsolute path || folder.isEmpty then path
  else if folder.toList.getLast? = some '/' then folder ++ path
  else folder ++ "/" ++ path

/-- Cuts a text at its slashes. -/
def pieces : List Char → List (List Char)
  | [] => [[]]
  | c :: rest =>
    if c = '/' then [] :: pieces rest
    else
      match pieces rest with
      | [] => [[c]]
      | piece :: more => (c :: piece) :: more

/-- The names on a path, dots among them. -/
def names (path : String) : List String :=
  ((pieces path.toList).filter fun p => !p.isEmpty).map String.ofList

end Workbench.Disk.Path
