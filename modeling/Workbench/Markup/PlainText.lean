import Workbench.Markup.Basic
import Workbench.Text.Blank

/-!
# Markup as plain text

A surface that cannot show markup shows a text instead. The written form is cut at its angle
brackets; tags become line breaks, bullets or blanks, and the texts between them are decoded.
-/

namespace Workbench.Markup

/-- A stretch of written markup. -/
inductive Stretch where
  /-- What stands between two tags. -/
  | text (s : List Char)
  /-- What stands inside the brackets of a tag. -/
  | tag (s : List Char)
  deriving DecidableEq, Repr

/-- Cuts at angle brackets; `inside` tells that a bracket is open, and `seen` holds in reverse
what was read since the last cut. A bracket that is never closed opens no tag. -/
def cutFrom : (inside : Bool) → (seen : List Char) → List Char → List Stretch
  | _, seen, [] => [.text seen.reverse]
  | false, seen, c :: rest =>
    if c = '<' then .text seen.reverse :: cutFrom true [] rest
    else cutFrom false (c :: seen) rest
  | true, seen, c :: rest =>
    if c = '>' then .tag seen.reverse :: cutFrom false [] rest
    else cutFrom true (c :: seen) rest

/-- Cuts written markup into texts and tags. -/
def cut (markup : List Char) : List Stretch := cutFrom false [] markup

/-- The name of a tag: its first word, without the slash of a closing tag. -/
def tagName (s : List Char) : String :=
  String.ofList ((Text.words (s.dropWhile (· == '/'))).head?.getD [])

/-- Whether a tag closes an element. -/
def isClosing (s : List Char) : Bool := s.head? == some '/'

/-- Starts a new line unless one was just started; blanks before it go. The text is held in
reverse, as in all functions that follow. -/
def breakLine (out : List Char) : List Char :=
  match out.dropWhile (· == ' ') with
  | [] => []
  | c :: rest => if c = '\n' then c :: rest else '\n' :: c :: rest

/-- What a tag does to the text written so far. -/
def applyTag (s : List Char) (out : List Char) : List Char :=
  let name := tagName s
  if name = "li" ∧ !isClosing s then ' ' :: '-' :: breakLine out
  else if name = "h4" ∨ name = "ul" ∨ name = "pre" ∨ name = "p" ∨ name = "li" then breakLine out
  else if name = "span" ∧ isClosing s then
    match out with
    | [] => []
    | c :: rest => if c = '\n' then c :: rest else ' ' :: c :: rest
  else out

/-- What a stretch does to the text written so far. -/
def applyStretch (out : List Char) : Stretch → List Char
  | .text s => (decode s).reverse ++ out
  | .tag s => applyTag s out

/-- The text of written markup. -/
def toText (markup : List Char) : List Char :=
  Text.trim ((cut markup).foldl applyStretch []).reverse

/-- The text of a fragment. -/
def Fragment.plainText (f : Fragment) : String := String.ofList (toText f.markup.toList)

end Workbench.Markup
