import Workbench.Markup.Entity

/-!
# Markup

Markup is built from tags and texts. Texts are escaped when the markup is written down, so the
only tags in the written form are those that were put there as tags. A fragment is written markup
together with the style of the region that shows it.
-/

namespace Workbench.Markup

/-- The elements that fragments are made of. -/
inductive Tag where
  /-- A headline. -/
  | heading
  /-- A list of items. -/
  | list
  /-- An item of a list. -/
  | item
  /-- A paragraph. -/
  | paragraph
  /-- Text whose layout is kept. -/
  | preformatted
  /-- A stretch of text with a style of its own. -/
  | span
  deriving DecidableEq, Repr

/-- The name of an element. -/
def Tag.name : Tag → String
  | .heading => "h4"
  | .list => "ul"
  | .item => "li"
  | .paragraph => "p"
  | .preformatted => "pre"
  | .span => "span"

/-- A piece of markup. -/
inductive Piece where
  /-- The start of an element, with the name of its class if it has one. -/
  | opening (tag : Tag) (className : Option String)
  /-- The end of an element. -/
  | closing (tag : Tag)
  /-- A text. -/
  | text (s : String)
  deriving DecidableEq, Repr

/-- How a piece is written. -/
def Piece.write : Piece → String
  | .opening tag none => "<" ++ tag.name ++ ">"
  | .opening tag (some className) => "<" ++ tag.name ++ " class=\"" ++ className ++ "\">"
  | .closing tag => "</" ++ tag.name ++ ">"
  | .text s => escaped s

/-- How a sequence of pieces is written. -/
def write (pieces : List Piece) : String := String.join (pieces.map Piece.write)

/-- An element with a text inside. -/
def element (tag : Tag) (className : Option String) (s : String) : List Piece :=
  [.opening tag className, .text s, .closing tag]

/-- The style of the region that shows a fragment. -/
inductive Style where
  /-- No style of its own. -/
  | plain
  /-- Good news. -/
  | success
  /-- Bad news. -/
  | error
  deriving DecidableEq, Repr, Inhabited

/-- The class that a region takes on for a style. -/
def Style.className : Style → String
  | .plain => ""
  | .success => "success"
  | .error => "error"

/-- Written markup and the style in which it is shown. -/
structure Fragment where
  /-- The written form. -/
  markup : String
  /-- The style of the region. -/
  style : Style
  deriving DecidableEq, Repr

/-- What a region shows before anything is written to it. -/
def Fragment.empty : Fragment := ⟨"", .plain⟩

/-- The fragment of a sequence of pieces. -/
def Fragment.ofPieces (style : Style) (pieces : List Piece) : Fragment := ⟨write pieces, style⟩

end Workbench.Markup
