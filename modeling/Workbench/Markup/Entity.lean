/-!
# Entities

The five characters that mean something in markup, written as entities so that a text can stand
inside markup without being taken for a part of it, and the way back.
-/

namespace Workbench.Markup

/-- How a character is written inside markup. -/
def escapeChar (c : Char) : List Char :=
  if c = '&' then ['&', 'a', 'm', 'p', ';']
  else if c = '<' then ['&', 'l', 't', ';']
  else if c = '>' then ['&', 'g', 't', ';']
  else if c = '"' then ['&', 'q', 'u', 'o', 't', ';']
  else if c = '\'' then ['&', '#', '0', '3', '9', ';']
  else [c]

/-- How a text is written inside markup. -/
def escape (s : List Char) : List Char := s.flatMap escapeChar

/-- Replaces each of the five entities by its character. What an entity leaves behind is not read
a second time, and an ampersand that starts none of them stands for itself. -/
def decode : List Char → List Char
  | [] => []
  | '&' :: 'a' :: 'm' :: 'p' :: ';' :: rest => '&' :: decode rest
  | '&' :: 'l' :: 't' :: ';' :: rest => '<' :: decode rest
  | '&' :: 'g' :: 't' :: ';' :: rest => '>' :: decode rest
  | '&' :: 'q' :: 'u' :: 'o' :: 't' :: ';' :: rest => '"' :: decode rest
  | '&' :: '#' :: '0' :: '3' :: '9' :: ';' :: rest => '\'' :: decode rest
  | c :: rest => c :: decode rest

/-- A text with its five special characters written as entities. -/
def escaped (s : String) : String := String.ofList (escape s.toList)

end Workbench.Markup
