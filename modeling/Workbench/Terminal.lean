import Workbench.Account.Surface
import Workbench.Markup.PlainText

/-!
# The terminal

A terminal shows everything as lines of text, one after the other. A status that goes, and a form
that takes the place of another, leave no trace there. The output behind a terminal may fail; that
is never reported, and what follows is written as if nothing had happened.
-/

namespace Workbench.Terminal

open Workbench.Account (Event)
open Workbench.Markup (Fragment)

/-- A line of text. -/
def line (s : String) : String := s ++ "\n"

/-- What is written for an event. -/
def event : Event → String
  | .showForm _ | .clearStatus => ""
  | .setTitle title => line ("== " ++ title ++ " ==")
  | .showStatus message | .notify message => line message
  | .navigate view => line ("-> " ++ view.path)

/-- What is written for a sequence of events. -/
def events (es : List Event) : String := String.join (es.map event)

/-- What is written for a fragment. -/
def fragment (f : Fragment) : String := line f.plainText

/-- The state of the output behind a terminal. -/
inductive Output where
  /-- All is well. -/
  | working
  /-- Nothing can be written. -/
  | refusing
  /-- What is written arrives, but it is not known to. -/
  | unconfirmed
  deriving DecidableEq, Repr

/-- What arrives of a text that is written. -/
def Output.arrives : Output → String → String
  | .refusing, _ => ""
  | _, s => s

/-- One step at a terminal. -/
inductive Step where
  /-- An event is shown. -/
  | event (e : Event)
  /-- A fragment is shown. -/
  | fragment (f : Fragment)
  /-- The output changes its state. -/
  | output (o : Output)

/-- What arrives in each step. -/
def run (o : Output) : List Step → List String
  | [] => []
  | .event e :: rest => o.arrives (event e) :: run o rest
  | .fragment f :: rest => o.arrives (fragment f) :: run o rest
  | .output o :: rest => "" :: run o rest

end Workbench.Terminal
