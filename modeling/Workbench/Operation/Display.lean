import Workbench.Markup.Basic
import Workbench.Operation.Outcome

/-!
# Showing operations

The fragment for each thing that can be said about an operation: that it is under way, that it
was not even started, that the backend could not be reached, and what the backend answered.
-/

namespace Workbench.Display

open Workbench.Markup

/-- An operation is under way. -/
def pending (op : Operation) : Fragment := .ofPieces .plain [.text op.pendingMessage]

/-- An error with its message. -/
def failure (message : String) : Fragment :=
  .ofPieces .error [.opening .span (some "error"), .text "Error: ", .text message, .closing .span]

/-- A time complexity. -/
def complexityPieces (complexity : String) : List Piece :=
  [.opening .span (some "success"), .text "Time Complexity: ", .text complexity, .closing .span]

/-- One diagnostic as an item of a list. -/
def diagnosticPieces (d : Diagnostic) : List Piece :=
  element .item (some d.severity.className) d.message

/-- The counts of the diagnostics. -/
def statsPieces (s : Stats) : List Piece :=
  element .paragraph (some "stats")
    ("Lexical: " ++ toString s.lexical ++ ", Syntax: " ++ toString s.syntactic ++
      ", Semantic: " ++ toString s.semantic)

/-- The answer to a compilation. Diagnostics leave the region without a style; only their items
have one. -/
def compiled : CompileOutcome → Fragment
  | .valid => .ofPieces .success (element .span (some "success") "\u2713 Compilation successful!")
  | .invalid diagnostics stats =>
    .ofPieces .plain
      (element .heading none "Compilation errors:" ++ [.opening .list none] ++
        diagnostics.flatMap diagnosticPieces ++ [.closing .list] ++
        (match stats with
        | some s => statsPieces s
        | none => []))

/-- The answer to an analysis. -/
def analyzed : AnalyzeOutcome → Fragment
  | .success complexity => .ofPieces .success (complexityPieces complexity)
  | .failure reason => failure reason

/-- The answer to an optimization. -/
def optimized : OptimizeOutcome → Fragment
  | .success code complexity =>
    .ofPieces .success
      (element .span (some "success") "Optimized Code:" ++ element .preformatted none code ++
        (match complexity with
        | some c => complexityPieces c
        | none => []))
  | .failure reason => failure reason

/-- The answer to any operation. -/
def outcome : Outcome → Fragment
  | .compile o => compiled o
  | .analyze o => analyzed o
  | .optimize o => optimized o

end Workbench.Display
