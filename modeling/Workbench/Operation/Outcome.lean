import Workbench.Operation.Basic

/-!
# Outcomes

What the backend answers to each operation, success or failure.
-/

namespace Workbench

/-- How bad a diagnostic is. -/
inductive Severity where
  /-- A warning. -/
  | warning
  /-- Anything else. -/
  | error
  deriving DecidableEq, Repr

/-- The class of a list item that shows a diagnostic. -/
def Severity.className : Severity → String
  | .warning => "warning"
  | .error => "error"

/-- Whether a word stands somewhere in a text. -/
def mentions (word : List Char) : List Char → Bool
  | [] => word.isEmpty
  | c :: rest => word.isPrefixOf (c :: rest) || mentions word rest

/-- One complaint of the compiler. -/
structure Diagnostic where
  /-- The complaint. -/
  message : String
  deriving DecidableEq, Repr

/-- A complaint that mentions the word `Warning`, in this spelling, is a warning. -/
def Diagnostic.severity (d : Diagnostic) : Severity :=
  if mentions "Warning".toList d.message.toList then .warning else .error

/-- How many complaints there are of each sort. -/
structure Stats where
  /-- Complaints about characters. -/
  lexical : Nat
  /-- Complaints about the order of tokens. -/
  syntactic : Nat
  /-- Complaints about types and names. -/
  semantic : Nat
  deriving DecidableEq, Repr

/-- The answer to a compilation. -/
inductive CompileOutcome where
  /-- The code is valid. -/
  | valid
  /-- The code is not valid, with the complaints in their order. -/
  | invalid (diagnostics : List Diagnostic) (stats : Option Stats)
  deriving DecidableEq, Repr

/-- The answer to an analysis. -/
inductive AnalyzeOutcome where
  /-- The time complexity. -/
  | success (complexity : String)
  /-- No analysis, with the reason. -/
  | failure (reason : String)
  deriving DecidableEq, Repr

/-- The answer to an optimization. -/
inductive OptimizeOutcome where
  /-- The new code and, if known, its time complexity. -/
  | success (code : String) (complexity : Option String)
  /-- No optimization, with the reason. -/
  | failure (reason : String)
  deriving DecidableEq, Repr

/-- The answer to any operation. -/
inductive Outcome where
  /-- The answer to a compilation. -/
  | compile (o : CompileOutcome)
  /-- The answer to an analysis. -/
  | analyze (o : AnalyzeOutcome)
  /-- The answer to an optimization. -/
  | optimize (o : OptimizeOutcome)
  deriving DecidableEq, Repr

namespace Outcome

/-- The operation that is answered. -/
def operation : Outcome → Operation
  | compile _ => .compile
  | analyze _ => .analyze
  | optimize _ => .optimize

/-- Whether the operation succeeded. -/
def isSuccess : Outcome → Bool
  | compile .valid | analyze (.success _) | optimize (.success _ _) => true
  | _ => false

end Outcome

end Workbench
