/-!
# Operations

What a user may ask of the backend: to compile the code in the editor, to analyze it, or to
optimize it.
-/

namespace Workbench

/-- The code that is handed in, exactly as it was typed. -/
structure Submission where
  /-- The code. -/
  code : String
  deriving DecidableEq, Repr, Inhabited

/-- Whether there is no code at all; blanks count as code. -/
def Submission.isEmpty (s : Submission) : Bool := s.code.isEmpty

/-- The three operations. -/
inductive Operation where
  /-- Check the code. Code found valid is registered afterwards. -/
  | compile
  /-- Find the time complexity of the code. -/
  | analyze
  /-- Find faster code that does the same. -/
  | optimize
  deriving DecidableEq, Repr

namespace Operation

/-- All operations. -/
def all : List Operation := [.compile, .analyze, .optimize]

/-- The name of an operation. -/
def name : Operation → String
  | .compile => "compile"
  | .analyze => "analyze"
  | .optimize => "optimize"

/-- What is shown while an operation is under way. -/
def pendingMessage : Operation → String
  | .compile => "Compiling code..."
  | .analyze => "Analyzing code..."
  | .optimize => "Optimizing code..."

/-- What is said when there is no code, by the operations that need some. -/
def emptyCodeMessage? : Operation → Option String
  | .compile => none
  | .analyze => some "Please enter code to analyze!"
  | .optimize => some "Please enter code to optimize!"

end Operation

/-- What is said to a user who is not signed in. -/
def loginRequired : String := "Please log in first!"

/-- What is said about a failure that comes without a reason. -/
def genericFailure : String := "Request failed"

end Workbench
